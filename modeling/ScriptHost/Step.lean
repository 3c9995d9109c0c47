/-!
# Steps on a state that keep a log

A `Step ν σ α` changes a state of type `σ`, yields an `α` and reports what happened on the way.
The report is kept apart from the state: a step cannot read what was reported before it, so two
steps that agree on value and state differ in nothing that a later step could notice.  Notes of
type `ν` are what the surroundings of the engine write between its own records.
-/

namespace ScriptHost

/-- How weighty a record is, the weightiest first. -/
inductive Level where
  | warn
  | info
  | debug
  | trace
  deriving DecidableEq, Inhabited

namespace Level

/-- The place of a level: a log that is kept up to a level keeps all places up to its place. -/
def place : Level → Nat
  | warn => 1
  | info => 2
  | debug => 3
  | trace => 4

def name : Level → String
  | warn => "WARN"
  | info => "INFO"
  | debug => "DEBUG"
  | trace => "TRACE"

end Level

/-- One entry of a log. -/
inductive Entry (ν : Type) where
  | record (level : Level) (text : String)
  | note (content : ν)

/-- Whether an entry is kept in a log of records up to a level, if any; notes always are. -/
def Entry.isKept {ν : Type} (limit : Option Level) : Entry ν → Bool
  | record level _ => limit.any fun l ↦ level.place ≤ l.place
  | note _ => true

/-- What a step leaves behind. -/
@[ext]
structure Outcome (ν σ α : Type) where
  value : α
  state : σ
  log : List (Entry ν)

/-- A step on a state. -/
def Step (ν σ α : Type) : Type := σ → Outcome ν σ α

namespace Step

variable {ν σ τ α β : Type}

instance : Monad (Step ν σ) where
  pure a := fun s ↦ ⟨a, s, []⟩
  bind x k := fun s ↦
    let first := x s
    let second := k first.value first.state
    ⟨second.value, second.state, first.log ++ second.log⟩

@[simp] theorem pure_apply (a : α) (s : σ) : (pure a : Step ν σ α) s = ⟨a, s, []⟩ := rfl

@[simp] theorem value_bind (x : Step ν σ α) (k : α → Step ν σ β) (s : σ) :
    ((x >>= k) s).value = (k (x s).value (x s).state).value := rfl

@[simp] theorem state_bind (x : Step ν σ α) (k : α → Step ν σ β) (s : σ) :
    ((x >>= k) s).state = (k (x s).value (x s).state).state := rfl

@[simp] theorem log_bind (x : Step ν σ α) (k : α → Step ν σ β) (s : σ) :
    ((x >>= k) s).log = (x s).log ++ (k (x s).value (x s).state).log := rfl

@[ext] theorem ext {x y : Step ν σ α} (h : ∀ s, x s = y s) : x = y := funext h

/-- The state. -/
def get : Step ν σ σ := fun s ↦ ⟨s, s, []⟩

/-- A part of the state. -/
def gets (f : σ → α) : Step ν σ α := fun s ↦ ⟨f s, s, []⟩

/-- Changes the state. -/
def modify (f : σ → σ) : Step ν σ Unit := fun s ↦ ⟨(), f s, []⟩

/-- Reports a record. -/
def record (level : Level) (text : String) : Step ν σ Unit := fun s ↦ ⟨(), s, [.record level text]⟩

/-- Reports a note. -/
def note (content : ν) : Step ν σ Unit := fun s ↦ ⟨(), s, [.note content]⟩

@[simp] theorem get_apply (s : σ) : (get : Step ν σ σ) s = ⟨s, s, []⟩ := rfl

@[simp] theorem gets_apply (f : σ → α) (s : σ) : (gets f : Step ν σ α) s = ⟨f s, s, []⟩ := rfl

@[simp] theorem modify_apply (f : σ → σ) (s : σ) : (modify f : Step ν σ Unit) s = ⟨(), f s, []⟩ :=
  rfl

@[simp] theorem record_apply (level : Level) (text : String) (s : σ) :
    (record level text : Step ν σ Unit) s = ⟨(), s, [.record level text]⟩ := rfl

@[simp] theorem note_apply (content : ν) (s : σ) :
    (note content : Step ν σ Unit) s = ⟨(), s, [.note content]⟩ := rfl

/-- A choice by a part of the state. -/
theorem gets_bind_ite (p : σ → Bool) (x y : Step ν σ α) (s : σ) :
    (gets p >>= fun b ↦ if b then x else y) s = if p s then x s else y s := by
  have hchoice : ∀ b : Bool, (if b then x else y) s = if b then x s else y s := by
    intro b
    cases b <;> rfl
  exact hchoice (p s)

/-- A step on a part of the state. -/
def zoom (view : σ → τ) (put : σ → τ → σ) (x : Step ν τ α) : Step ν σ α := fun s ↦
  let inner := x (view s)
  ⟨inner.value, put s inner.state, inner.log⟩

@[simp] theorem value_zoom (view : σ → τ) (put : σ → τ → σ) (x : Step ν τ α) (s : σ) :
    (zoom view put x s).value = (x (view s)).value := rfl

@[simp] theorem state_zoom (view : σ → τ) (put : σ → τ → σ) (x : Step ν τ α) (s : σ) :
    (zoom view put x s).state = put s (x (view s)).state := rfl

@[simp] theorem log_zoom (view : σ → τ) (put : σ → τ → σ) (x : Step ν τ α) (s : σ) :
    (zoom view put x s).log = (x (view s)).log := rfl

/-- Every element of a list in turn. -/
def forEach (xs : List α) (f : α → Step ν σ Unit) : Step ν σ Unit :=
  match xs with
  | [] => pure ()
  | x :: rest => do
    f x
    forEach rest f

end Step

end ScriptHost
