import ScriptHost.Schedule.Action
import ScriptHost.SortedMap
import ScriptHost.Step

/-!
# The schedule of a module

The schedule of the running module keeps the deferred actions in the order in which they are to
fire, the events in the order in which they came in, and whether the module is still running.

Actions are numbered from zero on, one more with every request that queues one.  Here the numbers
are naturals; a counter of 64 bits gives the same ones as long as there are at most `2 ^ 64` such
requests.
-/

namespace ScriptHost

/-- The queues of a module. -/
@[ext]
structure Schedule where
  /-- The object that stands for the module itself. -/
  object : ObjectId
  actions : SortedMap ActionKey Action
  events : List Event
  /-- How many actions were ever queued. -/
  nextSeq : Nat
  running : Bool

namespace Schedule

variable {ν : Type}

/-- The empty schedule of a module that is running. -/
def start (object : ObjectId) : Schedule := ⟨object, ∅, [], 0, true⟩

instance : Inhabited Schedule := ⟨start default⟩

def stop (s : Schedule) : Schedule :=
  { s with running := false }

/-! ## Actions -/

/-- What is reported about an action that is queued. -/
def queuedText (a : Action) : String :=
  "queued action #" ++ toString a.seq ++ " " ++ Text.quoted (a.scriptName?.getD "<destroy>") ++
    " for " ++ a.owner.text ++ " at " ++ toString a.timestamp.toNat ++ "ms"

/-- Queues an action under the next number. -/
def queue (a : Action) : Step ν Schedule Nat := fun s ↦
  let a := { a with seq := s.nextSeq }
  ⟨s.nextSeq, { s with actions := s.actions.insert a.key a, nextSeq := s.nextSeq + 1 },
    [.record .debug (queuedText a)]⟩

/-- Takes entries off the front of a queue, one after the other, and adds them to those that were
taken before.  It stops when the limit is reached, when nothing is left, or at the first action that
is not due. -/
def popDue (now : UInt64) (limit : Option Nat) (taken : List Action) :
    List (ActionKey × Action) → List Action × List (ActionKey × Action)
  | [] => (taken, [])
  | (key, a) :: rest =>
    if limit.any (· ≤ taken.length) then (taken, (key, a) :: rest)
    else if now < a.timestamp then (taken, (key, a) :: rest)
    else popDue now limit (taken ++ [a]) rest

theorem snd_popDue_suffix (now : UInt64) (limit : Option Nat) (taken : List Action)
    (entries : List (ActionKey × Action)) : (popDue now limit taken entries).2 <:+ entries := by
  induction entries generalizing taken with
  | nil => exact List.suffix_rfl
  | cons e rest ih =>
    unfold popDue
    split
    · exact List.suffix_rfl
    · split
      · exact List.suffix_rfl
      · exact (ih _).trans (List.suffix_cons e rest)

/-- Takes the due actions off the queue, in firing order, at most `limit` of them. -/
def takeDue (s : Schedule) (now : UInt64) (limit : Option Nat) : List Action × Schedule :=
  let popped := popDue now limit [] s.actions.entries
  let left := s.actions.sorted.sublist (snd_popDue_suffix now limit [] s.actions.entries).sublist
  (popped.1, { s with actions := ⟨popped.2, left⟩ })

/-- Whether an action is one that its owner can call off: destruction cannot be. -/
def isCancelledBy (owner : ObjectId) (a : Action) : Bool :=
  a.owner == owner && a.kind.isScript

/-- Calls off the actions of an owner, and says how many there were. -/
def clearActionsFor (owner : ObjectId) : Step ν Schedule Nat := fun s ↦
  let kept := s.actions.filter fun _ a ↦ !isCancelledBy owner a
  let removed := s.actions.size - kept.size
  ⟨removed, { s with actions := kept },
    if removed = 0 then []
    else [.record .debug ("cleared " ++ toString removed ++ " actions of " ++ owner.text)]⟩

def clearActions (s : Schedule) : Schedule :=
  { s with actions := ∅ }

def nextFireTime? (s : Schedule) : Option UInt64 :=
  s.actions.values.head?.map (·.timestamp)

/-! ## Events -/

def addEvent (s : Schedule) (e : Event) : Schedule :=
  { s with events := s.events ++ [e] }

/-- Takes all events. -/
def takeEvents (s : Schedule) : List Event × Schedule :=
  (s.events, { s with events := [] })

/-- Empties both queues. -/
def clear (s : Schedule) : Schedule :=
  { s with actions := ∅, events := [] }

def diagnostic (s : Schedule) : String :=
  Text.shownRecord "Module"
    [("object", s.object.text),
      ("actions",
        Text.shownMap (s.actions.entries.map fun (key, a) ↦ (key.diagnostic, a.diagnostic))),
      ("events", Text.shownList (s.events.map (·.diagnostic))),
      ("next_seq", toString s.nextSeq), ("running", Text.shownFlag s.running)]

end Schedule

end ScriptHost
