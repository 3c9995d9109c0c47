import ScriptHost.Proofs.Engine.CallTree
import ScriptHost.Proofs.Engine.Script

/-!
# The course of a request

To answer a request, scripts may be started; these make requests, for which others are started.
`Command.course` is the list of all requests that scripts make in the course of one, in the order in
which they make them, each with the world in which it is made.

`Interpreter.Traces` says by which steps a world turns into another while such requests are made.
Whatever is asked of a world, it is answered by these steps (`traces_run`), so what holds of a
course is proved by induction on them.  The steps also say what is noted on the way.  Requests are
looked into here in one place only: one that starts no script is a step of its own.
-/

namespace ScriptHost

/-- What an entry of a log notes; a record notes nothing. -/
def Entry.note? {ν : Type} : Entry ν → Option ν
  | record .. => none
  | note n => some n

/-- What was noted on the way to an outcome. -/
def Outcome.notes {ν σ α : Type} (out : Outcome ν σ α) : List ν :=
  out.log.filterMap Entry.note?

/-! ## Requests in their order -/

/-- A request, and the world in which it is made. -/
structure Request where
  command : Command
  world : World

/-- The requests that a program makes, and those that are made in the course of these. -/
def Program.course (perform : (c : Command) → Step Note World c.Reply)
    (inner : Command → World → List Request) : Program → World → List Request
  | .finish _, _ => []
  | .perform c next, w =>
    (⟨c, w⟩ :: inner c w) ++ (next (perform c w).value).course perform inner (perform c w).state
  | .observe next, w => (next w).course perform inner w
  | .note _ next, w => next.course perform inner w

/-- The script that a request starts at once. -/
def Command.start? (it : Interpreter) (w : World) : Command → Option Invocation
  | runScript name owner triggerer => it.invocation? name owner triggerer ∅ none
  | executeScript name owner triggerer environment =>
    it.invocation? name owner triggerer environment none
  | call function args site => w.callStart? it function args site
  | _ => none

section Course

variable (it : Interpreter) (launch : Launcher) (started : Invocation → World → List Request)

/-- The requests that are made while actions are fired, given those of the scripts that are
started. -/
def World.firingCourse : List Action → World → List Request
  | [], _ => []
  | a :: rest, w =>
    (w.fireStart? it a).elim [] (started · w) ++ firingCourse rest (fire it launch a w).state

/-- The requests that are made in the course of one, given those of the scripts that are started. -/
def Command.courseWith (w : World) : Command → List Request
  | pump => w.taken.firingCourse it launch started w.pumped
  | c => (c.start? it w).elim [] (started · w)

/-- The requests of a script that is started where so many levels of nesting are left. -/
def courseAt : Nat → Invocation → World → List Request
  | 0, _, _ => []
  | levels + 1, inv, w =>
    (it.run inv).course (Command.perform it (launchAt it levels))
      (fun c v ↦ c.courseWith it (launchAt it levels) (courseAt levels) v) w.deeper

end Course

/-- The requests of a script that is started. -/
def Interpreter.course (it : Interpreter) (inv : Invocation) (w : World) : List Request :=
  courseAt it (w.config.maxScriptDepth - w.depth) inv w

/-- The requests that scripts make in the course of a request of the host. -/
def Command.course (it : Interpreter) (c : Command) (w : World) : List Request :=
  c.courseWith it (launch it) it.course w

theorem Command.courseWith_of_ne {c : Command} (hc : c ≠ .pump) (it : Interpreter)
    (launch : Launcher) (started : Invocation → World → List Request) (w : World) :
    c.courseWith it launch started w = (c.start? it w).elim [] (started · w) := by
  cases c with
  | pump => exact absurd rfl hc
  | _ => rfl

/-! ## Requests that are allowed -/

section Within

variable {allowed : Command → World → Prop} {it : Interpreter} {launch : Launcher}
variable {started : Invocation → World → List Request}

theorem Program.Within.course {perform : (c : Command) → Step Note World c.Reply}
    {inner : Command → World → List Request}
    (hinner : ∀ c w, ∀ r ∈ inner c w, allowed r.command r.world) {p : Program} {w : World}
    (hp : p.Within allowed perform w) :
    ∀ r ∈ p.course perform inner w, allowed r.command r.world := by
  induction p generalizing w with
  | finish result => exact List.forall_mem_nil _
  | perform c next ih =>
    obtain ⟨hc, hnext⟩ := hp
    refine List.forall_mem_append.2 ⟨List.forall_mem_cons.2 ⟨hc, hinner c w⟩, ih _ hnext⟩
  | observe next ih => exact ih w hp
  | note n next ih => exact ih hp

section Started

variable (hstarted : ∀ inv w, ∀ r ∈ started inv w, allowed r.command r.world)

include hstarted

theorem allowed_of_mem_elim {start? : Option Invocation} {w : World} :
    ∀ r ∈ start?.elim [] (started · w), allowed r.command r.world := by
  cases start? with
  | none => exact List.forall_mem_nil _
  | some inv => exact hstarted inv w

theorem World.allowed_of_mem_firingCourse (actions : List Action) (w : World) :
    ∀ r ∈ w.firingCourse it launch started actions, allowed r.command r.world := by
  induction actions generalizing w with
  | nil => exact List.forall_mem_nil _
  | cons a rest ih =>
    exact List.forall_mem_append.2 ⟨allowed_of_mem_elim hstarted, ih _⟩

theorem Command.allowed_of_mem_courseWith (c : Command) (w : World) :
    ∀ r ∈ c.courseWith it launch started w, allowed r.command r.world := by
  by_cases hc : c = .pump
  · subst hc
    exact World.allowed_of_mem_firingCourse hstarted _ _
  · rw [courseWith_of_ne hc]
    exact allowed_of_mem_elim hstarted

end Started

theorem Interpreter.Within.courseAt (hit : it.Within allowed) (levels : Nat) (inv : Invocation)
    (w : World) : ∀ r ∈ courseAt it levels inv w, allowed r.command r.world := by
  induction levels generalizing inv w with
  | zero => exact List.forall_mem_nil _
  | succ levels ih =>
    exact (hit inv levels _).course fun c v ↦ c.allowed_of_mem_courseWith ih v

/-- Where scripts make only allowed requests, none other is made in the course of one of the
host. -/
theorem Interpreter.Within.course (hit : it.Within allowed) (c : Command) (w : World) :
    ∀ r ∈ c.course it w, allowed r.command r.world :=
  c.allowed_of_mem_courseWith (fun inv w ↦ hit.courseAt _ inv w) w

end Within

/-! ## Notes -/

namespace Step

variable {ν σ τ α β : Type}

@[simp] theorem notes_pure (a : α) (s : σ) : ((pure a : Step ν σ α) s).notes = [] := rfl

@[simp] theorem notes_bind (x : Step ν σ α) (k : α → Step ν σ β) (s : σ) :
    ((x >>= k) s).notes = (x s).notes ++ (k (x s).value (x s).state).notes :=
  List.filterMap_append

@[simp] theorem notes_record (level : Level) (text : String) (s : σ) :
    ((record level text : Step ν σ Unit) s).notes = [] := rfl

@[simp] theorem notes_note (n : ν) (s : σ) : ((note n : Step ν σ Unit) s).notes = [n] := rfl

@[simp] theorem notes_modify (f : σ → σ) (s : σ) : ((modify f : Step ν σ Unit) s).notes = [] := rfl

@[simp] theorem notes_zoom (view : σ → τ) (put : σ → τ → σ) (x : Step ν τ α) (s : σ) :
    (zoom view put x s).notes = (x (view s)).notes := rfl

end Step

/-- A pump notes what is noted as the events are handed on, and then what scripts note. -/
theorem World.notes_pump (it : Interpreter) (launch : Launcher) (w : World) :
    (pump it launch w).notes =
      (dispatchEvents w).notes ++ (Step.forEach w.pumped (fire it launch) w.taken).notes := by
  rw [pump_eq]
  exact List.filterMap_append

/-! ## What starts a script does nothing else -/

namespace Outcome

variable {ν σ α β : Type}

/-- Two outcomes leave the same state, and the same was noted on the way. -/
structure Agrees (out : Outcome ν σ α) (out' : Outcome ν σ β) : Prop where
  state_eq : out.state = out'.state
  notes_eq : out.notes = out'.notes

/-- What is only reported makes no difference. -/
theorem Agrees.bind {γ : Type} {x : Step ν σ α} {k : α → Step ν σ γ} {s : σ} {out : Outcome ν σ β}
    (h : (x s).Agrees out) (hk : ∀ a s, (k a s).state = s ∧ (k a s).notes = []) :
    ((x >>= k) s).Agrees out := by
  constructor
  · rw [Step.state_bind, (hk _ _).1, h.state_eq]
  · rw [Step.notes_bind, (hk _ _).2, List.append_nil, h.notes_eq]

theorem Agrees.record {x : Step ν σ α} {s : σ} {out : Outcome ν σ β} (h : (x s).Agrees out)
    (level : Level) (text : String) : ((Step.record level text >>= fun _ ↦ x) s).Agrees out :=
  ⟨h.state_eq, h.notes_eq⟩

end Outcome

/-- What comes of the start of a script, if there is one. -/
def Launcher.attempt (launch : Launcher) (start? : Option Invocation) (w : World) :
    Outcome Note World Unit :=
  match start? with
  | none => ⟨(), w, []⟩
  | some inv => ⟨(), (launch inv w).state, (launch inv w).log⟩

section Starts

variable {it : Interpreter} {w : World} (launch : Launcher)

theorem Interpreter.runScript_agrees (it : Interpreter) (name : String) (owner triggerer : ObjectId)
    (environment : Environment) (state : Option ScriptState) :
    (it.runScript launch name owner triggerer environment state w).Agrees
      (launch.attempt (it.invocation? name owner triggerer environment state) w) := by
  rw [runScript_eq]
  cases it.invocation? name owner triggerer environment state with
  | none => exact ⟨rfl, rfl⟩
  | some inv => exact ⟨rfl, rfl⟩

theorem Interpreter.runScript_of_none {name : String} {owner triggerer : ObjectId}
    {environment : Environment} {state : Option ScriptState}
    (h : it.invocation? name owner triggerer environment state = none) :
    it.runScript launch name owner triggerer environment state w =
      ⟨.error (.notFound name), w, []⟩ := by
  rw [runScript_eq, h]
  rfl

theorem Builtin.executeScript_agrees (it : Interpreter) (ctx : CallContext) (w : World) :
    (runExecuteScript it launch ctx w).Agrees
      (launch.attempt (executeScript.start? it w ctx) w) := by
  unfold start? runExecuteScript
  cases hname : ctx.arg Value.asString 0 with
  | error e => exact ⟨rfl, rfl⟩
  | ok name =>
    cases htarget : objectArg w ctx 1 with
    | error e =>
      simp only [withArgs, htarget]
      exact ⟨rfl, rfl⟩
    | ok target =>
      simp only [withArgs, htarget]
      refine (it.runScript_agrees launch ..).bind ?_
      rintro (e | _) v
      · exact ⟨rfl, rfl⟩
      · exact ⟨rfl, rfl⟩

/-- To fire an action comes to what its script comes to, if it starts one, or removes an object. -/
theorem World.fire_agrees (a : Action) :
    (fire it launch a w).Agrees (launch.attempt (w.fireStart? it a) w) ∨
      w.fireStart? it a = none ∧ ∃ target,
        (fire it launch a w).Agrees
          ((removeObject target : Step Note World (Option Object)) w) := by
  unfold fire fireStart?
  dsimp only
  split
  · exact .inl ⟨rfl, rfl⟩
  · cases hkind : a.kind with
    | destroy =>
      refine .inr ⟨rfl, w.objects.resolveId a.owner .invalid, .record (.bind ⟨rfl, rfl⟩ ?_) _ _⟩
      exact fun _ _ ↦ ⟨rfl, rfl⟩
    | script name state =>
      refine .inl (.record ((it.runScript_agrees launch ..).bind ?_) _ _)
      rintro (e | _) v
      · exact ⟨rfl, rfl⟩
      · exact ⟨rfl, rfl⟩

/-- A call comes to what the script comes to that it starts. -/
theorem World.call_agrees {function : FunctionName} {args : List Value} {site : CallSite}
    {inv : Invocation} (h : w.callStart? it function args site = some inv) :
    (call it launch function args site w).Agrees (launch.attempt (some inv) w) := by
  obtain ⟨f, hnamed, hstart⟩ := Option.bind_eq_some_iff.1 h
  cases hctx : CallContext.make f args site with
  | error e =>
    rw [hctx] at hstart
    cases hstart
  | ok ctx =>
    rw [hctx] at hstart
    obtain ⟨b, hnative, hb⟩ := Option.bind_eq_some_iff.1 hstart
    cases b with
    | executeScript =>
      rw [call_of_make hnamed hctx, Registry.run_implemented _ w hnative, ← hb]
      have hagrees := Builtin.executeScript_agrees launch it ctx w
      exact ⟨hagrees.state_eq, hagrees.notes_eq⟩
    | _ => cases hb

/-- A request that starts a script comes to what the script comes to. -/
theorem Command.perform_agrees {c : Command} {inv : Invocation} (h : c.start? it w = some inv) :
    (c.perform it launch w).Agrees (launch.attempt (some inv) w) := by
  cases c with
  | call function args site => exact World.call_agrees launch h
  | runScript name owner triggerer =>
    have hrun := it.runScript_agrees (w := w) launch name owner triggerer ∅ none
    rwa [show it.invocation? name owner triggerer ∅ none = some inv from h] at hrun
  | executeScript name owner triggerer environment =>
    have hrun := it.runScript_agrees (w := w) launch name owner triggerer environment none
    rwa [show it.invocation? name owner triggerer environment none = some inv from h] at hrun
  | _ => cases h

end Starts

/-! ## What starts no script notes nothing -/

section Idle

variable {it : Interpreter} {launch : Launcher} {w : World} {ctx : CallContext}

theorem Schedule.notes_clearActionsFor (owner : ObjectId) (s : Schedule) :
    ((clearActionsFor owner : Step Note Schedule Nat) s).notes = [] := by
  unfold clearActionsFor Outcome.notes
  dsimp only
  split
  · rfl
  · rfl

theorem Container.notes_add (o : Object) (c : Container) :
    ((add o : Step Note Container ObjectId) c).notes = [] := by
  unfold add
  dsimp only
  split
  · rfl
  · rfl

theorem Container.notes_remove (id : ObjectId) (c : Container) :
    ((remove id : Step Note Container (Option Object)) c).notes = [] := by
  unfold remove
  split
  · rfl
  · rfl

namespace Builtin

theorem notes_withArgs {α : Type} {read : Except NativeError α} {next : α → Native}
    (h : ∀ a, (next a w).notes = []) : (withArgs read next w).notes = [] := by
  cases read with
  | ok a => exact h a
  | error e => rfl

theorem notes_assignCommand : (runAssignCommand ctx w).notes = [] := by
  refine notes_withArgs fun script ↦ notes_withArgs fun owner ↦ ?_
  split
  · rfl
  · exact notes_withArgs fun state ↦ rfl

theorem notes_destroyObject : (runDestroyObject ctx w).notes = [] := by
  refine notes_withArgs fun target ↦ ?_
  split
  · rfl
  · refine notes_withArgs fun delay ↦ ?_
    split
    · rw [Step.notes_bind, Step.notes_pure, List.append_nil]
      exact w.objects.notes_remove target
    · rfl

theorem notes_clearAllActions : (runClearAllActions ctx w).notes = [] := by
  rw [runClearAllActions, Step.notes_bind, Step.notes_pure, List.append_nil]
  exact w.schedule.notes_clearActionsFor ctx.caller

theorem notes_invoke {b : Builtin} (hb : b ≠ executeScript) :
    (invoke it launch b ctx w).notes = [] := by
  cases b with
  | executeScript => exact absurd rfl hb
  | assignCommand => exact notes_assignCommand
  | delayCommand | setLocal =>
    exact notes_withArgs fun _ ↦ notes_withArgs fun _ ↦ notes_withArgs fun _ ↦ rfl
  | actionDoCommand | deleteLocal => exact notes_withArgs fun _ ↦ notes_withArgs fun _ ↦ rfl
  | clearAllActions => exact notes_clearAllActions
  | destroyObject => exact notes_destroyObject
  | _ => exact notes_withArgs fun _ ↦ rfl

end Builtin

variable (launch) in
/-- A call that starts no script notes nothing, and makes at most the one change that is left to the
function, if that accepts the arguments. -/
theorem World.leaves_call {function : FunctionName} {args : List Value} {site : CallSite}
    (h : w.callStart? it function args site = none) :
    let out := call it launch function args site w
    out.notes = [] ∧
      (out.state = w ∨ ∃ f b, w.functions.named? function = some f ∧ f.native = some b ∧
        f.Accepts args ∧ Builtin.Leaves w (f.context args site) b.scope out.state) := by
  intro out
  rcases call_cases function args site w with ⟨e, hrefused⟩ | ⟨f, hnamed, haccepts⟩
  · have hout : out = _ := hrefused it launch
    rw [hout]
    exact ⟨rfl, .inl rfl⟩
  · have hctx := haccepts.make_eq site
    have hout : out = _ := call_of_make hnamed hctx it launch
    rw [hout]
    cases hnative : f.native with
    | none =>
      rw [Registry.run, hnative]
      cases w.functions.logUnimplemented with
      | true => exact ⟨rfl, .inl rfl⟩
      | false => exact ⟨rfl, .inl rfl⟩
    | some b =>
      rw [Registry.run_implemented _ w hnative]
      by_cases hb : b = .executeScript
      · subst hb
        have hnone : Builtin.executeScript.start? it w (f.context args site) = none := by
          simpa [callStart?, hnamed, hctx, hnative] using h
        have hagrees := Builtin.executeScript_agrees launch it (f.context args site) w
        rw [hnone] at hagrees
        exact ⟨hagrees.notes_eq, .inl hagrees.state_eq⟩
      · exact ⟨Builtin.notes_invoke hb,
          .inr ⟨f, b, hnamed, hnative, haccepts, Builtin.leaves_invoke b hb⟩⟩

theorem ObjectCommand.notes_useSearch {α : Type} (slot : String)
    (use : Search → Container → α × Search) (b : Browsing) :
    ((useSearch slot use : Step Note Browsing _) b).notes = [] := by
  unfold useSearch
  split
  · rfl
  · rfl

theorem ObjectCommand.notes_perform (c : ObjectCommand) (b : Browsing) :
    (c.perform (ν := Note) b).notes = [] := by
  cases c with
  | add o => exact b.objects.notes_add o
  | remove id => exact b.objects.notes_remove id
  | searchCopy slot target =>
    unfold perform
    dsimp only
    split
    · rfl
    · rfl
  | searchNext | searchGet | searchStep | searchDrain => exact notes_useSearch ..
  | _ => rfl

/-- A request that starts no script notes nothing, unless it is a pump. -/
theorem Command.notes_perform {c : Command} (hc : c ≠ .pump) (h : c.start? it w = none) :
    (c.perform it launch w).notes = [] := by
  cases c with
  | pump => exact absurd rfl hc
  | objects c => exact c.notes_perform _
  | schedule c =>
    change (c.perform (ν := Note) w.schedule).notes = []
    cases c with
    | clearActionsFor owner => exact w.schedule.notes_clearActionsFor owner
    | _ => rfl
  | call function args site => exact (World.leaves_call launch h).1
  | runScript | executeScript => exact congrArg Outcome.notes (it.runScript_of_none launch h)
  | _ => rfl

end Idle

/-! ## Courses in steps -/

/-- Whether a program notes nothing but what is allowed. -/
def Program.Notes (noted : Note → Prop) : Program → Prop
  | .finish _ => True
  | .perform _ next => ∀ reply, (next reply).Notes noted
  | .observe next => ∀ w, (next w).Notes noted
  | .note n next => noted n ∧ next.Notes noted

theorem Program.notes_of_all {noted : Note → Prop} (h : ∀ n, noted n) (p : Program) :
    p.Notes noted := by
  induction p with
  | finish result => exact trivial
  | perform c next ih => exact ih
  | observe next ih => exact ih
  | note n next ih => exact ⟨h n, ih⟩

namespace Interpreter

/-- Whether scripts note nothing but what is allowed. -/
def Notes (it : Interpreter) (noted : Note → Prop) : Prop :=
  ∀ inv, (it.run inv).Notes noted

/-- `it.Traces noted w requests v notes` says that the world `w` turns into `v` while scripts make
these requests, and that this is noted meanwhile.  What scripts note themselves is `noted`. -/
inductive Traces (it : Interpreter) (noted : Note → Prop) :
    World → List Request → World → List Note → Prop where
  | refl (w : World) : Traces it noted w [] w []
  | trans {w v u : World} {first second : List Request} {ns ms : List Note}
      (head : Traces it noted w first v ns) (tail : Traces it noted v second u ms) :
      Traces it noted w (first ++ second) u (ns ++ ms)
  | nest (w : World) (depth : Nat) : Traces it noted w [] { w with depth } []
  | note (w : World) {n : Note} (allowed : noted n) : Traces it noted w [] w [n]
  /-- An object is destroyed whose time has come. -/
  | remove (w : World) (target : ObjectId) :
      Traces it noted w []
        ((World.removeObject target : Step Note World (Option Object)) w).state []
  /-- A request starts no script. -/
  | request (launch : Launcher) (w : World) {c : Command} (other : c ≠ .pump)
      (idle : c.start? it w = none) :
      Traces it noted w [⟨c, w⟩] (c.perform it launch w).state []
  /-- A request starts a script, which makes the requests that follow. -/
  | start {w v : World} {c : Command} {requests : List Request} {ns : List Note}
      (other : c ≠ .pump) (starts : c.start? it w ≠ none)
      (inner : Traces it noted w requests v ns) :
      Traces it noted w (⟨c, w⟩ :: requests) v ns
  | pump {w v : World} {requests : List Request} {ns : List Note}
      (inner : Traces it noted w.taken requests v ns) :
      Traces it noted w (⟨.pump, w⟩ :: requests) v ((World.dispatchEvents w).notes ++ ns)

section Traces

variable {it : Interpreter} {noted : Note → Prop} {launch : Launcher}
variable {started : Invocation → World → List Request}

/-- What a program does is made of these steps, if the answers to its requests are. -/
theorem traces_exec {perform : (c : Command) → Step Note World c.Reply}
    {inner : Command → World → List Request}
    (hperform : ∀ c w, it.Traces noted w (⟨c, w⟩ :: inner c w) (perform c w).state
      (perform c w).notes)
    (p : Program) (hp : p.Notes noted) (w : World) :
    it.Traces noted w (p.course perform inner w) (p.exec perform w).state
      (p.exec perform w).notes := by
  induction p generalizing w with
  | finish result => exact .refl w
  | perform c next ih =>
    unfold Program.exec
    rw [Step.notes_bind]
    exact .trans (hperform c w) (ih _ (hp _) _)
  | observe next ih => exact ih w (hp w) w
  | note n next ih =>
    obtain ⟨hn, hnext⟩ := hp
    unfold Program.exec
    rw [Step.notes_bind]
    exact .trans (.note w hn) (ih hnext w)

section Launch

variable (hlaunch : ∀ inv w,
  it.Traces noted w (started inv w) (launch inv w).state (launch inv w).notes)

include hlaunch

theorem traces_attempt (start? : Option Invocation) (w : World) :
    it.Traces noted w (start?.elim [] (started · w)) (launch.attempt start? w).state
      (launch.attempt start? w).notes := by
  cases start? with
  | none => exact .refl w
  | some inv => exact hlaunch inv w

theorem traces_fire (a : Action) (w : World) :
    it.Traces noted w ((w.fireStart? it a).elim [] (started · w))
      (World.fire it launch a w).state (World.fire it launch a w).notes := by
  rcases World.fire_agrees launch a with h | ⟨hnone, target, h⟩
  · rw [h.state_eq, h.notes_eq]
    exact traces_attempt hlaunch _ w
  · have hsilent : ((World.removeObject target : Step Note World _) w).notes = [] :=
      w.objects.notes_remove target
    rw [h.state_eq, h.notes_eq, hnone, hsilent]
    exact .remove w target

theorem traces_fireAll (actions : List Action) (w : World) :
    it.Traces noted w (w.firingCourse it launch started actions)
      (Step.forEach actions (World.fire it launch) w).state
      (Step.forEach actions (World.fire it launch) w).notes := by
  induction actions generalizing w with
  | nil => exact .refl w
  | cons a rest ih =>
    rw [Step.forEach, Step.notes_bind]
    exact .trans (traces_fire hlaunch a w) (ih _)

theorem traces_perform (c : Command) (w : World) :
    it.Traces noted w (⟨c, w⟩ :: c.courseWith it launch started w) (c.perform it launch w).state
      (c.perform it launch w).notes := by
  by_cases hc : c = .pump
  · subst hc
    have hpump : (Command.pump.perform it launch w).state = _ := (World.pump_apply w).1
    have hnotes : (Command.pump.perform it launch w).notes = _ := World.notes_pump it launch w
    rw [hpump, hnotes]
    exact .pump (traces_fireAll hlaunch w.pumped w.taken)
  · rw [Command.courseWith_of_ne hc]
    cases hstart : c.start? it w with
    | none =>
      rw [Command.notes_perform hc hstart]
      exact .request launch w hc hstart
    | some inv =>
      have hagrees := Command.perform_agrees launch hstart
      rw [hagrees.state_eq, hagrees.notes_eq]
      exact .start hc (by rw [hstart]; exact nofun) (hlaunch inv w)

end Launch

variable (hit : it.Notes noted)

include hit

theorem traces_launchAt (levels : Nat) (inv : Invocation) (w : World) :
    it.Traces noted w (courseAt it levels inv w) (launchAt it levels inv w).state
      (launchAt it levels inv w).notes := by
  induction levels generalizing inv w with
  | zero => exact .refl w
  | succ levels ih =>
    let body := (it.run inv).exec (Command.perform it (launchAt it levels)) w.deeper
    have hup : it.Traces noted w [] w.deeper [] := .nest w _
    have hbody : it.Traces noted w.deeper _ body.state body.notes :=
      traces_exec (traces_perform ih) (it.run inv) (hit inv) w.deeper
    let left := { body.state with depth := body.state.depth - 1 }
    have hdown : it.Traces noted body.state [] left [] := .nest _ _
    have hnotes : (launchAt it (levels + 1) inv w).notes = body.notes := by
      simp only [launchAt, Step.notes_bind, Step.notes_modify, Step.notes_pure, List.nil_append,
        List.append_nil]
      rfl
    have hall := (hup.trans hbody).trans hdown
    rw [List.nil_append, List.append_nil, List.nil_append, List.append_nil] at hall
    rw [hnotes]
    exact hall

theorem traces_run (c : Command) (w : World) :
    it.Traces noted w (⟨c, w⟩ :: c.course it w) (c.run it w).state (c.run it w).notes :=
  traces_perform (fun inv w ↦ traces_launchAt hit _ inv w) c w

/-- What a pump of the host fires, once all of it is off the queue. -/
theorem traces_fired (w : World) :
    let fired := Step.forEach w.pumped (World.fire it (ScriptHost.launch it)) w.taken
    it.Traces noted w.taken (Command.pump.course it w) fired.state fired.notes :=
  traces_fireAll (fun inv w ↦ traces_launchAt hit _ inv w) w.pumped w.taken

end Traces

end Interpreter

end ScriptHost
