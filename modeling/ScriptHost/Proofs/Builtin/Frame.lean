import ScriptHost.Builtin.Native

/-!
# What an engine function leaves alone

Every engine function has one part of the world to itself (`Builtin.scope`): most have none, and
only one has all of it, because it starts a script.  `Builtin.Leaves` says what a function may leave
of a world, by its scope: the world as it is, or with one change to that part.  This is where the
natives are opened (`leaves_invoke`); everything else about what calls change is read off
`Leaves`.
-/

namespace ScriptHost.Builtin

open World

/-- The part of the world that an engine function may change. -/
inductive Scope where
  | nothing
  | random
  /-- The locals of an object. -/
  | locals
  /-- The queue, by a script that is to be resumed. -/
  | commands
  /-- The queue, by the scripts of the caller that wait. -/
  | cancellation
  /-- An object, or the queue by its destruction. -/
  | destruction
  /-- Whatever a script may change. -/
  | script
  deriving DecidableEq

/-- What a function may change. -/
def scope : Builtin → Scope
  | random => .random
  | assignCommand | delayCommand | actionDoCommand => .commands
  | executeScript => .script
  | clearAllActions => .cancellation
  | setLocal _ | deleteLocal _ => .locals
  | destroyObject => .destruction
  | _ => .nothing

/-- The worlds that a call can leave of a world, if the function has a scope and starts no script:
at most one change is made, and the parameters say to what. -/
inductive Leaves (w : World) (ctx : CallContext) : Scope → World → Prop where
  | same {s : Scope} : Leaves w ctx s w
  | draw (max : Int32) : Leaves w ctx .random ((drawRandom max : Step Note World Int32) w).state
  | setLocal {target : ObjectId} {name : String} (v : Value) (read : objectArg w ctx 0 = .ok target)
      (named : ctx.arg Value.asString 1 = .ok name) :
      Leaves w ctx .locals
        ((editObject target (Object.setLocal name v) : Step Note World Unit) w).state
  | deleteLocal {target : ObjectId} {name : String} (t : LocalType)
      (read : objectArg w ctx 0 = .ok target) (named : ctx.arg Value.asString 1 = .ok name) :
      Leaves w ctx .locals
        ((editObject target (fun o ↦
          if (o.getLocal? name).any (·.type == t.valueType) then o.deleteLocal name else o) :
            Step Note World Unit) w).state
  | defer (script : String) (state : ScriptState) (owner triggerer : ObjectId) (delay : UInt64) :
      Leaves w ctx .commands
        ((delayScript script state owner triggerer delay : Step Note World Nat) w).state
  | cancel :
      Leaves w ctx .cancellation
        ((onSchedule (Schedule.clearActionsFor ctx.caller) : Step Note World Nat) w).state
  /-- The module itself is never destroyed, neither now nor later. -/
  | remove {target : ObjectId} (read : objectArg w ctx 0 = .ok target)
      (valid : target.isInvalid = false) (other : target ≠ w.schedule.object) :
      Leaves w ctx .destruction ((removeObject target : Step Note World (Option Object)) w).state
  | doom {target : ObjectId} (delay : UInt64) (read : objectArg w ctx 0 = .ok target)
      (valid : target.isInvalid = false) (other : target ≠ w.schedule.object) :
      Leaves w ctx .destruction ((destroyDelayed target delay : Step Note World Nat) w).state

section Natives

variable {it : Interpreter} {launch : Launcher} {w : World} {ctx : CallContext} {s : Scope}

/-- A function that cannot read its parameters changes nothing. -/
theorem leaves_withArgs {α : Type} {read : Except NativeError α} {next : α → Native}
    (h : ∀ a, read = .ok a → Leaves w ctx s (next a w).state) :
    Leaves w ctx s (withArgs read next w).state := by
  cases read with
  | ok a => exact h a rfl
  | error e => exact .same

theorem leaves_look (f : World → CallContext → Except NativeError Value) :
    Leaves w ctx s (look f ctx w).state :=
  leaves_withArgs fun _ _ ↦ .same

theorem leaves_print (text : Except NativeError String) :
    Leaves w ctx s (print ctx text w).state :=
  leaves_withArgs fun _ _ ↦ .same

theorem leaves_assignCommand : Leaves w ctx .commands (runAssignCommand ctx w).state := by
  refine leaves_withArgs fun script _ ↦ leaves_withArgs fun owner _ ↦ ?_
  split
  · exact .same
  · exact leaves_withArgs fun state _ ↦ .defer script state owner ctx.triggerer 0

theorem leaves_destroyObject : Leaves w ctx .destruction (runDestroyObject ctx w).state := by
  refine leaves_withArgs fun target hread ↦ ?_
  split
  · exact .same
  · rename_i hkeep
    obtain ⟨hvalid, hother⟩ := not_or.1 hkeep
    rw [Bool.not_eq_true] at hvalid
    refine leaves_withArgs fun delay _ ↦ ?_
    split
    · exact .remove hread hvalid hother
    · exact .doom delay.toMillis hread hvalid hother

/-- A function that starts no script keeps to its scope. -/
theorem leaves_invoke (b : Builtin) (hb : b ≠ executeScript) :
    Leaves w ctx b.scope (invoke it launch b ctx w).state := by
  cases b with
  | executeScript => exact absurd rfl hb
  | random => exact leaves_withArgs fun max _ ↦ .draw max
  | assignCommand => exact leaves_assignCommand
  | delayCommand =>
    exact leaves_withArgs fun script _ ↦ leaves_withArgs fun delay _ ↦ leaves_withArgs fun state _ ↦
      .defer script state ctx.caller ctx.triggerer delay.toMillis
  | actionDoCommand =>
    exact leaves_withArgs fun script _ ↦ leaves_withArgs fun state _ ↦
      .defer script state ctx.caller ctx.triggerer 0
  | clearAllActions => exact .cancel
  | destroyObject => exact leaves_destroyObject
  | setLocal t =>
    exact leaves_withArgs fun target hread ↦ leaves_withArgs fun name hname ↦
      leaves_withArgs fun v _ ↦ .setLocal v hread hname
  | deleteLocal t =>
    exact leaves_withArgs fun target hread ↦ leaves_withArgs fun name hname ↦
      .deleteLocal (deletedType ctx.name) hread hname
  | printString | printFloat | printInteger | printObject => exact leaves_print _
  | floatToString | getArea | getPosition | getDistanceToObject | getIsObjectValid | getLocal
  | getStringLength | intToString | getObjectType | getDistanceBetween | getTag | getObjectByTag
  | getNearestObject | getNearestObjectByTag | intToFloat | floatToInt | stringToInt | getModule =>
    exact leaves_look _

/-- Nor does it depend on what scripts there are, and how they are started. -/
theorem invoke_eq {b : Builtin} (hb : b ≠ executeScript) (it it' : Interpreter)
    (launch launch' : Launcher) : invoke it launch b = invoke it' launch' b := by
  cases b with
  | executeScript => exact absurd rfl hb
  | _ => rfl

end Natives

end ScriptHost.Builtin
