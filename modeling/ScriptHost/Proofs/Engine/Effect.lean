import ScriptHost.Engine
import ScriptHost.Proofs.Builtin.Frame
import ScriptHost.Proofs.Function.Dispatch

/-!
# What an engine function does to the world

An engine function makes at most one change, or starts at most one script (`World.Effect`); this
holds of every function, every argument and every call site (`World.effect_call`).  What all
effects keep, no call can break, and that is how invariants of the engine are proved.
-/

namespace ScriptHost

/-- A function without a native leaves the state as it is, and nothing but the native changes it. -/
theorem Registry.state_run {η ν σ : Type} (r : Registry η) (invoke : Registry.Invoke η ν σ)
    (f : FunctionDef η) (ctx : CallContext) (s : σ) :
    (r.run invoke f ctx s).state = f.native.elim s fun native ↦ (invoke native ctx s).state := by
  cases hf : f.native with
  | none => exact (run_unimplemented invoke s hf ctx).2
  | some native =>
    rw [run_implemented invoke s hf ctx]
    rfl

/-- A script that cannot be loaded is not started. -/
theorem Interpreter.runScript_state (it : Interpreter) (launch : Launcher) (name : String)
    (owner triggerer : ObjectId) (environment : Environment) (state : Option ScriptState)
    (w : World) :
    (it.runScript launch name owner triggerer environment state w).state = w ∨
      ∃ inv, (it.runScript launch name owner triggerer environment state w).state =
        (launch inv w).state := by
  unfold Interpreter.runScript
  cases it.load name with
  | error e => exact .inl rfl
  | ok script => exact .inr ⟨_, rfl⟩

/-- The worlds that one engine function can leave behind, given how scripts are started. -/
inductive World.Effect (launch : Launcher) (w : World) : World → Prop where
  | nothing : Effect launch w w
  | draw (max : Int32) : Effect launch w ((drawRandom max : Step Note World Int32) w).state
  | defer (script : String) (state : ScriptState) (owner triggerer : ObjectId) (delay : UInt64) :
      Effect launch w
        ((delayScript script state owner triggerer delay : Step Note World Nat) w).state
  /-- The module itself is never destroyed, neither now nor later. -/
  | doom (target : ObjectId) (delay : UInt64) (other : target ≠ w.schedule.object) :
      Effect launch w ((destroyDelayed target delay : Step Note World Nat) w).state
  | remove (target : ObjectId) (other : target ≠ w.schedule.object) :
      Effect launch w ((removeObject target : Step Note World (Option Object)) w).state
  | cancel (owner : ObjectId) :
      Effect launch w
        ((onSchedule (Schedule.clearActionsFor owner) : Step Note World Nat) w).state
  | setLocal (target : ObjectId) (name : String) (v : Value) :
      Effect launch w
        ((editObject target (Object.setLocal name v) : Step Note World Unit) w).state
  | deleteLocal (target : ObjectId) (name : String) (t : LocalType) :
      Effect launch w
        ((editObject target (fun o ↦
          if (o.getLocal? name).any (·.type == t.valueType) then o.deleteLocal name else o) :
            Step Note World Unit) w).state
  | start (inv : Invocation) : Effect launch w (launch inv w).state

namespace Builtin

open World

variable {it : Interpreter} {launch : Launcher} {w : World}

/-- A function that cannot read its parameters does nothing. -/
theorem effect_withArgs {α : Type} {read : Except NativeError α} {next : α → Native}
    (h : ∀ a, Effect launch w (next a w).state) :
    Effect launch w (withArgs read next w).state := by
  cases read with
  | ok a => exact h a
  | error e => exact .nothing

/-- A script that fails leaves the world as it was when it failed. -/
theorem effect_executeScript (ctx : CallContext) :
    Effect launch w (runExecuteScript it launch ctx w).state := by
  refine effect_withArgs fun name ↦ effect_withArgs fun target ↦ ?_
  rw [Step.state_bind]
  generalize hrun : it.runScript launch name target ctx.triggerer _ none w = out
  have heffect : Effect launch w out.state := by
    rcases it.runScript_state launch name target ctx.triggerer _ none w with h | ⟨inv, h⟩
    · rw [← hrun, h]
      exact .nothing
    · rw [← hrun, h]
      exact .start inv
  cases out.value with
  | ok => exact heffect
  | error e => exact heffect

/-- A function that keeps to its scope makes at most one change. -/
theorem Leaves.effect {s : Scope} {ctx : CallContext} {v : World} (h : Leaves w ctx s v) :
    Effect launch w v := by
  cases h with
  | same => exact .nothing
  | draw max => exact .draw max
  | setLocal v _ _ => exact .setLocal _ _ v
  | deleteLocal t _ _ => exact .deleteLocal _ _ t
  | defer script state owner triggerer delay => exact .defer script state owner triggerer delay
  | cancel => exact .cancel ctx.caller
  | remove _ _ other => exact .remove _ other
  | doom delay _ _ other => exact .doom _ delay other

/-- What an engine function can do. -/
theorem effect_invoke (f : Builtin) (ctx : CallContext) :
    Effect launch w (invoke it launch f ctx w).state := by
  by_cases hf : f = executeScript
  · subst hf
    exact effect_executeScript ctx
  · exact (leaves_invoke f hf).effect

end Builtin

namespace World

variable {it : Interpreter} {launch : Launcher} {w : World}

/-- A call that is refused does nothing, and neither does one of a function without a native. -/
theorem effect_registry_call (r : Registry Builtin) (id : FunctionId) (args : List Value)
    (site : CallSite) :
    Effect launch w (r.call (Builtin.invoke it launch) id args site w).state := by
  unfold Registry.call
  cases r.get? id with
  | none => exact .nothing
  | some f =>
    dsimp only
    cases CallContext.make f args site with
    | error e => exact .nothing
    | ok ctx =>
      dsimp only
      rw [Registry.state_run]
      cases f.native with
      | none => exact .nothing
      | some native => exact Builtin.effect_invoke native ctx

/-- What a call of an engine function can do. -/
theorem effect_call (function : FunctionName) (args : List Value) (site : CallSite) :
    Effect launch w (call it launch function args site w).state := by
  cases function with
  | id id => exact effect_registry_call ..
  | name name =>
    change Effect launch w
      (w.functions.callByName (Builtin.invoke it launch) name args site w).state
    unfold Registry.callByName
    cases w.functions.find? name with
    | none => exact .nothing
    | some id => exact effect_registry_call ..

end World

end ScriptHost
