import ScriptHost.Proofs.Engine.Deferred
import ScriptHost.Proofs.Engine.Locals
import ScriptHost.Proofs.Engine.Queue
import ScriptHost.Proofs.Single

/-!
# Destruction, now or later

`DestroyObject` is given a delay.  If the delay lasts, the object is left alone and its destruction
is queued; if not, the object is gone at once and nothing is queued (`World.destroyed_by_delay`).
Which of the two it is goes by whole milliseconds and not by the sign: a delay that is above zero,
but below half a millisecond, does not put the destruction off (`World.destroyed_before_delay`).
-/

namespace ScriptHost

open World

namespace Builtin

variable {it : Interpreter} {launch : Launcher} {w : World} {ctx : CallContext}
variable {target : ObjectId} {delay : Single}

/-- What `DestroyObject` does to an object other than the module. -/
theorem invoke_destroyObject (hread : objectArg w ctx 0 = .ok target)
    (hdelay : ctx.arg Value.asFloat 1 = .ok delay) (hvalid : target.isInvalid = false)
    (hother : target ≠ w.schedule.object) :
    let out := invoke it launch destroyObject ctx w
    let doom := Action.destroy target (w.clock.after delay.toMillis)
    out.value = .ok ctx ∧
      (delay.Lasts → out.state = { w with schedule := w.schedule.enqueued doom }) ∧
      (¬delay.Lasts →
        out.state = ((removeObject target : Step Note World (Option Object)) w).state) := by
  intro out doom
  have hout : out = (if delay.toMillis = 0 then do
        let _ ← removeObject target
        return .ok ctx
      else do
        let _ ← destroyDelayed target delay.toMillis
        return .ok ctx : Native) w := by
    change runDestroyObject ctx w = _
    have hkeep : ¬(target.isInvalid = true ∨ target = w.schedule.object) := by
      rw [hvalid]
      exact not_or.2 ⟨Bool.false_ne_true, hother⟩
    rw [runDestroyObject, hread, withArgs, if_neg hkeep, hdelay, withArgs]
  rw [hout]
  by_cases hlasts : delay.Lasts
  · rw [if_neg (Single.toMillis_ne_zero_iff.2 hlasts)]
    exact ⟨rfl, fun _ ↦ rfl, fun h ↦ absurd hlasts h⟩
  · rw [if_pos (Single.toMillis_eq_zero_iff.2 hlasts)]
    exact ⟨rfl, fun h ↦ absurd h hlasts, fun _ ↦ rfl⟩

end Builtin

namespace World

section Calls

variable {w : World} {f : FunctionDef Builtin} {function : FunctionName} {args : List Value}
variable {site : CallSite} {reference target : ObjectId} {delay : Single}

/-- What a call does that destroys an object other than the module. -/
theorem Reachable.call_destroyObject (hw : w.Reachable) (hopen : w.isShutDown = false)
    (hf : f ∈ Builtin.table) (hname : f.name = "DestroyObject")
    (hfunction : function = .id f.id ∨ function = .name f.name)
    (hfill : f.fill args = [.object reference, .float delay])
    (htarget : w.objects.resolveId reference site.caller = target)
    (hlive : w.objects.contains target = true) (hother : target ≠ w.schedule.object)
    (it : Interpreter) (launch : Launcher) :
    let out := call it launch function args site w
    let doom := Action.destroy target (w.clock.after delay.toMillis)
    out.value = .ok .void ∧
      (delay.Lasts → out.state = { w with schedule := w.schedule.enqueued doom }) ∧
      (¬delay.Lasts →
        out.state = ((removeObject target : Step Note World (Option Object)) w).state) := by
  intro out doom
  have hnative : f.native = some .destroyObject := Builtin.native_of_name hf hname
  have hsig : f.signature = Builtin.destroyObject.signature := Builtin.signature_eq hf hnative
  have haccepts : f.Accepts args := by
    refine FunctionDef.accepts_of_types_fill (Builtin.wellFormed_table f hf) ?_
    rw [hfill, hsig]
    rfl
  let ctx := f.context args site
  have hparams : ctx.params = [.object reference, .float delay] := hfill
  have hread : Builtin.objectArg w ctx 0 = .ok target := by
    rw [Builtin.objectArg, CallContext.arg, CallContext.param, hparams]
    exact congrArg Except.ok htarget
  have hdelay : ctx.arg Value.asFloat 1 = .ok delay := by
    rw [CallContext.arg, CallContext.param, hparams]
    rfl
  have hconcrete := hw.wellFormed_objects.isConcrete_of_contains hlive
  have hvalid := ObjectId.isInvalid_of_lt_self (ObjectId.isConcrete_iff.1 hconcrete)
  obtain ⟨hvalue, hstates⟩ := Builtin.invoke_destroyObject hread hdelay hvalid hother
  have hout : out = _ :=
    call_of_make (hw.named?_eq hopen hf hfunction) (haccepts.make_eq site) it launch
  rw [hout, Registry.run_implemented _ w hnative]
  refine ⟨?_, hstates⟩
  dsimp only
  rw [hvalue, f.result_context, hsig]
  rfl

/-- Once its destruction had its turn, an object is gone. -/
theorem Reachable.gone_after_fire (hw : w.Reachable) {a : Action} (hkind : a.kind = .destroy)
    (it : Interpreter) (launch : Launcher) :
    (fire it launch a w).state.objects.get? a.owner = none := by
  have hwf := hw.wellFormed_objects
  by_cases hlost : w.Lost a.owner
  · rw [fire_of_lost hwf hlost]
    exact Option.not_isSome_iff_eq_none.1 (Bool.eq_false_iff.1 hlost.2)
  · exact (fire_destroys_target hwf hlost hkind).2.1

end Calls

/-- What `DestroyObject` does to a live object other than the module, in every world and whoever
calls it.

- If the delay lasts, the object stays and nothing else is changed, except that one action more
  waits: the destruction of that object, not before now.  The object is gone when the action has
  had its turn, whenever that is.
- If not, and so for every delay that is not above zero or not a number, the object is gone at
  once.  No other object is changed, and nothing is queued. -/
theorem destroyed_by_delay (it : Interpreter) (launch : Launcher) {w : World} (hw : w.Reachable)
    (hopen : w.isShutDown = false) {f : FunctionDef Builtin} (hf : f ∈ Builtin.table)
    (hname : f.name = "DestroyObject") {function : FunctionName}
    (hfunction : function = .id f.id ∨ function = .name f.name) {args : List Value}
    {reference target : ObjectId} {delay : Single}
    (hfill : f.fill args = [.object reference, .float delay]) (site : CallSite)
    (htarget : w.objects.resolveId reference site.caller = target)
    (hlive : w.objects.contains target = true) (hother : target ≠ w.schedule.object) :
    let out := call it launch function args site w
    out.value = .ok .void ∧
      (delay.Lasts → out.state.objects.contains target = true ∧
        ∃ a, a.kind = .destroy ∧ a.owner = target ∧ w.clock.now ≤ a.timestamp ∧
          Queues a w out.state ∧
          ∀ later : World, later.Reachable →
            (fire it launch a later).state.objects.contains target = false) ∧
      (¬delay.Lasts → Drops target w out.state) ∧
      (delay.isPositive = false → ¬delay.Lasts) := by
  intro out
  obtain ⟨hvalue, hlater, hnow⟩ :=
    hw.call_destroyObject hopen hf hname hfunction hfill htarget hlive hother it launch
  refine ⟨hvalue, fun hlasts ↦ ?_, fun hlasts ↦ ?_, Single.not_lasts_of_isPositive⟩
  · let doom := Action.destroy target (w.clock.after delay.toMillis)
    have hstate : out.state = _ := hlater hlasts
    have htime : w.clock.now ≤ doom.timestamp := w.clock.le_after _
    rw [hstate]
    refine ⟨hlive, { doom with seq := w.schedule.nextSeq }, rfl, rfl, htime, hw.queues doom, ?_⟩
    intro later hlaterw
    exact congrArg Option.isSome (hlaterw.gone_after_fire rfl it launch)
  · have hstate : out.state = _ := hnow hlasts
    rw [hstate]
    exact hw.drops hlive

/-- A creature is destroyed in a second, or at once if no delay is given. -/
theorem destroyed_by_delay_or_at_once :
    let it := Interpreter.idle
    let w := populated [.add (.fresh .creature "npc")]
    let delayed := (call it (launch it) (.name "DestroyObject")
      [.object ⟨2⟩, .float (.ofInt 1)] .none w).state
    let prompt := (call it (launch it) (.name "DestroyObject") [.object ⟨2⟩] .none w).state
    w.Reachable ∧ w.isShutDown = false ∧ w.objects.contains ⟨2⟩ = true ∧ ⟨2⟩ ≠ w.schedule.object ∧
      (∃ a, a.kind = .destroy ∧ a.owner = ⟨2⟩ ∧ Queues a w delayed) ∧ Drops ⟨2⟩ w prompt := by
  intro it w delayed prompt
  have hw : w.Reachable := reachable_populated _
  have hopen : w.isShutDown = false := isShutDown_populated _
  let f := Builtin.row .destroyObject
  have hf : f ∈ Builtin.table := Builtin.row_mem_table .destroyObject
  have hfunction : FunctionName.name "DestroyObject" = .id f.id ∨
      FunctionName.name "DestroyObject" = .name f.name := .inr rfl
  have hlive : w.objects.contains ⟨2⟩ = true := by decide +kernel
  have hother : (⟨2⟩ : ObjectId) ≠ w.schedule.object := by decide +kernel
  have htarget : w.objects.resolveId ⟨2⟩ CallSite.none.caller = ⟨2⟩ := by decide +kernel
  have hcalled (args : List Value) (delay : Single)
      (hfill : f.fill args = [.object ⟨2⟩, .float delay]) :=
    destroyed_by_delay it (launch it) hw hopen hf rfl hfunction hfill .none htarget hlive hother
  have hsecond : (Single.ofInt 1).Lasts := Single.toMillis_ne_zero_iff.1 (by decide +kernel)
  obtain ⟨-, a, hkind, howner, -, hqueues, -⟩ :=
    (hcalled [.object ⟨2⟩, .float (.ofInt 1)] (.ofInt 1) rfl).2.1 hsecond
  have hnone : ¬Single.zero.Lasts := Single.not_lasts_of_isPositive (by decide)
  exact ⟨hw, hopen, hlive, hother, ⟨a, hkind, howner, hqueues⟩,
    (hcalled [.object ⟨2⟩] .zero rfl).2.2.1 hnone⟩

/-- A delay of four tenths of a millisecond is above zero, and yet the creature is gone at once and
nothing is queued. -/
theorem destroyed_before_delay :
    let it := Interpreter.idle
    let w := populated [.add (.fresh .creature "npc")]
    let delay : Single := ⟨0x39d1b717⟩
    let after := (call it (launch it) (.name "DestroyObject")
      [.object ⟨2⟩, .float delay] .none w).state
    w.Reachable ∧ w.isShutDown = false ∧ w.objects.contains ⟨2⟩ = true ∧ ⟨2⟩ ≠ w.schedule.object ∧
      delay.isPositive = true ∧ 0 < delay.toRat ∧
      after.objects.contains ⟨2⟩ = false ∧ after.schedule.actions.values = [] := by
  intro it w delay after
  have hw : w.Reachable := reachable_populated _
  have hopen : w.isShutDown = false := isShutDown_populated _
  have hlive : w.objects.contains ⟨2⟩ = true := by decide +kernel
  have hother : (⟨2⟩ : ObjectId) ≠ w.schedule.object := by decide +kernel
  have htarget : w.objects.resolveId ⟨2⟩ CallSite.none.caller = ⟨2⟩ := by decide +kernel
  have hpositive : delay.isPositive = true := by decide +kernel
  have hvalue : 0 < delay.toRat := by
    have hsize : 0 < delay.size := by decide +kernel
    rw [Single.toRat_of_isPositive hpositive]
    exact div_pos (Nat.cast_pos.2 hsize) (Nat.cast_pos.2 Single.scale_pos)
  have hshort : ¬delay.Lasts := Single.toMillis_eq_zero_iff.1 (by decide +kernel)
  have hf : Builtin.row .destroyObject ∈ Builtin.table := Builtin.row_mem_table .destroyObject
  have hafter : after = _ :=
    (hw.call_destroyObject hopen hf rfl (.inr rfl) rfl htarget hlive hother it (launch it)).2.2
      hshort
  rw [hafter]
  exact ⟨hw, hopen, hlive, hother, hpositive, hvalue,
    congrArg Option.isSome (hw.drops hlive).gone, rfl⟩

end World

end ScriptHost
