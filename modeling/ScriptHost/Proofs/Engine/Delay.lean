import ScriptHost.Proofs.Engine.Destruction

/-!
# Delays

A script gives a delay in seconds, and an action is queued at a time in milliseconds.  Nothing is
lost on the way (`World.delays_exact`): the count of milliseconds is the exact value rounded once,
so a longer delay never comes to an earlier time, and no delay leads back before now.
-/

namespace ScriptHost

namespace Single

variable {x : Single}

/-- The milliseconds of every delay. -/
theorem toNat_toMillis_eq (x : Single) :
    x.toMillis.toNat =
      if x.isNaN = true ∨ x.AtMost .zero then 0
      else if x = .infinity then 2 ^ 64 - 1
      else min (2 ^ 64 - 1) ⌊1000 * x.toRat + 1 / 2⌋₊ := by
  cases hpositive : x.isPositive with
  | false =>
    rw [if_pos (isPositive_eq_false_iff.1 hpositive), toMillis_of_isPositive hpositive]
    rfl
  | true =>
    have hnot : ¬(x.isNaN = true ∨ x.AtMost .zero) := by
      rw [← isPositive_eq_false_iff, hpositive]
      simp
    rw [if_neg hnot]
    split
    · rename_i hinfinity
      rw [hinfinity, toNat_toMillis_infinity]
      rfl
    · rename_i hfinite
      refine toNat_toMillis hpositive (Bool.eq_false_iff.2 fun hinfinite ↦ hfinite ?_)
      exact eq_infinity hinfinite (isNegative_of_isPositive hpositive)

/-- The product by which milliseconds are counted, as a value. -/
theorem exists_product_eq (hfinite : x.isFinite = true) (hsign : x.isNegative = false) :
    ∃ product, x.widen.mul ⟨1000, 0⟩ = some product ∧ product.toRat = 1000 * x.toRat := by
  obtain ⟨product, hsome, hexact⟩ := exists_product hfinite
  refine ⟨product, hsome, ?_⟩
  rw [hexact, toRat, scaled, if_neg (Bool.eq_false_iff.1 hsign), Int.cast_natCast]

end Single

/-- The longer the delay, the later the time. -/
theorem Clock.after_mono (c : Clock) {delay delay' : UInt64} (h : delay ≤ delay') :
    c.after delay ≤ c.after delay' := by
  rw [UInt64.le_iff_toNat_le] at h ⊢
  rw [toNat_after, toNat_after]
  omega

namespace World

/-- One action more waits, and its time is that after the delay. -/
def QueuesAfter (delay : UInt64) (w v : World) : Prop :=
  ∃ a, Queues a w v ∧ a.timestamp = w.clock.after delay

variable {w : World}

theorem Reachable.queuesAfter (hw : w.Reachable) {a : Action} {delay : UInt64}
    (h : a.timestamp = w.clock.after delay) :
    w.QueuesAfter delay { w with schedule := w.schedule.enqueued a } :=
  ⟨_, hw.queues a, h⟩

section Calls

variable {f : FunctionDef Builtin} {function : FunctionName} {args : List Value}
variable {site : CallSite} {delay : Single} {state : ScriptState}

/-- A script that delays a command is queued, to be resumed after the delay. -/
theorem Reachable.call_delayCommand (hw : w.Reachable) (hopen : w.isShutDown = false)
    (hf : f ∈ Builtin.table) (hname : f.name = "DelayCommand")
    (hfunction : function = .id f.id ∨ function = .name f.name)
    (hfill : f.fill args = [.float delay, .ofState state]) {script : Script}
    (hsite : site.script = some script) (hscript : script.name ≠ "") (it : Interpreter)
    (launch : Launcher) :
    let out := call it launch function args site w
    let later := Action.script script.name state site.caller site.triggerer
      (w.clock.after delay.toMillis)
    out.value = .ok .void ∧ out.state = { w with schedule := w.schedule.enqueued later } := by
  intro out later
  have hnative : f.native = some .delayCommand := Builtin.native_of_name hf hname
  have hsig : f.signature = Builtin.delayCommand.signature := Builtin.signature_eq hf hnative
  have haccepts : f.Accepts args := by
    refine FunctionDef.accepts_of_types_fill (Builtin.wellFormed_table f hf) ?_
    rw [hfill, hsig]
    rfl
  let ctx := f.context args site
  have hparams : ctx.params = [.float delay, .ofState state] := hfill
  have hnamed : ctx.requireScriptName = .ok script.name := by
    have hctx : ctx.scriptName = script.name := by
      change (site.script.map (·.name)).getD "" = _
      rw [hsite]
      rfl
    rw [CallContext.requireScriptName, hctx, if_neg hscript]
  have hdelay : ctx.arg Value.asFloat 0 = .ok delay := by
    rw [CallContext.arg, CallContext.param, hparams]
    rfl
  have hstate : ctx.arg Value.asState 1 = .ok state := by
    rw [CallContext.arg, CallContext.param, hparams]
    rfl
  have hout : out = _ :=
    call_of_make (hw.named?_eq hopen hf hfunction) (haccepts.make_eq site) it launch
  have hinvoke : Builtin.invoke it launch .delayCommand ctx w =
      Builtin.defer ctx script.name state site.caller delay.toMillis w := by
    change Builtin.runDelayCommand ctx w = _
    rw [Builtin.runDelayCommand, hnamed, Builtin.withArgs, hdelay, Builtin.withArgs, hstate]
    rfl
  rw [hout, Registry.run_implemented _ w hnative, hinvoke]
  refine ⟨(f.result_context _ site).trans ?_, rfl⟩
  rw [hsig]
  rfl

end Calls

/-- Whatever the delay, it leads to a time from now on, the sum as far as 64 bits go, and this is
the time of the action that is queued.  A longer delay never leads to an earlier time. -/
structure KeepsDelays (w : World) : Prop where
  toNat_after : ∀ delay,
    (w.clock.after delay).toNat = min (w.clock.now.toNat + delay.toNat) (2 ^ 64 - 1)
  le_after : ∀ delay, w.clock.now ≤ w.clock.after delay
  mono : ∀ delay delay', delay ≤ delay' → w.clock.after delay ≤ w.clock.after delay'
  script : ∀ delay script state owner triggerer, w.QueuesAfter delay
    ((delayScript script state owner triggerer delay : Step Note World Nat) w).state
  destroy : ∀ delay target, w.QueuesAfter delay
    ((destroyDelayed target delay : Step Note World Nat) w).state

theorem Reachable.keepsDelays (hw : w.Reachable) : w.KeepsDelays where
  toNat_after := w.clock.toNat_after
  le_after := w.clock.le_after
  mono _ _ := w.clock.after_mono
  script _ _ _ _ _ := hw.queuesAfter rfl
  destroy _ _ := hw.queuesAfter rfl

/-- Delays are exact, for every number of seconds and in every world.

- A delay that is at most zero or not a number comes to nothing, an infinite one to as many
  milliseconds as there are, and any other one to its exact value, rounded once with a half going
  up.  The product in double precision is exact.
- The more seconds, the more milliseconds, and the later the time of what is queued, which is never
  before now.
- This is the time of a command that is delayed, and of a destruction that is put off. -/
theorem delays_exact (x : Single) {w : World} (hw : w.Reachable) (hopen : w.isShutDown = false)
    (it : Interpreter) (launch : Launcher) (site : CallSite) (args : List Value) :
    (x.toMillis.toNat =
      if x.isNaN = true ∨ x.AtMost .zero then 0
      else if x = .infinity then 2 ^ 64 - 1
      else min (2 ^ 64 - 1) ⌊1000 * x.toRat + 1 / 2⌋₊) ∧
      (x.isFinite = true → x.isNegative = false →
        ∃ product, x.widen.mul ⟨1000, 0⟩ = some product ∧ product.toRat = 1000 * x.toRat) ∧
      (∀ y, x.AtMost y → x.toMillis ≤ y.toMillis ∧
        w.clock.after x.toMillis ≤ w.clock.after y.toMillis) ∧
      w.KeepsDelays ∧
      (∀ f ∈ Builtin.table, f.name = "DelayCommand" →
        ∀ state, f.fill args = [.float x, .ofState state] →
        ∀ script, site.script = some script → script.name ≠ "" →
        ∀ function, (function = .id f.id ∨ function = .name f.name) →
          w.QueuesAfter x.toMillis (call it launch function args site w).state) ∧
      ∀ f ∈ Builtin.table, f.name = "DestroyObject" →
        ∀ reference, f.fill args = [.object reference, .float x] →
        ∀ target, w.objects.resolveId reference site.caller = target →
        w.objects.contains target = true → target ≠ w.schedule.object → x.Lasts →
        ∀ function, (function = .id f.id ∨ function = .name f.name) →
          w.QueuesAfter x.toMillis (call it launch function args site w).state := by
  refine ⟨x.toNat_toMillis_eq, Single.exists_product_eq, fun y h ↦ ?_, hw.keepsDelays, ?_, ?_⟩
  · exact ⟨h.toMillis_le, w.clock.after_mono h.toMillis_le⟩
  · intro f hf hname state hfill script hsite hscript function hfunction
    rw [(hw.call_delayCommand hopen hf hname hfunction hfill hsite hscript it launch).2]
    exact hw.queuesAfter rfl
  · intro f hf hname reference hfill target htarget hlive hother hlasts function hfunction
    rw [(hw.call_destroyObject hopen hf hname hfunction hfill htarget hlive hother it launch).2.1
      hlasts]
    exact hw.queuesAfter rfl

/-- A script delays a command by a second and a half. -/
theorem delays_exact_second_and_half :
    let it := Interpreter.idle
    let x : Single := ⟨0x3fc00000⟩
    let site : CallSite := ⟨.invalid, .invalid, some ⟨"s", [], ∅⟩⟩
    let args := [Value.float x, .action 0 [] []]
    let after := (call it (launch it) (.name "DelayCommand") args site fresh).state
    fresh.Reachable ∧ fresh.isShutDown = false ∧ x.toMillis = 1500 ∧
      fresh.QueuesAfter 1500 after := by
  intro it x site args after
  let f := Builtin.row .delayCommand
  have hf : f ∈ Builtin.table := Builtin.row_mem_table .delayCommand
  obtain ⟨-, -, -, -, hcommand, -⟩ :=
    delays_exact x reachable_fresh isShutDown_fresh it (launch it) site args
  have hmillis : x.toMillis = 1500 := by decide +kernel
  have hqueues := hcommand f hf rfl .initial rfl _ rfl (by decide) (.name f.name) (.inr rfl)
  rw [hmillis] at hqueues
  exact ⟨reachable_fresh, isShutDown_fresh, hmillis, hqueues⟩

end World

end ScriptHost
