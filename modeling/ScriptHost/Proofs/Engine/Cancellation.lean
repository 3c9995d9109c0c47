import ScriptHost.Proofs.Engine.Totality

/-!
# What becomes of actions that are called off

A call of `ClearAllActions` takes the scripts that wait for the caller off the queue, and changes
nothing else.  Numbers of actions are not given out twice (`Schedule.Used`), so what was called off
is in no queue later on, and no later pump takes it (`World.called_off_for_good`).

It does not reach what is off the queue already.  A pump takes all that is due before it fires any
of it, so a script that is fired first cannot call off one that is due in the same pump
(`World.fires_though_called_off`).
-/

namespace ScriptHost

/-! ## Numbers of actions -/

namespace Schedule

variable {s : Schedule} {a : Action} {seq : Nat}

theorem nextSeq_le_apply (s : Schedule) (change : Change) :
    s.nextSeq ≤ (s.apply change).nextSeq := by
  cases change with
  | queue b => exact Nat.le_succ _
  | takeDue | clearActionsFor | clearActions | clear => exact Nat.le_refl _

/-- The number of an action that does not wait any more. -/
structure Used (s : Schedule) (seq : Nat) : Prop where
  given : seq < s.nextSeq
  gone : ∀ a ∈ s.actions.values, a.seq ≠ seq

theorem Used.apply (h : s.Used seq) (change : Change) : (s.apply change).Used seq := by
  refine ⟨Nat.lt_of_lt_of_le h.given (s.nextSeq_le_apply change), fun a ha ↦ ?_⟩
  rcases mem_values_apply ha with hold | ⟨b, -, rfl⟩
  · exact h.gone a hold
  · exact (Nat.ne_of_lt h.given).symm

/-- No two actions that wait have one number. -/
def Distinct (s : Schedule) : Prop :=
  ∀ a ∈ s.actions.values, ∀ b ∈ s.actions.values, a.seq = b.seq → a = b

theorem Distinct.apply (h : s.Distinct) (hkeyed : s.Keyed) (change : Change) :
    (s.apply change).Distinct := by
  intro a ha b hb heq
  rcases mem_values_apply ha with ha | ⟨a, hqueue, rfl⟩
  · rcases mem_values_apply hb with hb | ⟨b, -, rfl⟩
    · exact h a ha b hb heq
    · exact absurd heq (Nat.ne_of_lt (hkeyed.lt_nextSeq ha))
  · rcases mem_values_apply hb with hb | ⟨b, hqueue', rfl⟩
    · exact absurd heq.symm (Nat.ne_of_lt (hkeyed.lt_nextSeq hb))
    · cases hqueue.symm.trans hqueue'
      rfl

/-- What is called off is not in the queue any more, nor is anything with its number. -/
theorem Distinct.used_calledOff (h : s.Distinct) (hkeyed : s.Keyed) (ha : a ∈ s.actions.values)
    (hscript : a.kind.isScript = true) : (s.calledOff a.owner).Used a.seq := by
  refine ⟨hkeyed.lt_nextSeq ha, fun b hb heq ↦ ?_⟩
  obtain ⟨hb, hkept⟩ := mem_values_calledOff.1 hb
  cases h b hb a ha heq
  exact hkept ⟨rfl, hscript⟩

end Schedule

namespace World

variable {w v : World} {seq : Nat}

theorem Alters.used (h : w.Alters v) (hw : w.schedule.Used seq) : v.schedule.Used seq := by
  cases h with
  | actions change => exact hw.apply change
  | events => exact ⟨hw.given, hw.gone⟩
  | objects | edit | searches | clock | random | nest | release => exact hw

theorem Leads.used (h : w.Leads v) (hw : w.schedule.Used seq) : v.schedule.Used seq :=
  h.keeps (P := fun w ↦ w.schedule.Used seq) (fun _ _ ↦ Alters.used) hw

theorem Alters.distinct_schedule (h : w.Alters v) (hkeyed : w.schedule.Keyed)
    (hw : w.schedule.Distinct) : v.schedule.Distinct := by
  cases h with
  | actions change => exact hw.apply hkeyed change
  | objects | edit | searches | events | clock | random | nest | release => exact hw

theorem Reachable.distinct_schedule (h : w.Reachable) : w.schedule.Distinct := by
  obtain ⟨config, clock, listening, entropy, hleads⟩ := h
  refine (hleads.keeps (P := fun w ↦ w.schedule.Keyed ∧ w.schedule.Distinct)
    (fun _ _ hstep hw ↦ ?_) ⟨.start _, ?_⟩).2
  · exact ⟨hstep.keyed_schedule hw.1, hstep.distinct_schedule hw.1 hw.2⟩
  · exact fun a ha ↦ (List.not_mem_nil ha).elim

/-- What a call of `ClearAllActions` does. -/
theorem calledOff_of_call {it : Interpreter} {launch : Launcher} {f : FunctionDef Builtin}
    (hf : f ∈ Builtin.table) (hname : f.name = "ClearAllActions") {function : FunctionName}
    (hnamed : w.functions.named? function = some f) {args : List Value} {site : CallSite}
    {result : Value} (hcall : (call it launch function args site w).value = .ok result) :
    (call it launch function args site w).state =
      { w with schedule := w.schedule.calledOff site.caller } := by
  have hnative : f.native = some .clearAllActions := by
    have hall : ∀ f ∈ Builtin.table, f.name = "ClearAllActions" →
        f.native = some .clearAllActions := by decide
    exact hall f hf hname
  obtain ⟨-, hrun⟩ := call_eq_run hnamed hcall
  rw [hrun, Registry.run_implemented _ w hnative]
  rfl

theorem state_clearAllActions {it : Interpreter} {launch : Launcher} (hw : w.Reachable)
    {f : FunctionDef Builtin} (hf : f ∈ Builtin.table) (hname : f.name = "ClearAllActions")
    {args : List Value} {site : CallSite} {result : Value}
    (hcall : (call it launch (.id f.id) args site w).value = .ok result) :
    (call it launch (.id f.id) args site w).state =
      { w with schedule := w.schedule.calledOff site.caller } :=
  calledOff_of_call hf hname (hw.named?_eq (isShutDown_of_call hcall) hf (.inl rfl)) hcall

/-- What is called off is called off for good.  A call of `ClearAllActions` takes the scripts that
wait for the caller off the queue, leaves everything else as it is, and neither the queue nor what a
pump takes from it will ever have one of them again, whatever comes after the call.  It reaches
nothing that was off the queue before. -/
theorem called_off_for_good (it : Interpreter) (launch : Launcher) {w : World} (hw : w.Reachable)
    {f : FunctionDef Builtin} (hf : f ∈ Builtin.table) (hname : f.name = "ClearAllActions")
    {args : List Value} {site : CallSite} {result : Value}
    (hcall : (call it launch (.id f.id) args site w).value = .ok result) :
    let after := (call it launch (.id f.id) args site w).state
    after = { w with schedule.actions := after.schedule.actions } ∧
      (∀ a, a ∈ after.schedule.actions.values ↔
        a ∈ w.schedule.actions.values ∧ ¬(a.owner = site.caller ∧ a.kind.isScript = true)) ∧
      ∀ a ∈ w.schedule.actions.values, a.owner = site.caller → a.kind.isScript = true →
        ∀ v, after.Leads v →
          (∀ b ∈ v.schedule.actions.values, b.seq ≠ a.seq) ∧ ∀ b ∈ v.pumped, b.seq ≠ a.seq := by
  intro after
  have hafter : after = { w with schedule := w.schedule.calledOff site.caller } :=
    state_clearAllActions hw hf hname hcall
  rw [hafter]
  refine ⟨rfl, fun a ↦ Schedule.mem_values_calledOff, ?_⟩
  intro a ha howner hscript v hleads
  have hused := hw.distinct_schedule.used_calledOff hw.keyed_schedule ha hscript
  rw [howner] at hused
  have hgone := (hleads.used hused).gone
  exact ⟨hgone, fun b hb ↦ hgone b (v.pumped_subset hb)⟩

/-- A script that waits for its owner, called off by it. -/
theorem called_off_for_good_one :
    let it := Interpreter.idle
    let order := Action.script "a" .initial ⟨1⟩ .invalid 0
    let w := { fresh with schedule := fresh.schedule.enqueued order }
    let f := Builtin.row .clearAllActions
    let after := (call it (launch it) (.id f.id) [] ⟨⟨1⟩, .invalid, none⟩ w).state
    w.Reachable ∧ w.pumped = [order] ∧
      ∀ v, after.Leads v → ∀ b ∈ v.pumped, b.seq ≠ order.seq := by
  intro it order w f after
  have hw : w.Reachable := reachable_fresh.leads (leads_queue order)
  have hopen : w.isShutDown = false := (isShutDown_schedule fresh _).trans isShutDown_fresh
  have hf : f ∈ Builtin.table := Builtin.row_mem_table .clearAllActions
  have haccepts : f.Accepts [] := ⟨by decide, by decide, by decide⟩
  obtain ⟨result, hresult⟩ :=
    hw.exists_result hopen hf haccepts (by decide) it (launch it) ⟨⟨1⟩, .invalid, none⟩
  have hwaits : order ∈ w.schedule.actions.values := List.mem_singleton_self order
  have hgone := (called_off_for_good it (launch it) hw hf rfl hresult).2.2
  exact ⟨hw, rfl, fun v hv ↦ (hgone order hwaits rfl rfl v hv).2⟩

/-- One script calls off what waits for its owner, and the others note their names. -/
def calling : Interpreter where
  resolve _ := some []
  run inv :=
    if inv.script.name = "clear" then
      .perform (.call (.id ⟨9⟩) [] ⟨inv.owner, inv.triggerer, some inv.script⟩) fun _ ↦ .done
    else .note (.text inv.script.name) .done

/-- The calls and the texts of a log. -/
def callsAndTexts (log : List (Entry Note)) : List String :=
  log.filterMap fun
    | .record .trace text => some text
    | .note (.text text) => some text
    | _ => none

/-- Two scripts of one owner are due in one pump.  The first calls off what waits for its owner, and
the second is started all the same. -/
theorem fires_though_called_off :
    let first := Action.script "clear" .initial ⟨1⟩ .invalid 0
    let second := Action.script "a" .initial ⟨1⟩ .invalid 0
    let half := { fresh with schedule := fresh.schedule.enqueued first }
    let w := { half with schedule := half.schedule.enqueued second }
    w.Reachable ∧ w.pumped.map (·.owner) = [⟨1⟩, ⟨1⟩] ∧
      callsAndTexts (pump calling (launch calling) w).log = ["ClearAllActions(0)", "a"] := by
  intro first second half w
  have hhalf : half.Reachable := reachable_fresh.leads (leads_queue first)
  have hw : w.Reachable := hhalf.leads (leads_queue second)
  exact ⟨hw, by decide +kernel, by decide +kernel⟩

end World

end ScriptHost
