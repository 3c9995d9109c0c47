import ScriptHost.Proofs.Engine.Change
import ScriptHost.Proofs.Object.Reference

/-!
# What becomes of a deferred action

When the turn of an action comes, its owner may be gone, be it because of an action that fired
before it in the same pump.  Then the action is passed over (`fire_of_lost`).  If not, the action
starts its script on that owner and on no other object (`fire_script`), or destroys that owner and
nothing else (`fire_destroy`).  A number that was given out once stays spent when its object goes
(`Leads.spent`), so no action finds its owner's place taken by an object that came later.
`World.deferred_turn` puts this together.
-/

namespace ScriptHost

/-- The object that an action is for, `invalid` if it is for none in particular. -/
def Action.target (a : Action) : ObjectId :=
  if a.owner.isConcrete then a.owner else .invalid

namespace World

variable {w v : World} {id : ObjectId}

theorem Alters.nextId_le (h : w.Alters v) (hw : w.objects.WellFormed) :
    w.objects.nextId ≤ v.objects.nextId := by
  cases h with
  | objects change => exact hw.nextId_le_run [change]
  | edit | searches | actions | events | clock | random | nest | release => exact UInt32.le_refl _

theorem Alters.spent (h : w.Alters v) (hw : w.objects.WellFormed) (hid : w.objects.Spent id) :
    v.objects.Spent id := by
  cases h with
  | objects change => exact hw.spent_apply hid change
  | edit target f keeps =>
    exact ⟨hid.given, Container.get?_eq_none_of_update (Container.get?_edit ..) hid.gone⟩
  | searches | actions | events | clock | random | nest | release => exact hid

theorem Leads.spent (h : w.Leads v) (hw : w.objects.WellFormed) (hid : w.objects.Spent id) :
    v.objects.Spent id :=
  (h.keeps (P := fun w ↦ w.objects.WellFormed ∧ w.objects.Spent id)
    (fun _ _ hstep h ↦ ⟨hstep.wellFormed_objects h.1, hstep.spent h.1 h.2⟩) ⟨hw, hid⟩).2

theorem Leads.nextId_le (h : w.Leads v) (hw : w.objects.WellFormed) :
    w.objects.nextId ≤ v.objects.nextId := by
  refine (h.keeps (P := fun v ↦ v.objects.WellFormed ∧ w.objects.nextId ≤ v.objects.nextId)
    (fun _ _ hstep h ↦ ?_) ⟨hw, UInt32.le_refl _⟩).2
  exact ⟨hstep.wellFormed_objects h.1, UInt32.le_trans h.2 (hstep.nextId_le h.1)⟩

/-- Once an object is gone it does not come back, and no other one takes its number. -/
theorem Reachable.gone_for_good {u : World} {o : Object} (hu : u.Reachable)
    (hthere : u.objects.get? id = some o) (huw : u.Leads w) (hgone : w.objects.get? id = none)
    (hwv : w.Leads v) : v.objects.get? id = none := by
  have hwf := hu.wellFormed_objects
  have hgiven : id < w.objects.nextId :=
    ObjectId.lt_of_lt_of_le (hwf.filed id o hthere).2.2 (huw.nextId_le hwf)
  exact (hwv.spent (hu.leads huw).wellFormed_objects ⟨hgiven, hgone⟩).gone

/-! ## The turn of an action -/

/-- An object that is not there, though it had a number of its own. -/
def Lost (w : World) (id : ObjectId) : Prop :=
  id.isConcrete = true ∧ w.objects.contains id = false

/-- Passes an action over: that is reported, and nothing else is done. -/
def skip (a : Action) : Step Note World Unit :=
  Step.record .debug
    ("skipping action #" ++ toString a.seq ++ ": owner " ++ a.owner.text ++ " is gone")

section Turn

variable {it : Interpreter} {launch : Launcher} {a : Action}

/-- Whom the engine takes an action to be for. -/
theorem resolveId_owner (hw : w.objects.WellFormed) (h : ¬w.Lost a.owner) :
    w.objects.resolveId a.owner .invalid = a.target := by
  rw [hw.resolveId_invalid, Action.target]
  cases hid : w.objects.contains a.owner with
  | true => rw [hw.isConcrete_of_contains hid]
  | false =>
    cases hconcrete : a.owner.isConcrete with
    | true => exact absurd ⟨hconcrete, hid⟩ h
    | false => rfl

/-- Whom the engine takes for gone. -/
theorem lost_iff (hw : w.objects.WellFormed) :
    (a.owner.isConcrete = true ∧ (w.objects.resolveId a.owner .invalid).isInvalid = true) ↔
      w.Lost a.owner := by
  refine and_congr_right fun hconcrete ↦ ?_
  rw [hw.resolveId_invalid]
  cases w.objects.contains a.owner with
  | true =>
    have hvalid := ObjectId.isInvalid_of_lt_self (ObjectId.isConcrete_iff.1 hconcrete)
    rw [if_pos rfl, hvalid]
    exact ⟨nofun, nofun⟩
  | false => exact ⟨fun _ ↦ rfl, fun _ ↦ rfl⟩

theorem fire_of_lost (hw : w.objects.WellFormed) (h : w.Lost a.owner) :
    fire it launch a w = skip a w := by
  unfold fire
  exact if_pos ((lost_iff hw).2 h)

/-- An action that destroys an object destroys the one that it is for. -/
theorem fire_destroy (hw : w.objects.WellFormed) (h : ¬w.Lost a.owner) (hkind : a.kind = .destroy) :
    fire it launch a w =
      (do
        Step.record .debug ("destroying " ++ a.target.text)
        let _ ← removeObject a.target) w := by
  unfold fire
  dsimp only
  rw [if_neg (mt (lost_iff hw).1 h), hkind, resolveId_owner hw h]

/-- An action that resumes a script starts it on the object that it is for, from the state that it
was captured in. -/
theorem fire_script (hw : w.objects.WellFormed) (h : ¬w.Lost a.owner) {name : String}
    {state : ScriptState} (hkind : a.kind = .script name state) :
    let out := it.runScript launch name a.target
      (if w.objects.contains a.triggerer then a.triggerer else .invalid) ∅ (some state) w
    (fire it launch a w).state = out.state ∧
      ∃ rest, (fire it launch a w).log =
        .record .debug ("firing \"" ++ name ++ "\" on " ++ a.target.text) :: rest := by
  intro out
  unfold fire
  dsimp only
  rw [if_neg (mt (lost_iff hw).1 h), hkind, resolveId_owner hw h, hw.resolveId_invalid]
  dsimp only
  rw [Step.state_bind, Step.state_bind, Step.log_bind, Step.log_bind, Step.record_apply]
  have hout : it.runScript launch name a.target _ ∅ (some state) w = out := rfl
  rw [hout]
  -- How the script ended shows in the rest of the log only.
  cases out.value with
  | ok => exact ⟨rfl, _, rfl⟩
  | error e => exact ⟨rfl, _, rfl⟩

variable (it launch) in
/-- An action that is not passed over is reported in words that begin with another letter. -/
theorem log_fire_of_not_lost (hw : w.objects.WellFormed) (h : ¬w.Lost a.owner) :
    ∃ text rest, (fire it launch a w).log = .record .debug text :: rest ∧
      text.toList.head? ≠ some 's' := by
  cases hkind : a.kind with
  | destroy =>
    rw [fire_destroy hw h hkind]
    exact ⟨_, _, rfl, by simp⟩
  | script name state =>
    obtain ⟨rest, hrest⟩ := (fire_script hw h hkind).2
    exact ⟨_, rest, hrest, by simp⟩

/-- Only what is lost is passed over. -/
theorem fire_eq_skip_iff (hw : w.objects.WellFormed) :
    fire it launch a w = skip a w ↔ w.Lost a.owner := by
  refine ⟨fun hskip ↦ ?_, fire_of_lost hw⟩
  by_contra h
  obtain ⟨text, rest, hlog, htext⟩ := log_fire_of_not_lost it launch hw h
  rw [hskip] at hlog
  cases hlog
  simp at htext

/-- What a script is started with by an action, whatever starts it: at most one start, on the
object that the action is for, set off by the object that set off the action if that is still there,
and from the captured state. -/
theorem fire_starts_once (hw : w.objects.WellFormed) (h : ¬w.Lost a.owner) {name : String}
    {state : ScriptState} (hkind : a.kind = .script name state) :
    ∃ start? : Option Invocation,
      (start?.isSome = (it.resolve name).isSome) ∧
      (∀ inv ∈ start?, inv.script.name = name ∧ inv.owner = a.target ∧
        inv.triggerer = (if w.objects.contains a.triggerer then a.triggerer else .invalid) ∧
        inv.state = some state) ∧
      ∀ launch, (fire it launch a w).state = start?.elim w fun inv ↦ (launch inv w).state := by
  cases hload : it.resolve name with
  | none =>
    refine ⟨none, rfl, nofun, fun launch ↦ ?_⟩
    rw [(fire_script hw h hkind).1, Interpreter.runScript, Interpreter.load, hload]
    rfl
  | some bytecode =>
    let inv : Invocation :=
      ⟨⟨name, bytecode, ∅⟩, a.target,
        if w.objects.contains a.triggerer then a.triggerer else .invalid, some state⟩
    refine ⟨some inv, rfl, ?_, fun launch ↦ ?_⟩
    · rintro _ ⟨⟩
      exact ⟨rfl, rfl, rfl, rfl⟩
    · rw [(fire_script hw h hkind).1, Interpreter.runScript, Interpreter.load, hload]
      rfl

/-- The destruction of an object changes nothing but that object, and none at all if it is meant
for none in particular. -/
theorem fire_destroys_target (hw : w.objects.WellFormed) (h : ¬w.Lost a.owner)
    (hkind : a.kind = .destroy) :
    let after := (fire it launch a w).state
    after = { w with objects := after.objects } ∧ after.objects.get? a.owner = none ∧
      Container.AgreeOff a.owner w.objects after.objects ∧
      (a.owner.isConcrete = false → after = w) := by
  intro after
  let removed := ((Container.remove a.target : Step Note Container (Option Object)) w.objects).state
  have hafter : after = { w with objects := removed } :=
    congrArg Outcome.state (fire_destroy hw h hkind)
  rw [hafter]
  cases hconcrete : a.owner.isConcrete with
  | true =>
    have htarget : a.target = a.owner := if_pos hconcrete
    have hview : removed.get? = Function.update w.objects.get? a.owner none :=
      htarget ▸ w.objects.get?_remove a.target
    refine ⟨rfl, ?_, hw.agreeOff (hw.remove a.target) hview, fun h ↦ Bool.noConfusion h⟩
    rw [hview, Function.update_self]
  | false =>
    have htarget : a.target = .invalid := if_neg (by rw [hconcrete]; exact Bool.false_ne_true)
    have hremoved : removed = w.objects := by
      change (Container.remove a.target w.objects).state = _
      rw [htarget, Container.remove, hw.get?_invalid]
    have hgone : w.objects.get? a.owner = none := by
      refine Option.eq_none_iff_forall_ne_some.2 fun o ho ↦ ?_
      rw [ObjectId.isConcrete_iff.2 (hw.lt_self ho)] at hconcrete
      cases hconcrete
    rw [hremoved]
    exact ⟨rfl, hgone, hw.agreeOff hw (Function.update_eq_self_iff.2 hgone.symm).symm, fun _ ↦ rfl⟩

end Turn

/-- What happens when the turn of an action comes, in every pump of every run and whatever scripts
do before it.  The action is passed over exactly if its owner is gone at that moment.  If not, it
starts its script at most once, on its owner and from the captured state, or it destroys its owner
and touches no other object.  And an owner that is gone has no successor: nothing that comes later
has its number, and the actions that are left for it are all passed over. -/
theorem deferred_turn (it : Interpreter) {launch : Launcher} (hlaunch : it.Starts launch)
    {w : World} (hw : w.Reachable) {before after : List Action} {a : Action}
    (hpumped : w.pumped = before ++ a :: after) :
    let turn := (Step.forEach before (fire it launch) w.taken).state
    (pump it launch w).state =
        (Step.forEach after (fire it launch) (fire it launch a turn).state).state ∧
      (fire it launch a turn = skip a turn ↔ turn.Lost a.owner) ∧
      (∀ name state, a.kind = .script name state → ¬turn.Lost a.owner →
        ∃ start? : Option Invocation,
          start?.isSome = (it.resolve name).isSome ∧
          (∀ inv ∈ start?, inv.script.name = name ∧
            inv.owner = (if a.owner.isConcrete then a.owner else .invalid) ∧
            inv.triggerer = (if turn.objects.contains a.triggerer then a.triggerer else .invalid) ∧
            inv.state = some state) ∧
          ∀ start, (fire it start a turn).state =
            start?.elim turn fun inv ↦ (start inv turn).state) ∧
      (a.kind = .destroy → ¬turn.Lost a.owner →
        let after := (fire it launch a turn).state
        after = { turn with objects := after.objects } ∧ after.objects.get? a.owner = none ∧
          Container.AgreeOff a.owner turn.objects after.objects ∧
          (a.owner.isConcrete = false → after = turn)) ∧
      ∀ (u x v : World) (o : Object), u.Reachable → u.objects.get? a.owner = some o → u.Leads x →
        x.objects.get? a.owner = none → x.Leads v →
          v.objects.get? a.owner = none ∧ ∀ start, fire it start a v = skip a v := by
  intro turn
  have hturn : turn.Reachable :=
    hw.leads ((leads_taken w).trans (leads_fireAll hlaunch.leads before w.taken))
  have hwf := hturn.wellFormed_objects
  refine ⟨?_, fire_eq_skip_iff hwf, fun name state hkind h ↦ fire_starts_once hwf h hkind,
    fun hkind h ↦ fire_destroys_target hwf h hkind, ?_⟩
  · rw [(pump_apply w).1, hpumped, state_fireAll_append]
    rfl
  intro u x v o hu hthere hux hgone hxv
  have hnone := hu.gone_for_good hthere hux hgone hxv
  have hv : v.Reachable := (hu.leads hux).leads hxv
  have hlost : v.Lost a.owner :=
    ⟨ObjectId.isConcrete_iff.2 (hu.wellFormed_objects.lt_self hthere), congrArg Option.isSome hnone⟩
  exact ⟨hnone, fun start ↦ fire_of_lost hv.wellFormed_objects hlost⟩

/-- The destruction of an object and a script on it, both due at once: the script is passed over. -/
theorem deferred_turn_after_destruction :
    let it := Interpreter.idle
    let there := populated [.add (.fresh .creature "npc")]
    let doom := Action.destroy ⟨2⟩ 0
    let order := Action.script "a" .initial ⟨2⟩ .invalid 0
    let doomed := { there with schedule := there.schedule.enqueued doom }
    let w := { doomed with schedule := doomed.schedule.enqueued order }
    let turn := (Step.forEach [doom] (fire it (launch it)) w.taken).state
    w.Reachable ∧ w.pumped = [doom] ++ [{ order with seq := 1 }] ∧ turn.Lost ⟨2⟩ ∧
      fire it (launch it) { order with seq := 1 } turn = skip { order with seq := 1 } turn := by
  intro it there doom order doomed w turn
  have hthere : there.Reachable := reachable_populated _
  have hdoomed : doomed.Reachable := hthere.leads (leads_queue doom)
  have hw : w.Reachable := hdoomed.leads (leads_queue order)
  have hpumped : w.pumped = [doom] ++ [{ order with seq := 1 }] := rfl
  have hlost : turn.Lost ⟨2⟩ := ⟨rfl, by decide +kernel⟩
  exact ⟨hw, hpumped, hlost, (deferred_turn it .host hw hpumped).2.1.2 hlost⟩

end World

end ScriptHost
