import ScriptHost.Proofs.Engine.Queue

/-!
# The order in which actions fire

Over a whole run, actions come off the queue in the order of their keys, by time and at equal times
by number, whatever happens between the pumps and whatever scripts do while a pump fires them.

Within one pump this is the order of the queue.  From one pump to the next it rests on time: what a
pump has taken was due, so its time is not after the clock, and what is queued later gets a time
that is not before the clock, and a higher number.  `World.Past` is this invariant.  It holds as
long as nobody turns the clock back or puts an action into the queue with a time of their choice
(`TimelyRun`): only the requests that are made in the course of the run count, whatever the same
scripts would ask for in other worlds.
-/

namespace ScriptHost

/-! ## What lies behind a world -/

/-- What a script may ask for: it may not pump. -/
def Command.IsTimelyInScript (c : Command) (w : World) : Prop :=
  c ≠ .pump ∧ c.IsTimely w

/-- The keys `ks` lie behind a world: their times have come, their numbers were given out, and they
come before everything that waits. -/
structure World.Past (ks : List ActionKey) (w : World) : Prop where
  keyed : w.schedule.Keyed
  ordered : (ks ++ w.schedule.actions.keys).Pairwise ActionKey.Before
  time_le : ∀ k ∈ ks, k.timestamp ≤ w.clock.now
  seq_lt : ∀ k ∈ ks, k.seq < w.schedule.nextSeq

namespace World.Past

variable {ks : List ActionKey} {w v : World}

/-- Actions may leave the queue, and time may pass. -/
theorem of_sublist (h : w.Past ks) (hsub : v.schedule.actions.entries.Sublist
    w.schedule.actions.entries) (hseq : v.schedule.nextSeq = w.schedule.nextSeq)
    (hclock : w.clock.now ≤ v.clock.now) : v.Past ks where
  keyed := h.keyed.of_subset hsub.subset hseq
  ordered := h.ordered.sublist ((hsub.map _).append_left ks)
  time_le k hk := UInt64.le_trans (h.time_le k hk) hclock
  seq_lt k hk := hseq ▸ h.seq_lt k hk

/-- A new action comes after all that lies behind, since it is not due before now. -/
theorem enqueued (h : w.Past ks) {a : Action} (hschedule : v.schedule = w.schedule.enqueued a)
    (hclock : v.clock = w.clock) (ha : w.clock.now ≤ a.timestamp) : v.Past ks where
  keyed := hschedule ▸ h.keyed.enqueued a
  ordered := by
    have hks := List.pairwise_append.1 h.ordered
    rw [hschedule]
    refine List.pairwise_append.2 ⟨hks.1, ?_, ?_⟩
    · exact (w.schedule.enqueued a).actions.pairwise_keys.imp ActionKey.compare_eq_lt_iff.1
    · intro k hk k' hk'
      rcases Schedule.mem_keys_enqueued hk' with rfl | hold
      · have hle : k.timestamp ≤ a.timestamp := UInt64.le_trans (h.time_le k hk) ha
        rcases UInt64.lt_or_eq_of_le hle with hlt | heq
        · exact .inl hlt
        · exact .inr ⟨heq, h.seq_lt k hk⟩
      · exact hks.2.2 k hk k' hold
  time_le := hclock ▸ h.time_le
  seq_lt k hk := hschedule ▸ Nat.lt_succ_of_lt (h.seq_lt k hk)

/-- No request in good time puts an action back behind the others. -/
theorem requeues {c : Command} (h : w.Past ks) (hc : c.IsTimely w) (hstep : w.Requeues c v) :
    v.Past ks := by
  cases hstep with
  | puts a hschedule hclock htimely => exact h.enqueued hschedule hclock (htimely hc)
  | takes hleft hseq htimely => exact h.of_sublist hleft hseq (htimely hc)

/-- What a pump takes was due and is the front of the queue, so it lies behind from then on. -/
theorem taken (h : w.Past ks) : w.taken.Past (ks ++ w.pumped.map Action.key) := by
  have hwaiting : w.taken.schedule.Keyed := keyed_taken h.keyed
  have hfront : w.pumped.map Action.key ++ w.taken.schedule.actions.keys =
      w.schedule.actions.keys := by
    rw [← hwaiting.map_key_values, ← List.map_append, w.pumped_append, h.keyed.map_key_values]
  have htaken : ∀ k ∈ w.pumped.map Action.key,
      k.timestamp ≤ w.clock.now ∧ k.seq < w.schedule.nextSeq := by
    intro k hk
    obtain ⟨a, ha, rfl⟩ := List.mem_map.1 hk
    exact ⟨timestamp_le_of_mem_pumped ha, h.keyed.lt_nextSeq (w.pumped_subset ha)⟩
  refine ⟨hwaiting, ?_, ?_, ?_⟩
  · rw [List.append_assoc, hfront]
    exact h.ordered
  · rw [w.clock_taken]
    exact List.forall_mem_append.2 ⟨h.time_le, fun k hk ↦ (htaken k hk).1⟩
  · rw [w.nextSeq_taken]
    exact List.forall_mem_append.2 ⟨h.seq_lt, fun k hk ↦ (htaken k hk).2⟩

end World.Past

/-! ## Runs -/

/-- The keys of the actions that a request of the host takes off the queue in a pump. -/
def Command.takenKeys (w : World) : Command → List ActionKey
  | pump => w.pumped.map Action.key
  | _ => []

/-- The keys of the actions that the pumps of a run take off the queue, in the order in which they
do. -/
def takenKeys (it : Interpreter) : List Command → World → List ActionKey
  | [], _ => []
  | c :: rest, w => c.takenKeys w ++ takenKeys it rest (c.run it w).state

/-- The world after a run. -/
def afterRun (it : Interpreter) : List Command → World → World
  | [], w => w
  | c :: rest, w => afterRun it rest (c.run it w).state

/-- Whether every request of a run is made in good time, by the host or by the scripts that are
started in its course. -/
def TimelyRun (it : Interpreter) : List Command → World → Prop
  | [], _ => True
  | c :: rest, w =>
    (c.IsTimely w ∧ ∀ r ∈ c.course it w, r.command.IsTimelyInScript r.world) ∧
      TimelyRun it rest (c.run it w).state

/-- Nothing that scripts do in good time takes an action back behind the others. -/
theorem Interpreter.Traces.past {it : Interpreter} {noted : Note → Prop} {w v : World}
    {requests : List Request} {ns : List Note} {ks : List ActionKey}
    (h : it.Traces noted w requests v ns) (hw : w.Past ks)
    (htimely : ∀ r ∈ requests, r.command.IsTimelyInScript r.world) : v.Past ks := by
  induction h with
  | refl | note => exact hw
  | nest | remove => exact hw.of_sublist (.refl _) rfl UInt64.le_rfl
  | trans _ _ ihead itail =>
    obtain ⟨hfirst, hsecond⟩ := List.forall_mem_append.1 htimely
    exact itail (ihead hw hfirst) hsecond
  | request launch w other idle =>
    exact hw.requeues (htimely _ List.mem_cons_self).2 (Command.requeues other idle)
  | start _ _ _ ih => exact ih hw (List.forall_mem_cons.1 htimely).2
  -- A pump within a pump would take what comes after actions that are still to be fired.
  | pump => exact absurd rfl (htimely _ List.mem_cons_self).1

namespace World.Past

variable {ks : List ActionKey} {w : World} {it : Interpreter}

theorem start (config : Config) (clock : Clock) (listening : Bool) (entropy : UInt64) :
    (World.start config clock listening entropy : Outcome Note World Unit).state.Past [] where
  keyed := .start _
  ordered := .nil
  time_le := fun _ hk ↦ (List.not_mem_nil hk).elim
  seq_lt := fun _ hk ↦ (List.not_mem_nil hk).elim

/-- One request of the host moves what it takes behind the world. -/
theorem step {c : Command} (hc : c.IsTimely w)
    (hcourse : ∀ r ∈ c.course it w, r.command.IsTimelyInScript r.world) (h : w.Past ks) :
    (c.run it w).state.Past (ks ++ c.takenKeys w) := by
  have hnotes : it.Notes fun _ ↦ True := fun inv ↦ (it.run inv).notes_of_all fun _ ↦ trivial
  by_cases hpump : c = .pump
  · subst hpump
    have hstate : (Command.pump.run it w).state = _ := (pump_apply w).1
    rw [hstate]
    exact (Interpreter.traces_fired hnotes w).past h.taken hcourse
  · have hnone : c.takenKeys w = [] := by
      cases c with
      | pump => exact absurd rfl hpump
      | _ => rfl
    rw [hnone, List.append_nil]
    exact (Interpreter.traces_run hnotes c w).past h
      (List.forall_mem_cons.2 ⟨⟨hpump, hc⟩, hcourse⟩)

/-- A run moves all that it takes behind the world. -/
theorem run {cs : List Command} (hcs : TimelyRun it cs w) (h : w.Past ks) :
    (afterRun it cs w).Past (ks ++ takenKeys it cs w) := by
  induction cs generalizing w ks with
  | nil =>
    rw [takenKeys, List.append_nil]
    exact h
  | cons c rest ih =>
    obtain ⟨⟨hc, hcourse⟩, hrest⟩ := hcs
    rw [takenKeys, ← List.append_assoc]
    exact ih hrest (h.step hc hcourse)

end World.Past

/-- Over a whole run from the start, the keys of the actions that pumps take off the queue strictly
ascend, whatever the settings are, whatever scripts do while a pump fires them, and however many
due actions a pump leaves behind.  Nothing overtakes: what still waits in the end comes after all
that was taken.  What a pump takes off the queue, it fires in that order. -/
theorem takenKeys_ascend (it : Interpreter) (config : Config) (clock : Clock) (listening : Bool)
    (entropy : UInt64) (cs : List Command)
    (hcs : TimelyRun it cs
      (World.start config clock listening entropy : Outcome Note World Unit).state) :
    let w := (World.start config clock listening entropy : Outcome Note World Unit).state
    (takenKeys it cs w).Pairwise ActionKey.Before ∧
      (∀ k ∈ takenKeys it cs w, ∀ a ∈ (afterRun it cs w).schedule.actions.values,
        k.Before a.key) ∧
      ∀ v : World,
        v.pumped ++ v.taken.schedule.actions.values = v.schedule.actions.values ∧
          World.pump it (launch it) v =
            let fired := Step.forEach v.pumped (World.fire it (launch it)) v.taken
            ⟨v.pumped.length, fired.state, (World.dispatchEvents v).log ++ fired.log⟩ := by
  intro w
  have h : (afterRun it cs w).Past (takenKeys it cs w) :=
    (World.Past.start config clock listening entropy).run hcs
  obtain ⟨htaken, -, hwaiting⟩ := List.pairwise_append.1 h.ordered
  refine ⟨htaken, fun k hk a ha ↦ hwaiting k hk a.key ?_, fun v ↦ ⟨v.pumped_append, v.pump_eq⟩⟩
  rw [← h.keyed.map_key_values]
  exact List.mem_map_of_mem ha

/-- Every script, when it is started, is queued again at once. -/
def requeuing : Interpreter where
  resolve _ := some []
  run inv :=
    .perform (.delayScript inv.script.name .initial inv.owner inv.triggerer 0) fun _ ↦ .done

theorem takenKeys_ascend_requeuing :
    let config : Config := { Config.default with maxActionsPerPump := some 1 }
    let w := (World.start config ⟨10⟩ false 0 : Outcome Note World Unit).state
    let queue := Command.delayScript "a" .initial .invalid .invalid
    let cs := [queue 0, queue 0, .pump, .advanceClock 5, queue 0, .pump, .pump]
    TimelyRun requeuing cs w ∧ takenKeys requeuing cs w = [⟨10, 0⟩, ⟨10, 1⟩, ⟨10, 2⟩] ∧
      (takenKeys requeuing cs w).Pairwise ActionKey.Before := by
  intro config w queue cs
  have hit : requeuing.Within Command.IsTimelyInScript := fun _ _ _ ↦ ⟨⟨nofun, trivial⟩, trivial⟩
  have hcs : TimelyRun requeuing cs w := by
    refine ⟨⟨trivial, hit.course _ _⟩, ⟨trivial, hit.course _ _⟩, ⟨trivial, hit.course _ _⟩,
      ⟨?_, hit.course _ _⟩, ⟨trivial, hit.course _ _⟩, ⟨trivial, hit.course _ _⟩,
      ⟨trivial, hit.course _ _⟩, trivial⟩
    change (_ : UInt64) ≤ _
    decide +kernel
  exact ⟨hcs, by decide +kernel, (takenKeys_ascend requeuing config ⟨10⟩ false 0 cs hcs).1⟩

end ScriptHost
