import ScriptHost.Playbook
import ScriptHost.Proofs.Engine.CallTree
import ScriptHost.Proofs.Engine.FiringOrder

/-!
# How deep scripts are nested

Scripts may start scripts, and those others, without an end of their own making.  What ends them is
the depth that a world counts.  It goes up by one when a script is started and down by one when that
script is done, however it ends, and every request leaves it as it was (`levelWith_run`).  So it is
the number of scripts that are running, and no script is started beyond what the settings allow.

The engine descends along the levels that are left.  That is no second count: the number of levels
is always what the settings leave above the depth, so to start a script is to look at the depth, and
to refuse or to enter (`launch_of_full`, `launch_of_free`).  `Interpreter.Ends` says what it is for
this recursion to come to an end, without levels.  All starts of all scripts do, and come to what
the engine makes of them (`ends_iff`).  And the interpreter is entered nowhere else than where
`Interpreter.Enters` says: what it would do with other scripts shows nowhere (`run_eq_of_enters`).
-/

namespace ScriptHost

/-! ## Requests leave the depth as it was -/

/-- One world has the settings of another, and as many scripts run in it. -/
structure World.LevelWith (w v : World) : Prop where
  config_eq : v.config = w.config
  depth_eq : v.depth = w.depth

/-- Whether scripts are started so that they leave the depth as it was. -/
def Launcher.Level (launch : Launcher) : Prop :=
  ∀ (inv : Invocation) (w : World), w.LevelWith (launch inv w).state

namespace World

variable {it : Interpreter} {launch : Launcher} {w v u : World}

theorem LevelWith.refl (w : World) : w.LevelWith w := ⟨rfl, rfl⟩

theorem LevelWith.trans (h : w.LevelWith v) (h' : v.LevelWith u) : w.LevelWith u :=
  ⟨h'.config_eq.trans h.config_eq, h'.depth_eq.trans h.depth_eq⟩

theorem Effect.levelWith (hlaunch : launch.Level) (h : w.Effect launch v) : w.LevelWith v := by
  cases h with
  | start inv => exact hlaunch inv w
  | nothing | draw | defer | doom | remove | cancel | setLocal | deleteLocal => exact ⟨rfl, rfl⟩

theorem levelWith_runScript (hlaunch : launch.Level) (name : String) (owner triggerer : ObjectId)
    (environment : Environment) (state : Option ScriptState) (w : World) :
    w.LevelWith (it.runScript launch name owner triggerer environment state w).state := by
  rcases it.runScript_state launch name owner triggerer environment state w with h | ⟨inv, h⟩
  · rw [h]
    exact .refl w
  · rw [h]
    exact hlaunch inv w

theorem levelWith_fireAll (hlaunch : launch.Level) (actions : List Action) (w : World) :
    w.LevelWith (Step.forEach actions (fire it launch) w).state := by
  induction actions generalizing w with
  | nil => exact .refl w
  | cons a rest ih =>
    refine LevelWith.trans (v := (fire it launch a w).state) ?_ (ih _)
    rcases fire_state a w with h | ⟨target, h⟩ | ⟨inv, h⟩
    · rw [h]
      exact .refl w
    · rw [h]
      exact ⟨rfl, rfl⟩
    · rw [h]
      exact hlaunch inv w

theorem levelWith_taken (w : World) : w.LevelWith w.taken := by
  unfold taken
  split <;> exact ⟨rfl, rfl⟩

theorem levelWith_perform (hlaunch : launch.Level) (c : Command) (w : World) :
    w.LevelWith (c.perform it launch w).state := by
  cases c with
  | call function args site => exact (effect_call function args site).levelWith hlaunch
  | runScript | executeScript => exact levelWith_runScript hlaunch ..
  | pump =>
    have hpump : (Command.pump.perform it launch w).state = _ := (pump_apply w).1
    rw [hpump]
    exact (levelWith_taken w).trans (levelWith_fireAll hlaunch _ _)
  | objects | schedule | moveObject | random | loadScript | delayScript | destroyDelayed | pushEvent
  | setClock | advanceClock | shutdown | functions | config | diagnostic | frameFree =>
    exact ⟨rfl, rfl⟩

/-- Wherever a script makes a request, it runs as deep as where it began. -/
theorem levelWith_of_asks (hlaunch : launch.Level) {p : Program} {c : Command}
    (h : p.Asks (Command.perform it launch) w c v) : w.LevelWith v :=
  h.keeps (P := w.LevelWith) (fun c _ hv ↦ hv.trans (levelWith_perform hlaunch c _)) (.refl w)

/-- Wherever a request starts a script, as many scripts run as where the request was made. -/
theorem levelWith_of_launches (hlaunch : launch.Level) {c : Command} {inv : Invocation}
    (h : c.Launches it launch w inv v) : w.LevelWith v := by
  cases h with
  | run | execute | call => exact .refl w
  | fire => exact (levelWith_taken w).trans (levelWith_fireAll hlaunch _ _)

/-- Wherever a script starts another, as many scripts run as where it began. -/
theorem levelWith_of_starts (hlaunch : launch.Level) {p : Program} {c : Command}
    {inv : Invocation} (hasks : p.Asks (Command.perform it launch) w c v)
    (hlaunches : c.Launches it launch v inv u) : w.LevelWith u :=
  (levelWith_of_asks hlaunch hasks).trans (levelWith_of_launches hlaunch hlaunches)

theorem levelWith_exec (it : Interpreter) (hlaunch : launch.Level) (p : Program) (w : World) :
    w.LevelWith (p.exec (Command.perform it launch) w).state := by
  induction p generalizing w with
  | finish result => exact .refl w
  | perform c next ih => exact (levelWith_perform hlaunch c w).trans (ih _ _)
  | observe next ih => exact ih w w
  | note n next ih => exact ih w

end World

/-! ## To refuse or to enter -/

/-- A script that would be nested too deep is refused; nothing is done. -/
def refuse (inv : Invocation) : Step Note World (Except ScriptError Unit) := fun w ↦
  ⟨.error (.depthExceeded inv.script.name w.config.maxScriptDepth), w, []⟩

/-- Runs a script one level deeper, given how the scripts are started that it starts. -/
def Interpreter.enter (it : Interpreter) (launch : Launcher) : Launcher := fun inv ↦ do
  Step.modify World.deeper
  let result ← (it.run inv).exec (Command.perform it launch)
  Step.modify fun w ↦ { w with depth := w.depth - 1 }
  return result

section Launch

variable {it : Interpreter} {launch launch' : Launcher} {inv : Invocation} {w : World}

theorem launchAt_succ (it : Interpreter) (levels : Nat) :
    launchAt it (levels + 1) = it.enter (launchAt it levels) := rfl

theorem level_enter (h : launch.Level) : (it.enter launch).Level := by
  intro inv w
  have hbody := World.levelWith_exec it h (it.run inv) w.deeper
  refine ⟨hbody.config_eq, ?_⟩
  change (Program.exec _ (it.run inv) w.deeper).state.depth - 1 = w.depth
  rw [hbody.depth_eq]
  exact Nat.add_sub_cancel w.depth 1

/-- However a script ends, it leaves the depth as it was. -/
theorem level_launchAt (it : Interpreter) (levels : Nat) : Launcher.Level (launchAt it levels) := by
  induction levels with
  | zero => exact fun _ w ↦ .refl w
  | succ levels ih =>
    rw [launchAt_succ]
    exact level_enter ih

theorem level_launch (it : Interpreter) : Launcher.Level (ScriptHost.launch it) :=
  fun inv w ↦ level_launchAt it _ inv w

/-- What comes of a script depends on how others are started only where it starts one. -/
theorem enter_congr
    (h : ∀ c v inv' v', (it.run inv).Asks (Command.perform it launch) w.deeper c v →
      c.Launches it launch v inv' v' → launch inv' v' = launch' inv' v') :
    it.enter launch inv w = it.enter launch' inv w := by
  refine Step.bind_congr rfl (Step.bind_congr ?_ rfl)
  exact Program.exec_congr fun c v hasks ↦
    Command.perform_congr fun inv' v' hlaunches ↦ h c v inv' v' hasks hlaunches

theorem launch_of_full (h : w.config.maxScriptDepth ≤ w.depth) :
    ScriptHost.launch it inv w = refuse inv w := by
  unfold ScriptHost.launch
  rw [Nat.sub_eq_zero_of_le h]
  rfl

/-- The levels that are left are those that the settings leave above the depth. -/
theorem launch_of_free (h : w.depth < w.config.maxScriptDepth) :
    ScriptHost.launch it inv w = it.enter (ScriptHost.launch it) inv w := by
  obtain ⟨levels, hlevels⟩ := Nat.exists_eq_add_of_lt h
  have hleft : w.config.maxScriptDepth - w.depth = levels + 1 := by omega
  unfold ScriptHost.launch
  rw [hleft, launchAt_succ]
  refine enter_congr fun c v inv' v' hasks hlaunches ↦ ?_
  have hv' := World.levelWith_of_starts (level_launchAt it levels) hasks hlaunches
  have hsame : v'.config.maxScriptDepth - v'.depth = levels := by
    rw [hv'.config_eq, hv'.depth_eq]
    change w.config.maxScriptDepth - (w.depth + 1) = levels
    omega
  change launchAt it levels inv' v' = launchAt it (v'.config.maxScriptDepth - v'.depth) inv' v'
  rw [hsame]

theorem enter_apply (it : Interpreter) (launch : Launcher) (inv : Invocation) (w : World) :
    it.enter launch inv w =
      let out := (it.run inv).exec (Command.perform it launch) w.deeper
      ⟨out.value, { out.state with depth := out.state.depth - 1 }, out.log⟩ := by
  unfold Interpreter.enter
  generalize (it.run inv).exec (Command.perform it launch) = body
  ext1 <;> simp

/-- A script that is entered comes to what the interpreter makes of it, and the depth is
restored. -/
theorem launch_eq_of_free (h : w.depth < w.config.maxScriptDepth) :
    ScriptHost.launch it inv w =
      let out := (it.run inv).exec (Command.run it) w.deeper
      ⟨out.value, { out.state with depth := w.depth }, out.log⟩ := by
  have hbody := World.levelWith_exec it (level_launch it) (it.run inv) w.deeper
  rw [launch_of_free h, enter_apply]
  dsimp only
  rw [hbody.depth_eq]
  rfl

end Launch

/-! ## All runs end -/

/-- `it.Ends inv w out` says that to start a script comes to an end, with `out`: it is refused, or
it is entered and all scripts that it starts come to an end in their turn.  This is the recursion
itself and nothing but it: a start without end would have no such derivation. -/
inductive Interpreter.Ends (it : Interpreter) :
    Invocation → World → Outcome Note World (Except ScriptError Unit) → Prop where
  | refused {inv : Invocation} {w : World} (full : w.config.maxScriptDepth ≤ w.depth) :
      Ends it inv w (refuse inv w)
  | entered {inv : Invocation} {w : World} (launch : Launcher)
      (free : w.depth < w.config.maxScriptDepth)
      (inner : ∀ c v inv' v', (it.run inv).Asks (Command.perform it launch) w.deeper c v →
        c.Launches it launch v inv' v' → Ends it inv' v' (launch inv' v')) :
      Ends it inv w (it.enter launch inv w)

section Ends

variable {it : Interpreter} {inv : Invocation} {w : World}

/-- Every start of a script comes to an end, because each script that it starts has less depth
left. -/
theorem ends_launch (it : Interpreter) (inv : Invocation) (w : World) :
    it.Ends inv w (launch it inv w) := by
  generalize hleft : w.config.maxScriptDepth - w.depth = left
  induction left generalizing inv w with
  | zero =>
    have hfull : w.config.maxScriptDepth ≤ w.depth := Nat.le_of_sub_eq_zero hleft
    rw [launch_of_full hfull]
    exact .refused hfull
  | succ left ih =>
    have hfree : w.depth < w.config.maxScriptDepth := by omega
    rw [launch_of_free hfree]
    refine .entered (launch it) hfree fun c v inv' v' hasks hlaunches ↦ ih inv' v' ?_
    have hv' := World.levelWith_of_starts (level_launch it) hasks hlaunches
    rw [hv'.config_eq, hv'.depth_eq]
    change w.config.maxScriptDepth - (w.depth + 1) = left
    omega

/-- There is one end that a start can come to. -/
theorem Interpreter.Ends.eq_launch {out : Outcome Note World (Except ScriptError Unit)}
    (h : it.Ends inv w out) : out = launch it inv w := by
  induction h with
  | refused full => exact (launch_of_full full).symm
  | entered start free _ ih =>
    rw [launch_of_free free]
    exact enter_congr ih

theorem ends_iff {out : Outcome Note World (Except ScriptError Unit)} :
    it.Ends inv w out ↔ out = launch it inv w := by
  constructor
  · exact Interpreter.Ends.eq_launch
  · rintro rfl
    exact ends_launch it inv w

end Ends

/-! ## The depth is the number of scripts that run -/

section Depth

variable {it : Interpreter} {c : Command} {inv : Invocation} {w u : World}

theorem levelWith_run (it : Interpreter) (c : Command) (w : World) :
    w.LevelWith (c.run it w).state :=
  World.levelWith_perform (level_launch it) c w

/-- Between the requests of the host no script runs. -/
theorem levelWith_afterRun (it : Interpreter) (cs : List Command) (w : World) :
    w.LevelWith (afterRun it cs w) := by
  induction cs generalizing w with
  | nil => exact .refl w
  | cons c rest ih => exact (levelWith_run it c w).trans (ih _)

/-- The depth counts the runs that go on. -/
theorem Interpreter.Enters.depth_eq {active : List Invocation} (h : it.Enters c w active inv u) :
    u.depth = w.depth + active.length + 1 := by
  induction h with
  | outer launches free =>
    have hv := World.levelWith_of_launches (level_launch it) launches
    exact congrArg (· + 1) hv.depth_eq
  | @inner active inv inv' u x v c' outer asks launches free ih =>
    have hv := World.levelWith_of_starts (level_launch it) asks launches
    change v.depth + 1 = w.depth + (active.length + 1) + 1
    rw [hv.depth_eq, ih]
    rfl

theorem Interpreter.Enters.depth_le {active : List Invocation} (h : it.Enters c w active inv u) :
    u.depth ≤ u.config.maxScriptDepth := by
  cases h with
  | outer launches free => exact free
  | inner outer asks launches free => exact free

/-- A script that was loaded is entered exactly if it is not nested too deep. -/
theorem enters_execute_iff {name : String} {owner triggerer : ObjectId} {environment : Environment}
    (h : inv ∈ it.invocation? name owner triggerer environment none) :
    (∃ active inv' u,
        it.Enters (.executeScript name owner triggerer environment) w active inv' u) ↔
      w.depth < w.config.maxScriptDepth := by
  constructor
  · rintro ⟨active, inv', u, henters⟩
    induction henters with
    | outer launches free =>
      cases launches
      exact free
    | inner _ _ _ _ ih => exact ih
  · intro hfree
    exact ⟨[], inv, w.deeper, .outer (.execute h) hfree⟩

end Depth

/-! ## The interpreter is entered nowhere else -/

section Enters

variable {it : Interpreter} {c : Command} {run : Invocation → Program} {w : World}

/-- To answer a request, the interpreter is asked to load scripts and nothing else. -/
theorem Command.perform_withRun (it : Interpreter) (run : Invocation → Program)
    (launch : Launcher) (c : Command) :
    c.perform { it with run } launch = c.perform it launch := by
  cases c <;> rfl

/-- Two interpreters give the same answer if the scripts do the same that are entered for it. -/
theorem Command.run_withRun
    (h : ∀ inv v, c.Launches it (launch it) w inv v → v.depth < v.config.maxScriptDepth →
      (run inv).exec (Command.run { it with run }) v.deeper =
        (it.run inv).exec (Command.run it) v.deeper) :
    c.run { it with run } w = c.run it w := by
  unfold Command.run
  rw [perform_withRun]
  symm
  apply perform_congr
  intro inv v hlaunches
  by_cases hfull : v.config.maxScriptDepth ≤ v.depth
  · rw [launch_of_full hfull, launch_of_full hfull]
  · have hfree : v.depth < v.config.maxScriptDepth := Nat.lt_of_not_le hfull
    rw [launch_eq_of_free hfree, launch_eq_of_free hfree, h inv v hlaunches hfree]

/-- A script cannot tell two interpreters apart that do the same wherever one is entered. -/
theorem Interpreter.Enters.exec_eq {active : List Invocation} {inv : Invocation} {u : World}
    (hrun : ∀ active inv u, it.Enters c w active inv u → run inv = it.run inv)
    (h : it.Enters c w active inv u) :
    (run inv).exec (Command.run { it with run }) u = (it.run inv).exec (Command.run it) u := by
  rw [hrun active inv u h]
  -- The scripts that this one starts have less depth left.
  induction hleft : u.config.maxScriptDepth - u.depth using Nat.strongRecOn
    generalizing active inv u with
  | ind left ih =>
    symm
    apply Program.exec_congr
    intro c' x hasks
    symm
    apply Command.run_withRun
    intro inv' v hlaunches hfree
    have hinner : it.Enters c w (inv :: active) inv' v.deeper := .inner h hasks hlaunches hfree
    have hv := World.levelWith_of_starts (level_launch it) hasks hlaunches
    rw [hrun _ _ _ hinner]
    refine ih _ ?_ hinner rfl
    rw [← hleft, ← hv.config_eq, ← hv.depth_eq]
    exact Nat.sub_lt_sub_left hfree (Nat.lt_succ_self _)

/-- Nothing that comes of a request depends on scripts that are not entered for it. -/
theorem run_eq_of_enters
    (hrun : ∀ active inv u, it.Enters c w active inv u → run inv = it.run inv) :
    c.run { it with run } w = c.run it w :=
  Command.run_withRun fun _ _ hlaunches hfree ↦
    Interpreter.Enters.exec_eq hrun (.outer hlaunches hfree)

end Enters

/-- Nesting is bounded, and the depth is always restored.

- Every request leaves the depth as it was, however the scripts end that it starts, so between the
  requests of a host it is zero.
- Whenever the interpreter is entered, the depth is the number of its runs that go on, and the
  settings allow it.  Nothing depends on scripts for which it is not entered.
- A script that was loaded is refused exactly where the settings do not allow another one; then the
  interpreter is not entered and nothing is changed.  Otherwise the script comes to what the
  interpreter makes of it one level deeper.  So a start fails for its depth if it is refused, or if
  the script itself hands such a failure on.
- All of this comes to an end, whatever scripts do. -/
theorem nesting_bounded (it : Interpreter) :
    (∀ c w, (Command.run it c w).state.depth = w.depth) ∧
      (∀ config clock listening entropy cs,
        (afterRun it cs
          (World.start config clock listening entropy : Outcome Note World Unit).state).depth =
            0) ∧
      (∀ c w active inv u, it.Enters c w active inv u →
        u.depth = w.depth + (inv :: active).length ∧ 1 ≤ u.depth ∧
          u.depth ≤ u.config.maxScriptDepth) ∧
      (∀ c w run, (∀ active inv u, it.Enters c w active inv u → run inv = it.run inv) →
        Command.run { it with run } c w = Command.run it c w) ∧
      (∀ name owner triggerer environment w,
        ∀ inv ∈ it.invocation? name owner triggerer environment none,
          let c := Command.executeScript name owner triggerer environment
          ((¬∃ active inv' u, it.Enters c w active inv' u) ↔
              w.config.maxScriptDepth ≤ w.depth) ∧
            c.run it w = launch it inv w) ∧
      (∀ inv w,
        let out := (it.run inv).exec (Command.run it) w.deeper
        let refused : Prop := w.config.maxScriptDepth ≤ w.depth
        (refused → launch it inv w =
            ⟨.error (.depthExceeded inv.script.name w.config.maxScriptDepth), w, []⟩) ∧
          (¬refused →
            launch it inv w = ⟨out.value, { out.state with depth := w.depth }, out.log⟩) ∧
          ((∃ name depth, (launch it inv w).value = .error (.depthExceeded name depth)) ↔
            refused ∨ ∃ name depth, out.value = .error (.depthExceeded name depth))) ∧
      ∀ inv w out, it.Ends inv w out ↔ out = launch it inv w := by
  refine ⟨fun c w ↦ (levelWith_run it c w).depth_eq, ?_, ?_, fun _ _ _ ↦ run_eq_of_enters, ?_, ?_,
    fun _ _ _ ↦ ends_iff⟩
  · intro config clock listening entropy cs
    exact (levelWith_afterRun it cs _).depth_eq
  · intro c w active inv u henters
    have hdepth := henters.depth_eq
    rw [List.length_cons]
    exact ⟨hdepth, by omega, henters.depth_le⟩
  · intro name owner triggerer environment w inv hinv c
    refine ⟨by rw [enters_execute_iff hinv, Nat.not_lt], ?_⟩
    change it.runScript (launch it) name owner triggerer environment none w = _
    rw [Interpreter.runScript_eq, Option.mem_def.1 hinv]
    rfl
  · intro inv w out refused
    refine ⟨launch_of_full, fun h ↦ launch_eq_of_free (Nat.lt_of_not_le h), ?_⟩
    by_cases h : refused
    · rw [launch_of_full h]
      exact iff_of_true ⟨_, _, rfl⟩ (.inl h)
    · rw [launch_eq_of_free (Nat.lt_of_not_le h)]
      exact (or_iff_right h).symm

/-- The one script of a playbook starts itself, and ends as this start does. -/
def relaying : Interpreter :=
  Playbook.interpreter ((∅ : Playbook).insert "a" ⟨[1], some [.run "a"]⟩)

/-- That a start fails for its depth does not mean that it was refused.  Where only one script may
run at a time, this one is started, its own start is refused, and it hands this failure on. -/
theorem depth_failure_handed_on :
    let config : Config := { Config.default with maxScriptDepth := 1 }
    let w := (World.start config ⟨0⟩ false 0 : Outcome Note World Unit).state
    let c := Command.runScript "a" .invalid .invalid
    w.depth < w.config.maxScriptDepth ∧ (∃ active inv u, relaying.Enters c w active inv u) ∧
      (c.run relaying w).value = .error (.depthExceeded "a" 1) := by
  intro config w c
  have hfree : w.depth < w.config.maxScriptDepth := by decide +kernel
  have hloaded : ⟨⟨"a", [1], ∅⟩, .invalid, .invalid, none⟩ ∈
      relaying.invocation? "a" .invalid .invalid ∅ none := rfl
  have hvalue : (c.run relaying w).value = .error (.depthExceeded "a" 1) := rfl
  exact ⟨hfree, ⟨[], _, _, .outer (.run hloaded) hfree⟩, hvalue⟩

/-- A script that notes how deep it is and then starts itself. -/
def runaway : Interpreter where
  resolve _ := some []
  run inv := .observe fun w ↦ .note (.text (toString w.depth))
    (.perform (.runScript inv.script.name inv.owner inv.triggerer) fun _ ↦ .done)

/-- It is cut off at the depth that the settings allow. -/
example :
    let config : Config := { Config.default with maxScriptDepth := 3 }
    let w := (World.start config ⟨0⟩ false 0 : Outcome Note World Unit).state
    let out := (Command.runScript "a" .invalid .invalid).run runaway w
    out.log.map (fun | .note (.text s) => s | _ => "") = ["1", "2", "3"] ∧ out.state.depth = 0 := by
  decide +kernel

end ScriptHost
