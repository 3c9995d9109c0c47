import ScriptHost.Proofs.Engine.Pump
import ScriptHost.Proofs.Function.Consistency

/-!
# Which scripts a request starts

Scripts are started by requests, and requests are made by scripts.  This module says which scripts
one request starts, and where: `Command.Launches` for requests, `Program.Asks` for the requests that
a script makes in its turn, and `Interpreter.Enters` for the two taken together, all the way down.

Nothing is left out: what a request comes to depends on how scripts are started only where
`Launches` says that one is (`Command.perform_congr`), and what a script comes to depends on how
requests are answered only where `Asks` says that it makes one (`Program.exec_congr`).
-/

namespace ScriptHost

/-- What comes of two steps one after the other depends on what the first does, and on what the
second does after it. -/
theorem Step.bind_congr {ν σ α β : Type} {x y : Step ν σ α} {k l : α → Step ν σ β} {s : σ}
    (hx : x s = y s) (hk : k (y s).value (y s).state = l (y s).value (y s).state) :
    (x >>= k) s = (y >>= l) s := by
  apply Outcome.ext
  · rw [value_bind, value_bind, hx, hk]
  · rw [state_bind, state_bind, hx, hk]
  · rw [log_bind, log_bind, hx, hk]

/-! ## What one step starts -/

/-- The start of a script by its name, if it can be loaded. -/
def Interpreter.invocation? (it : Interpreter) (name : String) (owner triggerer : ObjectId)
    (environment : Environment) (state : Option ScriptState) : Option Invocation :=
  (it.resolve name).map fun bytecode ↦ ⟨⟨name, bytecode, environment⟩, owner, triggerer, state⟩

/-- The script that an engine function starts; only one of them does. -/
def Builtin.start? (it : Interpreter) (w : World) (ctx : CallContext) : Builtin → Option Invocation
  | executeScript =>
    match ctx.arg Value.asString 0, objectArg w ctx 1 with
    | .ok name, .ok target =>
      it.invocation? name target ctx.triggerer ((ctx.site.script.map (·.environment)).getD ∅) none
    | _, _ => none
  | _ => none

/-- The function of a name. -/
def Registry.named? {η : Type} (r : Registry η) : FunctionName → Option (FunctionDef η)
  | .id id => r.get? id
  | .name name => (r.find? name).bind r.get?

/-- The script that a call of an engine function starts. -/
def World.callStart? (it : Interpreter) (function : FunctionName) (args : List Value)
    (site : CallSite) (w : World) : Option Invocation :=
  (w.functions.named? function).bind fun f ↦
    match CallContext.make f args site with
    | .ok ctx => f.native.bind (·.start? it w ctx)
    | .error _ => none

/-- The script that an action starts when it is fired. -/
def World.fireStart? (it : Interpreter) (a : Action) (w : World) : Option Invocation :=
  let owner := w.objects.resolveId a.owner .invalid
  if a.owner.isConcrete ∧ owner.isInvalid then none
  else
    match a.kind with
    | .destroy => none
    | .script name state =>
      it.invocation? name owner (w.objects.resolveId a.triggerer .invalid) ∅ (some state)

section Congruence

variable {it : Interpreter} {launch launch' : Launcher} {w : World}

theorem Interpreter.runScript_eq (it : Interpreter) (launch : Launcher) (name : String)
    (owner triggerer : ObjectId) (environment : Environment) (state : Option ScriptState)
    (w : World) :
    it.runScript launch name owner triggerer environment state w =
      (it.invocation? name owner triggerer environment state).elim
        ⟨.error (.notFound name), w, []⟩ (launch · w) := by
  unfold runScript load invocation?
  cases it.resolve name with
  | none => rfl
  | some bytecode => rfl

theorem Interpreter.runScript_congr {name : String} {owner triggerer : ObjectId}
    {environment : Environment} {state : Option ScriptState}
    (h : ∀ inv ∈ it.invocation? name owner triggerer environment state,
      launch inv w = launch' inv w) :
    it.runScript launch name owner triggerer environment state w =
      it.runScript launch' name owner triggerer environment state w := by
  rw [runScript_eq, runScript_eq]
  cases hinv : it.invocation? name owner triggerer environment state with
  | none => rfl
  | some inv => exact h inv hinv

theorem Builtin.invoke_congr {f : Builtin} {ctx : CallContext}
    (h : ∀ inv ∈ f.start? it w ctx, launch inv w = launch' inv w) :
    invoke it launch f ctx w = invoke it launch' f ctx w := by
  cases f with
  | executeScript =>
    change runExecuteScript it launch ctx w = runExecuteScript it launch' ctx w
    unfold runExecuteScript
    unfold start? at h
    cases hname : ctx.arg Value.asString 0 with
    | error e => rfl
    | ok name =>
      cases htarget : objectArg w ctx 1 with
      | error e =>
        simp only [withArgs, htarget]
      | ok target =>
        simp only [hname, htarget] at h
        simp only [withArgs, htarget]
        exact Step.bind_congr (Interpreter.runScript_congr h) rfl
  | _ => rfl

theorem Registry.call_congr {r : Registry Builtin} {id : FunctionId} {args : List Value}
    {site : CallSite}
    (h : ∀ f ∈ r.get? id, ∀ ctx, CallContext.make f args site = .ok ctx →
      ∀ native ∈ f.native, ∀ inv ∈ native.start? it w ctx, launch inv w = launch' inv w) :
    r.call (Builtin.invoke it launch) id args site w =
      r.call (Builtin.invoke it launch') id args site w := by
  unfold Registry.call
  cases hf : r.get? id with
  | none => rfl
  | some f =>
    cases hctx : CallContext.make f args site with
    | error e => simp only [hctx]
    | ok ctx =>
      simp only [hctx]
      cases hnative : f.native with
      | none => simp only [Registry.run, hnative]
      | some native =>
        have hinvoke := Builtin.invoke_congr (h f hf ctx hctx native hnative)
        rw [run_implemented _ w hnative, run_implemented _ w hnative, hinvoke]

theorem World.call_congr {function : FunctionName} {args : List Value} {site : CallSite}
    (h : ∀ inv ∈ w.callStart? it function args site, launch inv w = launch' inv w) :
    call it launch function args site w = call it launch' function args site w := by
  have hstart : ∀ f ∈ w.functions.named? function, ∀ ctx,
      CallContext.make f args site = .ok ctx → ∀ native ∈ f.native,
      ∀ inv ∈ native.start? it w ctx, launch inv w = launch' inv w := by
    intro f hf ctx hctx native hnative inv hinv
    apply h
    rw [Option.mem_def] at hf hnative hinv ⊢
    simp [callStart?, hf, hctx, hnative, hinv]
  cases function with
  | id id => exact Registry.call_congr hstart
  | name name =>
    change w.functions.callByName _ name args site w = w.functions.callByName _ name args site w
    unfold Registry.callByName
    cases hid : w.functions.find? name with
    | none => rfl
    | some id =>
      refine Registry.call_congr fun f hf ↦ hstart f ?_
      simpa [Registry.named?, hid] using hf

/-- A call is the call of the function that is named. -/
theorem World.call_of_named {function : FunctionName} {f : FunctionDef Builtin}
    (args : List Value) (site : CallSite) (h : w.functions.named? function = some f) :
    ∃ id, w.functions.get? id = some f ∧ ∀ it launch,
      call it launch function args site w =
        w.functions.call (Builtin.invoke it launch) id args site w := by
  cases function with
  | id id => exact ⟨id, h, fun _ _ ↦ rfl⟩
  | name name =>
    obtain ⟨id, hfind, hget⟩ := Option.bind_eq_some_iff.1 h
    exact ⟨id, hget, fun it launch ↦ Registry.callByName_of_known _ site w hfind⟩

/-- A call that was found well formed is a run of the function. -/
theorem World.call_of_make {function : FunctionName} {f : FunctionDef Builtin} {args : List Value}
    {site : CallSite} {ctx : CallContext} (h : w.functions.named? function = some f)
    (hctx : CallContext.make f args site = .ok ctx) (it : Interpreter) (launch : Launcher) :
    call it launch function args site w =
      w.functions.run (Builtin.invoke it launch) f ctx w := by
  obtain ⟨id, hget, hcall⟩ := call_of_named args site h
  rw [hcall, Registry.call, hget]
  dsimp only
  rw [hctx]

/-- A call of a function that is not there fails, whatever it is given. -/
theorem World.call_of_unnamed {function : FunctionName} (h : w.functions.named? function = none) :
    ∃ e, ∀ it launch args site, call it launch function args site w = ⟨.error e, w, []⟩ := by
  cases function with
  | id id => exact ⟨_, fun _ _ _ site ↦ Registry.call_of_unknown _ site w h⟩
  | name name =>
    cases hfind : w.functions.find? name with
    | none => exact ⟨_, fun _ _ _ site ↦ Registry.callByName_of_unknown _ site w hfind⟩
    | some id =>
      rw [Registry.named?, hfind] at h
      refine ⟨.unknownFunction id, fun it launch args site ↦ ?_⟩
      change w.functions.callByName _ name args site w = _
      rw [Registry.callByName_of_known _ site w hfind, Registry.call_of_unknown _ site w h]

/-- A call is refused, or it is a run of the function that is named. -/
theorem World.call_cases (function : FunctionName) (args : List Value) (site : CallSite)
    (w : World) :
    (∃ e, ∀ it launch, call it launch function args site w = ⟨.error e, w, []⟩) ∨
      ∃ f, w.functions.named? function = some f ∧ f.Accepts args := by
  cases hnamed : w.functions.named? function with
  | some f =>
    rcases FunctionDef.make_cases f args site with ⟨e, hrefuses, -⟩ | ⟨haccepts, -⟩
    · obtain ⟨id, hget, hcall⟩ := call_of_named args site hnamed
      refine .inl ⟨e, fun it launch ↦ ?_⟩
      rw [hcall, Registry.call_of_refuses _ site w hget hrefuses]
    · exact .inr ⟨f, rfl, haccepts⟩
  | none =>
    obtain ⟨e, hcall⟩ := call_of_unnamed hnamed
    exact .inl ⟨e, fun it launch ↦ hcall it launch args site⟩

theorem World.fire_congr {a : Action}
    (h : ∀ inv ∈ w.fireStart? it a, launch inv w = launch' inv w) :
    fire it launch a w = fire it launch' a w := by
  unfold fireStart? at h
  unfold fire
  dsimp only at h ⊢
  split
  · rfl
  · rename_i hthere
    rw [if_neg hthere] at h
    cases hkind : a.kind with
    | destroy => rfl
    | script name state =>
      simp only [hkind] at h
      refine Step.bind_congr rfl (Step.bind_congr ?_ rfl)
      exact Interpreter.runScript_congr h

/-- What is fired one after the other depends on how scripts are started only at the turns of those
actions that start one. -/
theorem World.fireAll_congr {actions : List Action}
    (h : ∀ before a after, actions = before ++ a :: after →
      let turn := (Step.forEach before (fire it launch) w).state
      ∀ inv ∈ turn.fireStart? it a, launch inv turn = launch' inv turn) :
    Step.forEach actions (fire it launch) w = Step.forEach actions (fire it launch') w := by
  induction actions generalizing w with
  | nil => rfl
  | cons a rest ih =>
    have hhead : fire it launch a w = fire it launch' a w := fire_congr (h [] a rest rfl)
    refine Step.bind_congr hhead ?_
    rw [← hhead]
    apply ih
    intro before b after hrest
    exact h (a :: before) b after (by rw [hrest, List.cons_append])

end Congruence

/-! ## Requests -/

/-- `c.Launches it launch w inv v` says that, to answer the request `c` in the world `w`, a script
is started as `inv` in the world `v`.  With a pump, `v` depends on what the actions did that fired
before. -/
inductive Command.Launches (it : Interpreter) (launch : Launcher) (w : World) :
    Command → Invocation → World → Prop where
  | run {name : String} {owner triggerer : ObjectId} {inv : Invocation}
      (loaded : inv ∈ it.invocation? name owner triggerer ∅ none) :
      Launches it launch w (.runScript name owner triggerer) inv w
  | execute {name : String} {owner triggerer : ObjectId} {environment : Environment}
      {inv : Invocation} (loaded : inv ∈ it.invocation? name owner triggerer environment none) :
      Launches it launch w (.executeScript name owner triggerer environment) inv w
  | call {function : FunctionName} {args : List Value} {site : CallSite} {inv : Invocation}
      (starts : inv ∈ w.callStart? it function args site) :
      Launches it launch w (.call function args site) inv w
  | fire {before after : List Action} {a : Action} {inv : Invocation}
      (turn : w.pumped = before ++ a :: after)
      (starts : inv ∈
        (Step.forEach before (World.fire it launch) w.taken).state.fireStart? it a) :
      Launches it launch w .pump inv (Step.forEach before (World.fire it launch) w.taken).state

namespace Command

variable {it : Interpreter} {launch launch' : Launcher} {w : World}

theorem pump_congr (h : ∀ inv v, Launches it launch w .pump inv v → launch inv v = launch' inv v) :
    World.pump it launch w = World.pump it launch' w := by
  have hfire : Step.forEach w.pumped (World.fire it launch) w.taken =
      Step.forEach w.pumped (World.fire it launch') w.taken :=
    World.fireAll_congr fun before a after hpumped inv hinv ↦ h inv _ (.fire hpumped hinv)
  rw [World.pump_eq, World.pump_eq, hfire]

/-- What a request comes to depends on how scripts are started only where it starts one. -/
theorem perform_congr {c : Command}
    (h : ∀ inv v, c.Launches it launch w inv v → launch inv v = launch' inv v) :
    c.perform it launch w = c.perform it launch' w := by
  cases c with
  | call function args site => exact World.call_congr fun inv hinv ↦ h inv w (.call hinv)
  | runScript name owner triggerer =>
    exact Interpreter.runScript_congr fun inv hinv ↦ h inv w (.run hinv)
  | executeScript name owner triggerer environment =>
    exact Interpreter.runScript_congr fun inv hinv ↦ h inv w (.execute hinv)
  | pump => exact pump_congr h
  | objects | schedule | moveObject | random | loadScript | delayScript | destroyDelayed | pushEvent
  | setClock | advanceClock | shutdown | functions | config | diagnostic | frameFree => rfl

end Command

/-! ## Scripts -/

/-- `p.Asks perform w c v` says that the program `p`, run in the world `w`, makes the request `c` in
the world `v`. -/
inductive Program.Asks (perform : (c : Command) → Step Note World c.Reply) :
    Program → World → Command → World → Prop where
  | now {c : Command} {next : c.Reply → Program} {w : World} :
      Asks perform (.perform c next) w c w
  | later {c c' : Command} {next : c.Reply → Program} {w v : World}
      (asks : Asks perform (next (perform c w).value) (perform c w).state c' v) :
      Asks perform (.perform c next) w c' v
  | observe {next : World → Program} {c : Command} {w v : World}
      (asks : Asks perform (next w) w c v) : Asks perform (.observe next) w c v
  | note {n : Note} {next : Program} {c : Command} {w v : World}
      (asks : Asks perform next w c v) : Asks perform (.note n next) w c v

namespace Program

variable {perform perform' : (c : Command) → Step Note World c.Reply} {p : Program} {w v : World}

/-- What a program comes to depends on how requests are answered only where it makes one. -/
theorem exec_congr (h : ∀ c v, p.Asks perform w c v → perform c v = perform' c v) :
    p.exec perform w = p.exec perform' w := by
  induction p generalizing w with
  | finish result => rfl
  | perform c next ih =>
    have hnow : perform c w = perform' c w := h c w .now
    refine Step.bind_congr hnow ?_
    rw [← hnow]
    exact ih _ fun c' v' hasks ↦ h c' v' (.later hasks)
  | observe next ih => exact ih w fun c v hasks ↦ h c v (.observe hasks)
  | note n next ih => exact Step.bind_congr rfl (ih fun c v hasks ↦ h c v (.note hasks))

/-- What the answers keep holds wherever a request is made. -/
theorem Asks.keeps {P : World → Prop} {c : Command} (h : p.Asks perform w c v)
    (hperform : ∀ c w, P w → P (perform c w).state) (hw : P w) : P v := by
  induction h with
  | now => exact hw
  | later _ ih => exact ih (hperform _ _ hw)
  | observe _ ih => exact ih hw
  | note _ ih => exact ih hw

end Program

/-! ## Runs of the interpreter -/

/-- The world in which one more script runs. -/
def World.deeper (w : World) : World :=
  { w with depth := w.depth + 1 }

/-- `it.Enters c w active inv u` says that, in the course of the request `c` in the world `w`, the
interpreter is entered with `inv` in the world `u`, while the runs `active` that it was entered for
before are still going on, the latest first.  It is not entered where scripts are nested as deep as
the settings allow. -/
inductive Interpreter.Enters (it : Interpreter) (c : Command) (w : World) :
    List Invocation → Invocation → World → Prop where
  | outer {inv : Invocation} {v : World} (launches : c.Launches it (launch it) w inv v)
      (free : v.depth < v.config.maxScriptDepth) : Enters it c w [] inv v.deeper
  | inner {active : List Invocation} {inv inv' : Invocation} {u x v : World} {c' : Command}
      (outer : Enters it c w active inv u) (asks : (it.run inv).Asks (Command.run it) u c' x)
      (launches : c'.Launches it (launch it) x inv' v)
      (free : v.depth < v.config.maxScriptDepth) : Enters it c w (inv :: active) inv' v.deeper

end ScriptHost
