import ScriptHost.Proofs.Builtin.Soundness
import ScriptHost.Proofs.Engine.CallTree
import ScriptHost.Proofs.Engine.Change

/-!
# Calls of engine functions always come to something

The engine functions form a table that is registered whole (`Builtin.get?_registry`), and every
entry has the types that its native relies on (`Builtin.signature_eq`).  So a call fails only for
the reasons in `Builtin.Fails`, and then does nothing at all; in all other cases it comes to a value
of the declared type.  `World.call_total` says so of all calls in all worlds.
-/

namespace ScriptHost

/-! ## The table -/

namespace Builtin

theorem wellFormed_table : ∀ f ∈ table, f.WellFormed := by
  have hvalid : ∀ f ∈ table, f.validate.isOk = true := by decide
  intro f hf
  refine FunctionDef.validate_eq_ok_iff.1 ?_
  cases hf' : f.validate with
  | ok => rfl
  | error e =>
    have hok := hvalid f hf
    rw [hf'] at hok
    cases hok

/-- Every function that is implemented has its entry in the table. -/
theorem row_mem_table (b : Builtin) : row b ∈ table := by
  cases b with
  | getLocal t | setLocal t | deleteLocal t => cases t <;> simp [table]
  | _ => simp [table]

theorem native_row (b : Builtin) : (row b).native = some b := by
  cases b with
  | getLocal t | setLocal t | deleteLocal t => cases t <;> rfl
  | _ => rfl

theorem nodup_ids : (table.map (·.id)).Nodup := by decide +kernel

theorem nodup_names : (table.map (·.name)).Nodup := by decide +kernel

theorem free_table (logUnimplemented : Bool) :
    (⟨∅, ∅, logUnimplemented⟩ : Registry Builtin).Free table :=
  ⟨wellFormed_table, nodup_ids, nodup_names, fun _ _ ↦ rfl, fun _ _ ↦ rfl⟩

/-- All entries of the table are registered, and nothing else. -/
theorem get?_registry {logUnimplemented : Bool} {id : FunctionId} {f : FunctionDef Builtin} :
    (registry logUnimplemented).get? id = some f ↔ f ∈ table ∧ f.id = id := by
  rw [registry, (free_table logUnimplemented).get?_registerTable, or_iff_left]
  exact nofun

theorem find?_registry {logUnimplemented : Bool} {f : FunctionDef Builtin} (hf : f ∈ table) :
    (registry logUnimplemented).find? f.name = some f.id := by
  rw [registry]
  exact (free_table logUnimplemented).find?_registerTable hf

theorem get?_registry_eq_none_iff {logUnimplemented : Bool} {id : FunctionId} :
    (registry logUnimplemented).get? id = none ↔ ∀ f ∈ table, f.id ≠ id := by
  rw [Option.eq_none_iff_forall_ne_some]
  exact ⟨fun h f hf hid ↦ h f (get?_registry.2 ⟨hf, hid⟩), fun h f hf ↦
    h f (get?_registry.1 hf).1 (get?_registry.1 hf).2⟩

theorem isEmpty_registry {logUnimplemented : Bool} :
    (registry logUnimplemented).isEmpty = false := by
  obtain ⟨f, hf⟩ : ∃ f, f ∈ table := ⟨_, List.mem_cons_self⟩
  exact SortedMap.isEmpty_of_mem_keys (SortedMap.mem_keys.2 ⟨f, get?_registry.2 ⟨hf, rfl⟩⟩)

theorem indexed_registry {logUnimplemented : Bool} : (registry logUnimplemented).Indexed := by
  rw [registry]
  exact Registry.registerTable_keeps (fun _ _ _ hr h ↦ h.register hr) (.of_isEmpty rfl rfl) table

/-- No two functions have one name. -/
theorem eq_of_name_eq {f g : FunctionDef Builtin} (hf : f ∈ table) (hg : g ∈ table)
    (h : f.name = g.name) : f = g := by
  have hfind : ∀ f ∈ table, (registry true).find? f.name = some f.id := fun _ ↦ find?_registry
  have hget : ∀ f ∈ table, (registry true).get? f.id = some f := fun _ hf ↦
    get?_registry.2 ⟨hf, rfl⟩
  have hid : some f.id = some g.id := by rw [← hfind f hf, h, hfind g hg]
  have hsame : some f = some g := by rw [← hget f hf, Option.some.inj hid, hget g hg]
  exact Option.some.inj hsame

/-- A function that is implemented has no second entry. -/
theorem eq_row {f : FunctionDef Builtin} {b : Builtin} (hf : f ∈ table)
    (hb : f.native = some b) : f = row b := by
  have hall : ∀ f ∈ table, f.native.all (fun b ↦ f.name = (row b).name) = true := by decide
  have hname := hall f hf
  rw [hb] at hname
  exact eq_of_name_eq hf (row_mem_table b) (of_decide_eq_true hname)

/-- What a function runs is found under its name. -/
theorem native_of_name {f : FunctionDef Builtin} {b : Builtin} (hf : f ∈ table)
    (hname : f.name = (row b).name) : f.native = some b := by
  rw [eq_of_name_eq hf (row_mem_table b) hname, native_row]

/-- The natives are declared at the types that they rely on. -/
theorem signature_eq {f : FunctionDef Builtin} {b : Builtin} (hf : f ∈ table)
    (hb : f.native = some b) : f.signature = b.signature := by
  rw [eq_row hf hb]
  cases b with
  | getLocal t | setLocal t | deleteLocal t => cases t <;> rfl
  | _ => rfl

/-- The functions that queue the script that calls them. -/
def commands : List String := ["AssignCommand", "DelayCommand", "ActionDoCommand"]

theorem mem_commands_iff :
    ∀ f ∈ table, f.name ∈ commands ↔ f.native.any needsScript = true := by decide

/-! ## Why calls fail -/

/-- Why a call of an engine function fails: there is no such function, its arguments do not suit
it, or it would queue the calling script and there is none, or one without a name. -/
inductive Fails (id : FunctionId) (args : List Value) (site : CallSite) : DispatchError → Prop where
  | unknown (other : ∀ f ∈ table, f.id ≠ id) : Fails id args site (.unknownFunction id)
  | refused {f : FunctionDef Builtin} {e : DispatchError} (listed : f ∈ table) (number : f.id = id)
      (refuses : f.Refuses args e) : Fails id args site e
  | nameless {f : FunctionDef Builtin} (listed : f ∈ table) (number : f.id = id)
      (accepts : f.Accepts args) (command : f.name ∈ commands)
      (noName : ∀ s, site.script = some s → s.name = "") :
      Fails id args site (.native f.name (.missingScriptName f.name))

theorem scriptName_eq_empty_iff {ctx : CallContext} :
    ctx.scriptName = "" ↔ ∀ s, ctx.site.script = some s → s.name = "" := by
  unfold CallContext.scriptName
  cases ctx.site.script with
  | none => exact ⟨fun _ ↦ nofun, fun _ ↦ rfl⟩
  | some s =>
    refine ⟨fun h _ hs ↦ ?_, fun h ↦ h s rfl⟩
    cases hs
    exact h

section Call

variable {it : Interpreter} {launch : Launcher} {w : World} {f : FunctionDef Builtin}
variable {id : FunctionId} {args : List Value} {site : CallSite} {logUnimplemented : Bool}

/-- A function that would queue the calling script fails without its name, and does nothing. -/
theorem call_nameless (hf : f ∈ table) (h : f.Accepts args) (hcommand : f.name ∈ commands)
    (hname : ∀ s, site.script = some s → s.name = "") :
    let out := (registry logUnimplemented).call (invoke it launch) f.id args site w
    out.value = .error (.native f.name (.missingScriptName f.name)) ∧ out.state = w := by
  intro out
  have hout : out = _ := Registry.call_of_accepts _ site w (get?_registry.2 ⟨hf, rfl⟩) h
  rw [mem_commands_iff f hf] at hcommand
  cases hnative : f.native with
  | none =>
    rw [hnative] at hcommand
    cases hcommand
  | some b =>
    rw [hnative] at hcommand
    rw [hout, Registry.run_implemented _ w hnative,
      invoke_nameless hcommand (scriptName_eq_empty_iff.2 hname)]
    exact ⟨rfl, rfl⟩

/-- In all other cases a call that is accepted comes to a value of the declared type. -/
theorem call_of_accepts (hf : f ∈ table) (h : f.Accepts args)
    (hname : f.name ∈ commands → ¬∀ s, site.script = some s → s.name = "") :
    ∃ v, ((registry logUnimplemented).call (invoke it launch) f.id args site w).value = .ok v ∧
      v.type = f.signature.returnType := by
  rw [Registry.call_of_accepts _ site w (get?_registry.2 ⟨hf, rfl⟩) h]
  rw [mem_commands_iff f hf] at hname
  cases hnative : f.native with
  | none =>
    rw [(Registry.run_unimplemented _ w hnative _).1]
    exact ⟨_, rfl, Value.type_zero _⟩
  | some b =>
    rw [hnative] at hname
    have hsig : f.signature = b.signature := signature_eq hf hnative
    have hfits : (f.context args site).Fits b.signature :=
      hsig ▸ ⟨FunctionDef.types_fill (wellFormed_table f hf) h, Value.type_zero _⟩
    obtain ⟨after, hafter, htype⟩ :
        Gives b.signature.returnType (invoke it launch b (f.context args site) w) :=
      gives_invoke b hfits fun hb he ↦ hname hb (scriptName_eq_empty_iff.1 he)
    refine ⟨after.returnValue, ?_, hsig ▸ htype⟩
    rw [Registry.run_implemented _ w hnative]
    dsimp only
    rw [hafter, FunctionDef.result, if_pos (hsig ▸ htype)]

theorem Fails.call {e : DispatchError} (h : Fails id args site e) :
    let out := (registry logUnimplemented).call (invoke it launch) id args site w
    out.value = .error e ∧ out.state = w := by
  intro out
  cases h with
  | unknown other =>
    have hout : out = _ := Registry.call_of_unknown _ site w (get?_registry_eq_none_iff.2 other)
    rw [hout]
    exact ⟨rfl, rfl⟩
  | refused listed number refuses =>
    have hout : out = _ :=
      Registry.call_of_refuses _ site w (get?_registry.2 ⟨listed, number⟩) refuses
    rw [hout]
    exact ⟨rfl, rfl⟩
  | nameless listed number accepts command noName =>
    subst number
    exact call_nameless listed accepts command noName

/-- A call for which there is no reason to fail comes to a value of the declared type. -/
theorem call_of_not_fails (h : ∀ e, ¬Fails id args site e) :
    ∃ f ∈ table, f.id = id ∧
      ∃ v, ((registry logUnimplemented).call (invoke it launch) id args site w).value = .ok v ∧
        v.type = f.signature.returnType := by
  obtain ⟨f, hf, rfl⟩ : ∃ f ∈ table, f.id = id := by
    by_contra hnone
    exact h _ (.unknown fun f hf hid ↦ hnone ⟨f, hf, hid⟩)
  have haccepts : f.Accepts args :=
    FunctionDef.accepts_of_not_refuses fun e he ↦ h e (.refused hf rfl he)
  exact ⟨f, hf, rfl, call_of_accepts hf haccepts fun hcommand hname ↦
    h _ (.nameless hf rfl haccepts hcommand hname)⟩

end Call

end Builtin

/-! ## Worlds -/

namespace World

/-- Whether a world was shut down: then it has no functions left. -/
def isShutDown (w : World) : Bool :=
  w.functions.isEmpty

theorem functions_start (config : Config) (clock : Clock) (listening : Bool) (entropy : UInt64) :
    (start config clock listening entropy : Outcome Note World Unit).state.functions =
      Builtin.registry config.logUnimplemented := by
  rw [start]

theorem isShutDown_start (config : Config) (clock : Clock) (listening : Bool) (entropy : UInt64) :
    (start config clock listening entropy : Outcome Note World Unit).state.isShutDown = false := by
  rw [isShutDown, functions_start]
  exact Builtin.isEmpty_registry

/-- Whether a world was shut down is a matter of its functions. -/
theorem isShutDown_objects (w : World) (objects : Container) :
    { w with objects }.isShutDown = w.isShutDown := rfl

theorem isShutDown_schedule (w : World) (schedule : Schedule) :
    { w with schedule }.isShutDown = w.isShutDown := rfl

theorem isShutDown_fresh : fresh.isShutDown = false :=
  isShutDown_start ..

theorem isShutDown_populated (changes : List Container.Change) :
    (populated changes).isShutDown = false :=
  (isShutDown_objects fresh _).trans isShutDown_fresh

/-- Until it is shut down, a world has exactly the functions of the table. -/
theorem Reachable.functions_eq {w : World} (hw : w.Reachable) (h : w.isShutDown = false) :
    w.functions = Builtin.registry w.config.logUnimplemented := by
  let P (w : World) : Prop :=
    w.functions = Builtin.registry w.config.logUnimplemented ∨ w.isShutDown = true
  have hstep : ∀ w v, Alters w v → P w → P v := by
    intro w v hstep hw
    cases hstep with
    | release => exact .inr rfl
    | objects | edit | searches | actions | events | clock | random | nest => exact hw
  obtain ⟨config, clock, listening, entropy, hleads⟩ := hw
  rcases hleads.keeps hstep (.inl (functions_start ..)) with hall | hshut
  · exact hall
  · rw [h] at hshut
    cases hshut

theorem Reachable.call_eq {w : World} (hw : w.Reachable) (h : w.isShutDown = false)
    (it : Interpreter) (launch : Launcher) (id : FunctionId) (args : List Value)
    (site : CallSite) :
    call it launch (.id id) args site w =
      (Builtin.registry w.config.logUnimplemented).call (Builtin.invoke it launch) id args site
        w := by
  rw [← hw.functions_eq h]
  rfl

/-- A call that is accepted comes to a result, unless it queues a script without a name. -/
theorem Reachable.exists_result {w : World} (hw : w.Reachable) (h : w.isShutDown = false)
    {f : FunctionDef Builtin} (hf : f ∈ Builtin.table) {args : List Value}
    (haccepts : f.Accepts args) (hcommand : f.name ∉ Builtin.commands) (it : Interpreter)
    (launch : Launcher) (site : CallSite) :
    ∃ v, (call it launch (.id f.id) args site w).value = .ok v := by
  obtain ⟨v, hv, -⟩ := Builtin.call_of_accepts hf haccepts fun hmem ↦ absurd hmem hcommand
  rw [hw.call_eq h]
  exact ⟨v, hv⟩

section Calls

variable {w : World} {it : Interpreter} {launch : Launcher} {f : FunctionDef Builtin}
variable {function : FunctionName} {args : List Value} {site : CallSite} {result : Value}

/-- A world in which a call comes to a value was not shut down. -/
theorem isShutDown_of_call
    (hcall : (call it launch function args site w).value = .ok result) :
    w.isShutDown = false := by
  have hknown : ∀ id, (w.functions.call (Builtin.invoke it launch) id args site w).value =
      .ok result → w.isShutDown = false := by
    intro id hid
    cases hget : w.functions.get? id with
    | none =>
      rw [Registry.call_of_unknown _ site w hget] at hid
      cases hid
    | some f => exact SortedMap.isEmpty_of_mem_keys (SortedMap.mem_keys.2 ⟨f, hget⟩)
  cases function with
  | id id => exact hknown id hcall
  | name name =>
    change (w.functions.callByName (Builtin.invoke it launch) name args site w).value = _ at hcall
    cases hfind : w.functions.find? name with
    | none =>
      rw [Registry.callByName_of_unknown _ site w hfind] at hcall
      cases hcall
    | some id =>
      rw [Registry.callByName_of_known _ site w hfind] at hcall
      exact hknown id hcall

/-- By its number or by its name, a function of the table is the one that is called. -/
theorem Reachable.named?_eq (hw : w.Reachable) (hopen : w.isShutDown = false)
    (hf : f ∈ Builtin.table) (hfunction : function = .id f.id ∨ function = .name f.name) :
    w.functions.named? function = some f := by
  have hget : w.functions.get? f.id = some f := by
    rw [hw.functions_eq hopen]
    exact Builtin.get?_registry.2 ⟨hf, rfl⟩
  rcases hfunction with rfl | rfl
  · exact hget
  · have hfind : w.functions.find? f.name = some f.id := by
      rw [hw.functions_eq hopen]
      exact Builtin.find?_registry hf
    rw [Registry.named?, hfind]
    exact hget

/-- A world that was shut down has no functions left. -/
theorem named?_of_isShutDown (h : w.isShutDown = true) (function : FunctionName) :
    w.functions.named? function = none := by
  have hget : ∀ id, w.functions.get? id = none := by
    intro id
    have hempty : w.functions.functions.entries = [] := List.isEmpty_iff.1 h
    rw [Registry.get?, SortedMap.get?, hempty]
    rfl
  cases function with
  | id id => exact hget id
  | name name =>
    rw [Registry.named?]
    cases w.functions.find? name with
    | none => rfl
    | some id => exact hget id

/-- What is called is a function of the table, by its number or by its name. -/
theorem Reachable.of_named? (hw : w.Reachable) (h : w.functions.named? function = some f) :
    w.isShutDown = false ∧ f ∈ Builtin.table ∧ (function = .id f.id ∨ function = .name f.name) := by
  have hopen : w.isShutDown = false := by
    cases hshut : w.isShutDown with
    | false => rfl
    | true =>
      rw [named?_of_isShutDown hshut] at h
      cases h
  have hlisted : ∀ {id}, w.functions.get? id = some f → f ∈ Builtin.table ∧ f.id = id := by
    intro id hget
    rw [hw.functions_eq hopen] at hget
    exact Builtin.get?_registry.1 hget
  refine ⟨hopen, ?_⟩
  cases function with
  | id id =>
    obtain ⟨hf, rfl⟩ := hlisted h
    exact ⟨hf, .inl rfl⟩
  | name name =>
    obtain ⟨id, hfind, hget⟩ := Option.bind_eq_some_iff.1 h
    rw [hw.functions_eq hopen] at hfind
    obtain ⟨g, hg, rfl⟩ := (Builtin.indexed_registry.find?_iff name id).1 hfind
    obtain ⟨hf, hid⟩ := hlisted hget
    obtain rfl : g = f := by
      rw [hw.functions_eq hopen, hg] at hget
      exact Option.some.inj hget
    exact ⟨hf, .inr rfl⟩

/-- A call that only looks: the answer is what the function makes of the world and the parameters,
and nothing changes. -/
theorem Reachable.call_look (hw : w.Reachable) (hopen : w.isShutDown = false)
    (hf : f ∈ Builtin.table) {b : Builtin} (hnative : f.native = some b)
    {answer : World → CallContext → Except NativeError Value}
    (hlook : Builtin.invoke it launch b = Builtin.look answer)
    (hfunction : function = .id f.id ∨ function = .name f.name) (haccepts : f.Accepts args)
    (site : CallSite) {v : Value} (hanswer : answer w (f.context args site) = .ok v)
    (htype : v.type = f.signature.returnType) :
    let out := call it launch function args site w
    out.value = .ok v ∧ out.state = w := by
  intro out
  have hout : out = _ :=
    call_of_make (hw.named?_eq hopen hf hfunction) (haccepts.make_eq site) it launch
  have hgives : Builtin.invoke it launch b (f.context args site) w =
      ⟨.ok ((f.context args site).setReturn v), w, []⟩ := by
    rw [hlook, Builtin.look, Builtin.query, hanswer]
    rfl
  rw [hout, Registry.run_implemented _ w hnative, hgives]
  exact ⟨if_pos htype, rfl⟩

/-- A call that succeeds was accepted, and is one run of the native. -/
theorem call_eq_run (h : w.functions.named? function = some f)
    (hcall : (call it launch function args site w).value = .ok result) :
    f.Accepts args ∧ ∀ it launch, call it launch function args site w =
      w.functions.run (Builtin.invoke it launch) f (f.context args site) w := by
  obtain ⟨id, hget, hall⟩ := call_of_named args site h
  have haccepts : f.Accepts args := by
    refine FunctionDef.accepts_of_not_refuses fun e he ↦ ?_
    rw [hall, Registry.call_of_refuses _ site w hget he] at hcall
    cases hcall
  exact ⟨haccepts, call_of_make h (haccepts.make_eq site)⟩

end Calls

/-- In a world that was not shut down, every call of an engine function comes to a value of the
type that the table declares, or fails and changes nothing.  It fails exactly for the reasons in
`Builtin.Fails`.  This holds of all arguments and call sites, of dead objects and of numbers that
make no sense, and of whatever scripts do that the call starts. -/
theorem call_total (it : Interpreter) (launch : Launcher) {w : World} (hw : w.Reachable)
    (hopen : w.isShutDown = false) (id : FunctionId) (args : List Value) (site : CallSite) :
    let out := call it launch (.id id) args site w
    Builtin.table.length = 42 ∧
      ((∃ f ∈ Builtin.table, f.id = id ∧
          ∃ v, out.value = .ok v ∧ v.type = f.signature.returnType) ∨
        (∃ e, out.value = .error e) ∧ out.state = w) ∧
      ∀ e, out.value = .error e ↔ Builtin.Fails id args site e := by
  intro out
  have hout : out = _ := hw.call_eq hopen it launch id args site
  rw [hout]
  by_cases h : ∃ e, Builtin.Fails id args site e
  · obtain ⟨e, he⟩ := h
    refine ⟨rfl, .inr ⟨⟨e, he.call.1⟩, he.call.2⟩, fun e' ↦ ⟨fun he' ↦ ?_, fun he' ↦ he'.call.1⟩⟩
    cases he.call.1.symm.trans he'
    exact he
  · obtain ⟨f, hf, hid, v, hv, htype⟩ := Builtin.call_of_not_fails (not_exists.1 h)
    refine ⟨rfl, .inl ⟨f, hf, hid, v, hv, htype⟩, fun e ↦ ⟨fun he ↦ ?_, fun he ↦ absurd ⟨e, he⟩ h⟩⟩
    cases hv.symm.trans he

/-- A command without a script to be queued. -/
theorem call_total_delayCommand :
    let it := Interpreter.idle
    let f := Builtin.row .delayCommand
    fresh.Reachable ∧ fresh.isShutDown = false ∧
      (call it (launch it) (.id f.id) [.float .zero, .action 0 [] []] .none fresh).value =
        .error (.native "DelayCommand" (.missingScriptName "DelayCommand")) := by
  intro it f
  refine ⟨reachable_fresh, isShutDown_fresh,
    ((call_total it (launch it) reachable_fresh isShutDown_fresh _ _ _).2.2 _).2 ?_⟩
  have hf : f ∈ Builtin.table := Builtin.row_mem_table .delayCommand
  exact .nameless hf rfl ⟨by decide, by decide, by decide⟩ (by decide) nofun

end World

end ScriptHost
