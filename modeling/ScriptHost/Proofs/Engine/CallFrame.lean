import ScriptHost.Proofs.Engine.Cancellation

/-!
# What a call of an engine function may change

The name of an engine function says what the function may change (`FunctionDef.Promises`), and the
table keeps what the names say (`Builtin.promises_iff`).  A call that succeeds is one run of its
native (`World.call_eq_run`), so it leaves of the world what the scope of the native
allows (`Builtin.Leaves`).  What that comes to is said without the natives: by `World.LocalChange`
for locals, by `World.Queues` for actions and by `World.Drops` for objects.  `World.call_frame` puts
it together.
-/

namespace ScriptHost

/-! ## What the names say -/

namespace FunctionDef

/-- Whether the name of a function begins with a word. -/
def Begins {η : Type} (f : FunctionDef η) (word : String) : Prop :=
  word.toList <+: f.name.toList

instance {η : Type} (f : FunctionDef η) (word : String) : Decidable (f.Begins word) :=
  inferInstanceAs (Decidable (_ <+: _))

/-- What a function may change; one without a native changes nothing. -/
def scope (f : FunctionDef Builtin) : Builtin.Scope :=
  f.native.elim .nothing Builtin.scope

/-- What a function may change, going by its name. -/
def Promises (f : FunctionDef Builtin) : Builtin.Scope → Prop
  | .nothing =>
    f.Begins "Get" ∨ f.Begins "Print" ∨
      f.name ∈ ["FloatToString", "IntToString", "IntToFloat", "FloatToInt", "StringToInt"] ∨
      f.isImplemented = false
  | .random => f.name = "Random"
  | .locals => f.Begins "SetLocal" ∨ f.Begins "DeleteLocal"
  | .commands => f.name ∈ ["AssignCommand", "DelayCommand", "ActionDoCommand"]
  | .cancellation => f.name = "ClearAllActions"
  | .destruction => f.name = "DestroyObject"
  | .script => f.name = "ExecuteScript"

end FunctionDef

namespace Builtin

variable {f : FunctionDef Builtin} {s : Scope}

/-- Every function may change what its name says, and no name says two things. -/
theorem promises_iff (hf : f ∈ table) : f.Promises s ↔ f.scope = s := by
  have hall : ∀ f ∈ table, f.Promises s ↔ f.scope = s := by
    cases s <;> unfold FunctionDef.Promises <;> decide +kernel
  exact hall f hf

/-- Only one function starts scripts. -/
theorem native_ne_executeScript (hf : f ∈ table) (hname : f.name ≠ "ExecuteScript") :
    f.native ≠ some executeScript := by
  rintro hnative
  have hscope : f.scope = .script := by
    rw [FunctionDef.scope, hnative]
    rfl
  exact hname ((promises_iff hf).2 hscope)

/-- Functions on locals are given an object and a name. -/
theorem params_of_locals (hf : f ∈ table) (h : f.scope = .locals) :
    f.signature.params[0]? = some .object ∧ f.signature.params[1]? = some .string ∧
      2 ≤ f.minCount := by
  have hall : ∀ f ∈ table, f.scope = .locals → f.signature.params[0]? = some .object ∧
      f.signature.params[1]? = some .string ∧ 2 ≤ f.minCount := by decide
  exact hall f hf h

/-- What is to be destroyed is given, too. -/
theorem params_of_destruction (hf : f ∈ table) (h : f.scope = .destruction) :
    f.signature.params[0]? = some .object ∧ 1 ≤ f.minCount := by
  have hall : ∀ f ∈ table, f.scope = .destruction →
      f.signature.params[0]? = some .object ∧ 1 ≤ f.minCount := by decide
  exact hall f hf h

end Builtin

/-! ## What was given -/

theorem Value.exists_object {v : Value} (h : v.type = .object) : ∃ id, v = .object id := by
  cases v <;> cases h
  exact ⟨_, rfl⟩

theorem Value.exists_string {v : Value} (h : v.type = .string) : ∃ s, v = .string s := by
  cases v <;> cases h
  exact ⟨_, rfl⟩

section Arguments

variable {η : Type} {f : FunctionDef η} {args : List Value} {site : CallSite} {i : Nat}
variable {t : ValueType} {v : Value}

/-- An argument that cannot be left out is there, and has the declared type. -/
theorem FunctionDef.Accepts.given (h : f.Accepts args) (hi : i < f.minCount)
    (ht : f.signature.params[i]? = some t) : ∃ v, args[i]? = some v ∧ v.type = t := by
  have hlt : i < (args.map Value.type).length := by
    rw [List.length_map]
    exact Nat.lt_of_lt_of_le hi h.enough
  obtain ⟨rest, hrest⟩ := h.types_args
  rw [← hrest, List.getElem?_append_left hlt, List.getElem?_map, Option.map_eq_some_iff] at ht
  exact ht

/-- What was given is what the native sees. -/
theorem FunctionDef.param_context (h : args[i]? = some v) :
    (f.context args site).param i = .ok v := by
  have hlt : i < args.length := (List.getElem?_eq_some_iff.1 h).1
  have hparam : (f.context args site).params[i]? = some v := by
    change (args ++ _)[i]? = some v
    rw [List.getElem?_append_left hlt, h]
  rw [CallContext.param, hparam]

theorem FunctionDef.objectArg_context {w : World} {reference : ObjectId}
    (h : args[i]? = some (.object reference)) :
    Builtin.objectArg w (f.context args site) i =
      .ok (w.objects.resolveId reference site.caller) := by
  rw [Builtin.objectArg, CallContext.arg, param_context h]
  rfl

theorem FunctionDef.stringArg_context {name : String} (h : args[i]? = some (.string name)) :
    (f.context args site).arg Value.asString i = .ok name := by
  rw [CallContext.arg, param_context h]
  rfl

end Arguments

/-! ## What is changed -/

/-- Whether a change to an object is one to a local at most, and to which. -/
def Object.TouchesLocal (name : String) (f : Object → Object) : Prop :=
  ∀ o, ∃ locals, f o = { o with locals } ∧
    ∀ name' ≠ name, locals.get? name' = o.locals.get? name'

namespace World

/-- At most one local of one object is changed, and nothing if there is no such object. -/
structure LocalChange (target : ObjectId) (name : String) (w v : World) : Prop where
  frame : v = { w with objects.objects := v.objects.objects }
  others : ∀ id ≠ target, v.objects.get? id = w.objects.get? id
  gone : w.objects.get? target = none → v = w
  live : ∀ o, w.objects.get? target = some o → ∃ locals,
    v.objects.get? target = some { o with locals } ∧
      ∀ name' ≠ name, locals.get? name' = o.locals.get? name'

/-- One action more waits, under a number that no action ever had, and nothing else is changed. -/
structure Queues (a : Action) (w v : World) : Prop where
  frame : v = { w with
    schedule.actions := v.schedule.actions
    schedule.nextSeq := w.schedule.nextSeq + 1 }
  number : a.seq = w.schedule.nextSeq
  fresh : ∀ u : World, u.Reachable → u.Leads w →
    ∀ b ∈ u.schedule.actions.values, b.seq ≠ a.seq
  waits : v.schedule.actions.values.Perm (a :: w.schedule.actions.values)

/-- One live object is gone, and nothing else is changed. -/
structure Drops (target : ObjectId) (w v : World) : Prop where
  frame : v = { w with objects := v.objects }
  live : w.objects.contains target = true
  gone : v.objects.get? target = none
  others : Container.AgreeOff target w.objects v.objects

variable {w v u : World} {target : ObjectId} {name : String} {ctx : CallContext}

theorem LocalChange.refl (target : ObjectId) (name : String) (w : World) :
    LocalChange target name w w where
  frame := rfl
  others _ _ := rfl
  gone _ := rfl
  live o ho := ⟨o.locals, ho, fun _ _ ↦ rfl⟩

theorem localChange_edit {f : Object → Object} (hf : Object.TouchesLocal name f) :
    LocalChange target name w { w with objects := w.objects.edit target f } where
  frame := rfl
  others id hne := by
    change (w.objects.edit target f).get? id = _
    rw [Container.get?_edit, Function.update_of_ne hne]
  gone hgone := by
    have hsame : w.objects.edit target f = w.objects := by
      unfold Container.edit SortedMap.modify
      change w.objects.objects.get? target = none at hgone
      rw [hgone]
    rw [hsame]
  live o ho := by
    obtain ⟨locals, hlocals, hothers⟩ := hf o
    refine ⟨locals, ?_, hothers⟩
    change (w.objects.edit target f).get? target = _
    rw [Container.get?_edit, Function.update_self, ho, Option.map_some, hlocals]

theorem touchesLocal_setLocal (name : String) (v : Value) :
    Object.TouchesLocal name (Object.setLocal name v) := by
  intro o
  refine ⟨_, rfl, fun name' hne ↦ ?_⟩
  rw [SortedMap.get?_insert, if_neg hne]

theorem touchesLocal_deleteLocal (name : String) (t : LocalType) :
    Object.TouchesLocal name fun o ↦
      if (o.getLocal? name).any (·.type == t.valueType) then o.deleteLocal name else o := by
  intro o
  dsimp only
  split
  · refine ⟨_, rfl, fun name' hne ↦ ?_⟩
    rw [SortedMap.get?_erase, if_neg hne]
  · exact ⟨o.locals, rfl, fun _ _ ↦ rfl⟩

theorem Alters.nextSeq_le (h : w.Alters v) : w.schedule.nextSeq ≤ v.schedule.nextSeq := by
  cases h with
  | actions change => exact w.schedule.nextSeq_le_apply change
  | objects | edit | searches | events | clock | random | nest | release => exact Nat.le_refl _

/-- Numbers of actions are only counted up. -/
theorem Leads.nextSeq_le (h : w.Leads v) : w.schedule.nextSeq ≤ v.schedule.nextSeq :=
  h.keeps (P := fun v ↦ w.schedule.nextSeq ≤ v.schedule.nextSeq)
    (fun _ _ hstep hle ↦ Nat.le_trans hle hstep.nextSeq_le) (Nat.le_refl _)

theorem Reachable.queues (hw : w.Reachable) (a : Action) :
    Queues { a with seq := w.schedule.nextSeq } w
      { w with schedule := w.schedule.enqueued a } where
  frame := rfl
  number := rfl
  fresh _ hu hleads _ hb :=
    Nat.ne_of_lt (Nat.lt_of_lt_of_le (hu.keyed_schedule.lt_nextSeq hb) hleads.nextSeq_le)
  waits := hw.keyed_schedule.values_enqueued_perm a

theorem Reachable.drops (hw : w.Reachable) (hlive : w.objects.contains target = true) :
    Drops target w ((removeObject target : Step Note World (Option Object)) w).state where
  frame := rfl
  live := hlive
  gone := by
    change (Container.remove target w.objects).state.get? target = none
    rw [Container.get?_remove, Function.update_self]
  others := by
    have hwf := hw.wellFormed_objects
    exact hwf.agreeOff (hwf.remove target) (w.objects.get?_remove target)

/-- A reference that is not invalid leads to a live object. -/
theorem contains_resolveId {reference caller : ObjectId}
    (h : (w.objects.resolveId reference caller).isInvalid = false) :
    w.objects.contains (w.objects.resolveId reference caller) = true := by
  unfold Container.resolveId at h ⊢
  split
  · assumption
  · rename_i hgone
    rw [if_neg hgone] at h
    cases h

end World

/-! ## What is left alone -/

namespace World

/-- What no call changes that starts no script: how deep scripts are nested, the events, whether the
module runs, the functions, the settings, and the next number for an object. -/
structure SameFrame (w v : World) : Prop where
  depth_eq : v.depth = w.depth
  events_eq : v.schedule.events = w.schedule.events
  running_eq : v.schedule.running = w.schedule.running
  functions_eq : v.functions = w.functions
  config_eq : v.config = w.config
  nextId_eq : v.objects.nextId = w.objects.nextId

end World

namespace Builtin.Leaves

open World

variable {w v : World} {ctx : CallContext} {s : Scope}

theorem sameFrame (h : Leaves w ctx s v) : w.SameFrame v := by
  cases h with
  | remove => exact ⟨rfl, rfl, rfl, rfl, rfl, w.objects.nextId_remove _⟩
  | same | draw | setLocal | deleteLocal | defer | cancel | doom =>
    exact ⟨rfl, rfl, rfl, rfl, rfl, rfl⟩

theorem eq_of_nothing (h : Leaves w ctx .nothing v) : v = w := by
  cases h
  rfl

theorem eq_of_random (h : Leaves w ctx .random v) : v = { w with random := v.random } := by
  cases h with
  | same => rfl
  | draw max => rfl

theorem localChange {target : ObjectId} {name : String} (h : Leaves w ctx .locals v)
    (htarget : objectArg w ctx 0 = .ok target) (hname : ctx.arg Value.asString 1 = .ok name) :
    LocalChange target name w v := by
  cases h with
  | same => exact .refl target name w
  | setLocal v read named =>
    cases htarget.symm.trans read
    cases hname.symm.trans named
    exact localChange_edit (touchesLocal_setLocal name v)
  | deleteLocal t read named =>
    cases htarget.symm.trans read
    cases hname.symm.trans named
    exact localChange_edit (touchesLocal_deleteLocal name t)

theorem queues_script (h : Leaves w ctx .commands v) (hw : w.Reachable) :
    v = w ∨ ∃ a, a.kind.isScript = true ∧ Queues a w v := by
  cases h with
  | same => exact .inl rfl
  | defer script state owner triggerer delay => exact .inr ⟨_, rfl, hw.queues _⟩

theorem drops_or_queues {reference : ObjectId} (h : Leaves w ctx .destruction v) (hw : w.Reachable)
    (htarget : objectArg w ctx 0 = .ok (w.objects.resolveId reference ctx.caller)) :
    let target := w.objects.resolveId reference ctx.caller
    v = w ∨ Drops target w v ∨ ∃ a, a.kind = .destroy ∧ a.owner = target ∧ Queues a w v := by
  intro target
  cases h with
  | same => exact .inl rfl
  | remove read valid other =>
    cases htarget.symm.trans read
    exact .inr (.inl (hw.drops (contains_resolveId valid)))
  | doom delay read valid other =>
    cases htarget.symm.trans read
    exact .inr (.inr ⟨_, rfl, rfl, hw.queues _⟩)

end Builtin.Leaves

/-! ## Calls -/

namespace World

section Calls

variable {w : World} {it : Interpreter} {launch : Launcher} {f : FunctionDef Builtin}
variable {function : FunctionName} {args : List Value} {site : CallSite} {result : Value}

/-- To run a function that starts no script leaves of the world what its scope allows. -/
theorem leaves_run (hf : f.native ≠ some .executeScript) (ctx : CallContext) :
    Builtin.Leaves w ctx f.scope
      (w.functions.run (Builtin.invoke it launch) f ctx w).state := by
  rw [Registry.state_run, FunctionDef.scope]
  cases hnative : f.native with
  | none => exact .same
  | some b => exact Builtin.leaves_invoke b fun hb ↦ hf (hb ▸ hnative)

/-- Nor does it matter to it what scripts there are. -/
theorem run_eq (hf : f.native ≠ some .executeScript) (ctx : CallContext) (it it' : Interpreter)
    (launch launch' : Launcher) :
    w.functions.run (Builtin.invoke it launch) f ctx w =
      w.functions.run (Builtin.invoke it' launch') f ctx w := by
  cases hnative : f.native with
  | none => rw [Registry.run, Registry.run, hnative]
  | some b =>
    have hb : b ≠ .executeScript := fun hb ↦ hf (hb ▸ hnative)
    rw [Registry.run_implemented _ w hnative, Registry.run_implemented _ w hnative,
      Builtin.invoke_eq hb it it' launch launch']

theorem callStart?_eq_none (h : w.functions.named? function = some f)
    (hf : f.native ≠ some .executeScript) : w.callStart? it function args site = none := by
  rw [callStart?, h, Option.bind_some]
  cases CallContext.make f args site with
  | error e => rfl
  | ok ctx =>
    dsimp only
    cases hnative : f.native with
    | none => rfl
    | some b =>
      cases b with
      | executeScript => exact absurd hnative hf
      | _ => rfl

/-- Where no script is started, the interpreter is not entered. -/
theorem not_enters_of_callStart? (h : w.callStart? it function args site = none)
    {active : List Invocation} {inv : Invocation} {u : World} :
    ¬it.Enters (.call function args site) w active inv u := by
  intro henters
  induction henters with
  | outer launches free =>
    cases launches with
    | call starts =>
      rw [h] at starts
      cases starts
  | inner _ _ _ _ ih => exact ih

end Calls

/-- What a call of an engine function may change, in every world, at every call site and for all
arguments, dead objects and `self` among them.

- A function other than `ExecuteScript` does not enter the interpreter: the call comes to the same
  whatever scripts there are and however they are started.  It leaves alone how deep scripts are
  nested, the events, whether the module runs, the functions, the settings and the next number for
  an object.
- Functions that get, print or convert something, and those that are not implemented, change
  nothing, and `Random` only changes the random numbers.
- Functions that set or delete a local change at most that local of the object that is meant.
- Commands queue at most one script, under a new number, and run nothing.
- `ClearAllActions` takes the scripts of the caller off the queue.
- `DestroyObject` removes the object that is meant, or queues its destruction, or does nothing. -/
theorem call_frame (it : Interpreter) (launch : Launcher) {w : World} (hw : w.Reachable)
    {f : FunctionDef Builtin} (hf : f ∈ Builtin.table) (hscript : f.name ≠ "ExecuteScript")
    {function : FunctionName} (hfunction : function = .id f.id ∨ function = .name f.name)
    {args : List Value} {site : CallSite} {result : Value}
    (hcall : (call it launch function args site w).value = .ok result) :
    let after := (call it launch function args site w).state
    let meant (reference : ObjectId) := w.objects.resolveId reference site.caller
    Builtin.table.length = 42 ∧
      (¬∃ active inv u, it.Enters (.call function args site) w active inv u) ∧
      (∀ it' launch',
        call it' launch' function args site w = call it launch function args site w) ∧
      (after.depth = w.depth ∧ after.schedule.events = w.schedule.events ∧
        after.schedule.running = w.schedule.running ∧ after.functions = w.functions ∧
        after.config = w.config ∧ after.objects.nextId = w.objects.nextId) ∧
      (f.Begins "Get" ∨ f.Begins "Print" ∨
        f.name ∈ ["FloatToString", "IntToString", "IntToFloat", "FloatToInt", "StringToInt"] ∨
        f.isImplemented = false → after = w) ∧
      (f.name = "Random" → after = { w with random := after.random }) ∧
      (f.Begins "SetLocal" ∨ f.Begins "DeleteLocal" → ∃ reference name,
        args[0]? = some (.object reference) ∧ args[1]? = some (.string name) ∧
          LocalChange (meant reference) name w after) ∧
      (f.name ∈ ["AssignCommand", "DelayCommand", "ActionDoCommand"] →
        after = w ∨ ∃ a, a.kind.isScript = true ∧ Queues a w after) ∧
      (f.name = "ClearAllActions" →
        after = { w with schedule.actions := after.schedule.actions } ∧
          after.schedule.actions.values = w.schedule.actions.values.filter fun a ↦
            !(a.owner == site.caller && a.kind.isScript)) ∧
      (f.name = "DestroyObject" → ∃ reference, args[0]? = some (.object reference) ∧
        (after = w ∨ Drops (meant reference) w after ∨
          ∃ a, a.kind = .destroy ∧ a.owner = meant reference ∧ Queues a w after)) := by
  intro after meant
  have hnative := Builtin.native_ne_executeScript hf hscript
  have hnamed := hw.named?_eq (isShutDown_of_call hcall) hf hfunction
  obtain ⟨haccepts, hrun⟩ := call_eq_run hnamed hcall
  have hleaves : Builtin.Leaves w (f.context args site) f.scope after := by
    change Builtin.Leaves _ _ _ (call it launch function args site w).state
    rw [hrun]
    exact leaves_run hnative _
  have hscope : ∀ {s}, f.Promises s → Builtin.Leaves w (f.context args site) s after :=
    fun h ↦ (Builtin.promises_iff hf).1 h ▸ hleaves
  have hframe := hleaves.sameFrame
  refine ⟨rfl, ?_, ?_, ?_, ?_, ?_, ?_, ?_, ?_, ?_⟩
  · rintro ⟨active, inv, u, henters⟩
    exact not_enters_of_callStart? (callStart?_eq_none hnamed hnative) henters
  · intro it' launch'
    rw [hrun, hrun, run_eq hnative]
  · exact ⟨hframe.depth_eq, hframe.events_eq, hframe.running_eq, hframe.functions_eq,
      hframe.config_eq, hframe.nextId_eq⟩
  · intro h
    exact (hscope (s := .nothing) h).eq_of_nothing
  · intro h
    exact (hscope (s := .random) h).eq_of_random
  · intro h
    have hlocals : f.Promises .locals := h
    obtain ⟨hobject, hstring, hcount⟩ :=
      Builtin.params_of_locals hf ((Builtin.promises_iff hf).1 hlocals)
    obtain ⟨v, hv, hvt⟩ := haccepts.given (by omega) hobject
    obtain ⟨n, hn, hnt⟩ := haccepts.given (by omega) hstring
    obtain ⟨reference, rfl⟩ := Value.exists_object hvt
    obtain ⟨name, rfl⟩ := Value.exists_string hnt
    exact ⟨reference, name, hv, hn, (hscope hlocals).localChange
      (FunctionDef.objectArg_context hv) (FunctionDef.stringArg_context hn)⟩
  · intro h
    exact (hscope (s := .commands) h).queues_script hw
  · intro h
    have hafter : after = { w with schedule := w.schedule.calledOff site.caller } :=
      calledOff_of_call hf h hnamed hcall
    rw [hafter]
    exact ⟨rfl, w.schedule.values_calledOff site.caller⟩
  · intro h
    have hdestroys : f.Promises .destruction := h
    obtain ⟨hobject, hcount⟩ :=
      Builtin.params_of_destruction hf ((Builtin.promises_iff hf).1 hdestroys)
    obtain ⟨v, hv, hvt⟩ := haccepts.given (by omega) hobject
    obtain ⟨reference, rfl⟩ := Value.exists_object hvt
    exact ⟨reference, hv,
      (hscope hdestroys).drops_or_queues hw (FunctionDef.objectArg_context hv)⟩

/-- An object sets a local of its own: no other object is changed, and no other local. -/
theorem call_frame_setLocal :
    let it := Interpreter.idle
    let w := populated [.add (.fresh .creature "npc")]
    let f := Builtin.row (.setLocal .int)
    let args := [Value.object .self, .string "n", .int 5]
    let out := call it (launch it) (.id f.id) args ⟨⟨2⟩, .invalid, none⟩ w
    w.Reachable ∧ (∃ result, out.value = .ok result) ∧ LocalChange ⟨2⟩ "n" w out.state := by
  intro it w f args out
  have hw : w.Reachable := reachable_populated _
  have hopen : w.isShutDown = false := isShutDown_populated _
  have hf : f ∈ Builtin.table := Builtin.row_mem_table (.setLocal .int)
  have haccepts : f.Accepts args := ⟨by decide, by decide, by decide⟩
  have hout : out = call it (launch it) (.id f.id) args ⟨⟨2⟩, .invalid, none⟩ w := rfl
  rw [hout]
  obtain ⟨result, hresult⟩ :=
    hw.exists_result hopen hf haccepts (by decide) it (launch it) ⟨⟨2⟩, .invalid, none⟩
  have hmeant : w.objects.resolveId .self ⟨2⟩ = ⟨2⟩ := by decide +kernel
  have hall := call_frame it (launch it) hw hf (by decide) (.inl rfl) hresult
  obtain ⟨-, -, -, -, -, -, hlocals, -⟩ := hall
  obtain ⟨reference, name, hreference, hname, hchange⟩ := hlocals (.inl (by decide +kernel))
  cases hreference
  cases hname
  exact ⟨hw, ⟨result, hresult⟩, hmeant ▸ hchange⟩

end World

end ScriptHost
