import ScriptHost.Proofs.Builtin.Caller
import ScriptHost.Proofs.Engine.Locals

/-!
# What `self` names

In a parameter of a call `self` is another name for the caller, also where the parameter was left
out and `self` is its default.  No function can tell the two names apart (`self_is_the_caller`),
except for the value that `SetLocalObject` stores.

That value is stored as it is, and so a stored `self` does not stay with the object that stored it:
it names whoever reads it (`stored_self_is_the_reader`).  Everything else that is stored names the
same object to everybody (`stored_reference_as_given`).
-/

namespace ScriptHost

/-! ## Two names for the caller -/

namespace Value

variable {caller : ObjectId}

theorem meant_self : (object .self).meant caller = object caller := rfl

theorem meant_caller : (object caller).meant caller = object caller := by
  rw [meant, ObjectId.orCaller_eq, ite_self]

theorem type_meant (v : Value) : (v.meant caller).type = v.type := by
  cases v <;> rfl

end Value

namespace FunctionDef

variable {η : Type} {f : FunctionDef η} {args : List Value}

/-- Parameters of a call in which `self` is replaced by the caller at some places, other than that
of the value that `SetLocalObject` is to store. -/
structure NamesCaller (f : FunctionDef η) (caller : ObjectId) (params params' : List Value) :
    Prop where
  length_eq : params'.length = params.length
  place : ∀ i u v, params[i]? = some u → params'[i]? = some v →
    v = u ∨ u = .object .self ∧ v = .object caller ∧ ¬(f.name = "SetLocalObject" ∧ i = 2)

namespace NamesCaller

variable {caller : ObjectId} {params params' : List Value} {i : Nat}

theorem meant_eq (h : f.NamesCaller caller params params') :
    params'.map (Value.meant caller) = params.map (Value.meant caller) := by
  refine List.ext_getElem (by simp only [List.length_map, h.length_eq]) fun i hi hi' ↦ ?_
  rw [List.length_map] at hi hi'
  rw [List.getElem_map, List.getElem_map]
  rcases h.place i _ _ (List.getElem?_eq_getElem hi') (List.getElem?_eq_getElem hi) with
    heq | ⟨hself, hcaller, -⟩
  · rw [heq]
  · rw [hself, hcaller, Value.meant_self, Value.meant_caller]

theorem types_eq (h : f.NamesCaller caller params params') :
    params'.map Value.type = params.map Value.type := by
  have htype : ∀ l : List Value,
      l.map Value.type = (l.map (Value.meant caller)).map Value.type := by
    intro l
    rw [List.map_map]
    exact List.map_congr_left fun v _ ↦ v.type_meant.symm
  rw [htype params', h.meant_eq, ← htype]

/-- A place that holds no object, or that is passed over, is as it was. -/
theorem getElem?_eq (h : f.NamesCaller caller params params')
    (hi : (params.map Value.type)[i]? ≠ some .object ∨ f.name = "SetLocalObject" ∧ i = 2) :
    params'[i]? = params[i]? := by
  cases hu : params[i]? with
  | none =>
    rw [List.getElem?_eq_none_iff] at hu ⊢
    exact h.length_eq ▸ hu
  | some u =>
    have hlt : i < params'.length := h.length_eq ▸ (List.getElem?_eq_some_iff.1 hu).1
    have hv := List.getElem?_eq_getElem hlt
    rcases h.place i u _ hu hv with heq | ⟨rfl, -, hother⟩
    · rw [hv, heq]
    · rcases hi with hobject | hvalue
      · rw [List.getElem?_map, hu] at hobject
        exact absurd rfl hobject
      · exact absurd hvalue hother

end NamesCaller

/-- Of what a native leaves, only the result and the failure count. -/
theorem result_congr (f : FunctionDef η) {left left' : Except NativeError CallContext}
    (h : left'.map (·.returnValue) = left.map (·.returnValue)) :
    f.result left' = f.result left := by
  cases left with
  | error e =>
    cases left' with
    | error e' =>
      have herror : e' = e := Except.error.inj h
      rw [herror]
    | ok after' => cases h
  | ok after =>
    cases left' with
    | error e' => cases h
    | ok after' =>
      have hvalue : after'.returnValue = after.returnValue := Except.ok.inj h
      rw [result, result, hvalue]

end FunctionDef

namespace Builtin

variable {f : FunctionDef Builtin}

/-- What is not implemented takes no objects. -/
theorem object_notMem_of_unimplemented (hf : f ∈ table) (h : f.native = none) :
    ValueType.object ∉ f.signature.params := by
  have hall : ∀ f ∈ table, f.native = none → ValueType.object ∉ f.signature.params := by decide
  exact hall f hf h

/-- Only `SetLocalObject` stores objects. -/
theorem name_of_stores_object (hf : f ∈ table) {t : LocalType} (h : f.native = some (setLocal t)) :
    f.signature.params[2]? ≠ some .object ∨ f.name = "SetLocalObject" := by
  have hall : ∀ f ∈ table, f.native = some (setLocal .object) → f.name = "SetLocalObject" := by
    decide
  cases t with
  | object => exact .inr (hall f hf h)
  | int | float | string =>
    rw [signature_eq hf h]
    exact .inl nofun

end Builtin

namespace World

section Calls

variable {w : World} {it : Interpreter} {launch : Launcher} {f : FunctionDef Builtin}
variable {args args' : List Value} {site : CallSite}

/-- Two runs of a function whose parameters name the caller in two ways. -/
theorem run_namesCaller (hf : f ∈ Builtin.table)
    (htypes : (f.fill args).map Value.type = f.signature.params)
    (h : f.NamesCaller site.caller (f.fill args) (f.fill args')) :
    let out := w.functions.run (Builtin.invoke it launch) f (f.context args site) w
    let out' := w.functions.run (Builtin.invoke it launch) f (f.context args' site) w
    out'.value = out.value ∧ out'.state = out.state ∧
      out'.log.filter (Entry.isKept (some .info)) = out.log.filter (Entry.isKept (some .info)) := by
  intro out out'
  cases hnative : f.native with
  | none =>
    have hsame : f.fill args' = f.fill args := by
      refine List.ext_getElem? fun i ↦ h.getElem?_eq (.inl fun hobject ↦ ?_)
      rw [htypes] at hobject
      exact Builtin.object_notMem_of_unimplemented hf hnative (List.mem_of_getElem? hobject)
    have hctx : f.context args' site =
        (f.context args site).regiven (f.fill args) args'.length := by
      rw [← hsame]
      rfl
    have hrun : out' = out := by
      change w.functions.run _ f (f.context args' site) w = _
      rw [hctx, Registry.run, hnative]
      change _ = w.functions.run _ f (f.context args site) w
      rw [Registry.run, hnative]
      rfl
    rw [hrun]
    exact ⟨rfl, rfl, rfl⟩
  | some b =>
    have hmeans : (f.context args site).Means (f.fill args') := h.meant_eq
    have hstored : ∀ t, b = .setLocal t →
        ((f.context args site).regiven (f.fill args') args'.length).param 2 =
          (f.context args site).param 2 := by
      rintro t rfl
      have hplace : (f.fill args')[2]? = (f.fill args)[2]? :=
        h.getElem?_eq (htypes.symm ▸
          (Builtin.name_of_stores_object hf hnative).imp_right fun hname ↦ ⟨hname, rfl⟩)
      exact CallContext.param_regiven h.length_eq hplace
    have hends : Builtin.EndsAlike (Builtin.invoke it launch b (f.context args site) w)
        (Builtin.invoke it launch b (f.context args' site) w) :=
      Builtin.endsAlike_invoke b hmeans hstored
    have hout : out = _ := Registry.run_implemented _ w hnative _
    have hout' : out' = _ := Registry.run_implemented _ w hnative _
    rw [hout, hout']
    refine ⟨f.result_congr hends.value_eq, hends.state_eq, ?_⟩
    -- The calls are reported in two ways, but only to those who trace them.
    have hkept : ∀ (text : String) (log : List (Entry Note)),
        (Entry.record .trace text :: log).filter (Entry.isKept (some .info)) =
          log.filter (Entry.isKept (some .info)) := fun _ _ ↦ rfl
    rw [hkept, hkept, hends.log_eq]

end Calls

/-- In a call, `self` and the caller are two names for one object.  In every world, whoever the
caller is, dead or nobody, and whatever scripts the call starts: arguments of the right types, and
others that come to the same parameters but for `self` at some places and the caller there instead,
give the same result, leave the same world and the same log down to the records of level `info`.
The places may be left out in the one call and be given in the other.  Only the value that
`SetLocalObject` is to store has to be the same. -/
theorem self_is_the_caller (it : Interpreter) (launch : Launcher) {w : World} (hw : w.Reachable)
    {f : FunctionDef Builtin} (hf : f ∈ Builtin.table) {function : FunctionName}
    (hfunction : function = .id f.id ∨ function = .name f.name) {args args' : List Value}
    {site : CallSite} (haccepts : f.Accepts args)
    (h : f.NamesCaller site.caller (f.fill args) (f.fill args')) :
    let out := call it launch function args site w
    let out' := call it launch function args' site w
    out'.value = out.value ∧ out'.state = out.state ∧
      out'.log.filter (Entry.isKept (some .info)) = out.log.filter (Entry.isKept (some .info)) := by
  intro out out'
  have hwf : f.WellFormed := Builtin.wellFormed_table f hf
  have htypes : (f.fill args).map Value.type = f.signature.params :=
    FunctionDef.types_fill hwf haccepts
  have haccepts' : f.Accepts args' :=
    FunctionDef.accepts_of_types_fill hwf (h.types_eq.trans htypes)
  cases hopen : w.isShutDown with
  | false =>
    have hnamed := hw.named?_eq hopen hf hfunction
    have hout : out = _ := call_of_make hnamed (haccepts.make_eq site) it launch
    have hout' : out' = _ := call_of_make hnamed (haccepts'.make_eq site) it launch
    rw [hout, hout']
    exact run_namesCaller hf htypes h
  | true =>
    obtain ⟨e, hcall⟩ := call_of_unnamed (named?_of_isShutDown hopen function)
    have hout : out = _ := hcall it launch args site
    have hout' : out' = _ := hcall it launch args' site
    rw [hout, hout']
    exact ⟨rfl, rfl, rfl⟩

/-- A creature looks for the nearest object, to itself by default and to itself by its number. -/
theorem self_is_the_caller_by_default :
    let it := Interpreter.idle
    let w := populated [.add (.fresh .creature "npc")]
    let f := Builtin.row .getNearestObject
    let site : CallSite := ⟨⟨2⟩, .invalid, none⟩
    let given := [Value.int TypeMask.all.bits.toInt32, .object ⟨2⟩]
    w.Reachable ∧ f ∈ Builtin.table ∧ f.Accepts [] ∧ f.NamesCaller ⟨2⟩ (f.fill []) (f.fill given) ∧
      (call it (launch it) (.id f.id) given site w).value =
        (call it (launch it) (.id f.id) [] site w).value := by
  intro it w f site given
  have hw : w.Reachable := reachable_populated _
  have hf : f ∈ Builtin.table := Builtin.row_mem_table .getNearestObject
  have haccepts : f.Accepts [] := ⟨by decide, by decide, by decide⟩
  have hnames : f.NamesCaller ⟨2⟩ (f.fill []) (f.fill given) := by
    refine ⟨rfl, fun i u v hu hv ↦ ?_⟩
    match i with
    | 0 | 2 =>
      cases hu
      cases hv
      exact .inl rfl
    | 1 =>
      cases hu
      cases hv
      exact .inr ⟨rfl, rfl, by decide⟩
    | _ + 3 => cases hu
  exact ⟨hw, hf, haccepts, hnames,
    (self_is_the_caller it (launch it) hw hf (.inl rfl) haccepts hnames).1⟩

/-! ## `self` in store -/

/-- A reference that was stored is read as it was given.  After a call of `SetLocalObject` that
succeeds, and as long as the local is neither set nor deleted and its object stays, `GetLocalObject`
gives back to every caller what was stored.  If that is the number of a live object, it means that
object to the reader.  If it is `self`, it means the reader, whoever stored it. -/
theorem stored_reference_as_given (it : Interpreter) (launch launch' : Launcher) {w later : World}
    (hw : w.Reachable) {f g : FunctionDef Builtin} (hf : f ∈ Builtin.table)
    (hfname : f.name = "SetLocalObject") (hg : g ∈ Builtin.table)
    (hgname : g.name = "GetLocalObject") {target target' id stored : ObjectId} {name : String}
    {site site' : CallSite} {result : Value}
    (hset : (call it launch (.id f.id) [.object target, .string name, .object stored] site
      w).value = .ok result)
    (hid : w.objects.resolveId target site.caller = id) (hlive : w.objects.contains id = true)
    (hlater : LeadsSparing id name (call it launch (.id f.id)
      [.object target, .string name, .object stored] site w).state later)
    (hopen : later.isShutDown = false)
    (hid' : later.objects.resolveId target' site'.caller = id) :
    let out := call it launch' (.id g.id) [.object target', .string name] site' later
    out.value = .ok (.object stored) ∧ out.state = later ∧
      (stored ≠ .self → later.objects.contains stored = true →
        later.objects.resolveId stored site'.caller = stored) ∧
      (stored = .self → later.objects.contains site'.caller = true →
        later.objects.resolveId stored site'.caller = site'.caller) := by
  intro out
  have hstores : f.native = some (.setLocal .object) :=
    Builtin.native_of_name hf hfname
  have hreads : g.native = some (.getLocal .object) :=
    Builtin.native_of_name hg hgname
  obtain ⟨-, hstate⟩ := hw.call_setLocal (isShutDown_of_call hset) hf hstores (.inl rfl) it launch
    site target name (v := .object stored) rfl
  rw [hstate, hid] at hlater
  have hedit : Object.KeepsFile (Object.setLocal name (.object stored)) :=
    fun _ ↦ ⟨rfl, rfl, rfl⟩
  have hreach : later.Reachable := (hw.leads (leads_edit id hedit)).leads hlater.leads
  obtain ⟨o, ho, hlocal⟩ := hlater.getLocal? hlive
  obtain ⟨hvalue, hsame⟩ := hreach.call_getLocal hopen hg hreads (.inl rfl) it launch' site' target'
    name
  refine ⟨hvalue.trans ?_, hsame, fun hne hthere ↦ ?_, ?_⟩
  · rw [hid', ho]
    change Except.ok (Value.object (o.readLocal Value.asObject .invalid name)) = _
    rw [Object.readLocal, hlocal]
    rfl
  · rw [Container.resolveId, ObjectId.orCaller_eq, if_neg hne, if_pos hthere]
  · rintro rfl hthere
    rw [Container.resolveId, ObjectId.orCaller_eq, if_pos rfl, if_pos hthere]

/-- A creature stores `self` with itself, and another one reads it there. -/
theorem stored_reference_as_given_self :
    let it := Interpreter.idle
    let w := populated [.add (.fresh .creature "a"), .add (.fresh .creature "b")]
    let f := Builtin.row (.setLocal .object)
    let g := Builtin.row (.getLocal .object)
    let site : CallSite := ⟨⟨2⟩, .invalid, none⟩
    let site' : CallSite := ⟨⟨3⟩, .invalid, none⟩
    let args := [Value.object .self, .string "friend", .object .self]
    let later := (call it (launch it) (.id f.id) args site w).state
    w.Reachable ∧ f ∈ Builtin.table ∧ g ∈ Builtin.table ∧
      (call it (launch it) (.id f.id) args site w).value = .ok .void ∧ later.isShutDown = false ∧
      (call it (launch it) (.id g.id) [.object ⟨2⟩, .string "friend"] site' later).value =
        .ok (.object .self) ∧
      later.objects.resolveId .self site'.caller = site'.caller := by
  intro it w f g site site' args later
  have hw : w.Reachable := reachable_populated _
  have hopen : w.isShutDown = false := isShutDown_populated _
  have hf : f ∈ Builtin.table := Builtin.row_mem_table (.setLocal .object)
  have hg : g ∈ Builtin.table := Builtin.row_mem_table (.getLocal .object)
  obtain ⟨hvalue, hstate⟩ := hw.call_setLocal hopen hf rfl (.inl rfl) it (launch it) site .self
    "friend" (v := .object .self) rfl
  have hlater : later = _ := hstate
  have hopen' : later.isShutDown = false := by
    rw [hlater]
    exact (isShutDown_objects w _).trans hopen
  have hid : w.objects.resolveId .self site.caller = ⟨2⟩ := by decide +kernel
  have hlive : w.objects.contains ⟨2⟩ = true := by decide +kernel
  have hid' : later.objects.resolveId ⟨2⟩ site'.caller = ⟨2⟩ := by
    rw [hlater]
    decide +kernel
  have hreader : later.objects.contains site'.caller = true := by
    rw [hlater]
    decide +kernel
  have hspared : LeadsSparing ⟨2⟩ "friend" later later := .refl
  obtain ⟨hread, -, -, hself⟩ := stored_reference_as_given it (launch it) (launch it) hw hf rfl hg
    rfl hvalue hid hlive hspared hopen' hid'
  exact ⟨hw, hf, hg, hvalue, hopen', hread, hself rfl hreader⟩

/-- A stored `self` does not stay with the object that stored it: to the one that reads it, it is
the reader. -/
theorem stored_self_is_the_reader :
    let it := Interpreter.idle
    let w := populated [.add (.fresh .creature "a"), .add (.fresh .creature "b")]
    let args := [Value.object ⟨2⟩, .string "friend", .object .self]
    let site : CallSite := ⟨⟨2⟩, .invalid, none⟩
    let later := (call it (launch it) (.name "SetLocalObject") args site w).state
    w.Reachable ∧ w.objects.contains ⟨2⟩ = true ∧ w.objects.contains ⟨3⟩ = true ∧
      (call it (launch it) (.name "SetLocalObject") args site w).value = .ok .void ∧
      ∃ id,
        (call it (launch it) (.name "GetLocalObject") [.object ⟨2⟩, .string "friend"]
          ⟨⟨3⟩, .invalid, none⟩ later).value = .ok (.object id) ∧
        later.objects.resolveId id ⟨3⟩ = ⟨3⟩ := by
  intro it w args site later
  have hw : w.Reachable := reachable_populated _
  have hopen : w.isShutDown = false := isShutDown_populated _
  let f := Builtin.row (.setLocal .object)
  let g := Builtin.row (.getLocal .object)
  have hf : f ∈ Builtin.table := Builtin.row_mem_table (.setLocal .object)
  have hg : g ∈ Builtin.table := Builtin.row_mem_table (.getLocal .object)
  have hset : FunctionName.name "SetLocalObject" = .name f.name := rfl
  have hget : FunctionName.name "GetLocalObject" = .name g.name := rfl
  obtain ⟨hvalue, hstate⟩ := hw.call_setLocal hopen hf rfl (.inr hset) it (launch it) site ⟨2⟩
    "friend" (v := .object .self) rfl
  have hlater : later = _ := hstate
  have hreach : later.Reachable := by
    rw [hlater]
    exact hw.leads (leads_edit _ fun _ ↦ ⟨rfl, rfl, rfl⟩)
  have hopen' : later.isShutDown = false := by
    rw [hlater]
    exact (isShutDown_objects w _).trans hopen
  obtain ⟨hread, -⟩ := hreach.call_getLocal hopen' hg rfl (.inr hget) it (launch it)
    ⟨⟨3⟩, .invalid, none⟩ ⟨2⟩ "friend"
  refine ⟨hw, by decide +kernel, by decide +kernel, hvalue, _, hread, ?_⟩
  rw [hlater]
  decide +kernel

end World

end ScriptHost
