import ScriptHost.Proofs.Engine.CallFrame

/-!
# Locals of objects

What calls do that set a local, delete one and get one, said without the natives: the value is
stored as it was given (`World.Reachable.call_setLocal`), is taken away if it is of the given type
(`World.Reachable.call_deleteLocal`), and is given back as it was stored
(`World.Reachable.call_getLocal`).  In between, anything may happen to the world.  A local is there
as long as nothing sets or deletes it, which is a condition on small steps (`World.SparesLocal`) and
so on whatever they are made of (`World.LeadsSparing`).
-/

namespace ScriptHost

namespace FunctionDef

variable {η : Type}

/-- A native that leaves its result alone comes to the zero value. -/
theorem result_context (f : FunctionDef η) (args : List Value) (site : CallSite) :
    f.result (.ok (f.context args site)) = .ok (.zero f.signature.returnType) :=
  if_pos (Value.type_zero _)

end FunctionDef

/-! ## Calls -/

section Calls

open Builtin

variable {it : Interpreter} {launch : Launcher} {w : World} {f : FunctionDef Builtin}
variable {t : LocalType} {function : FunctionName}

theorem Builtin.invoke_setLocal {ctx : CallContext} {id : ObjectId} {name : String} {v : Value}
    (hid : objectArg w ctx 0 = .ok id) (hname : ctx.arg Value.asString 1 = .ok name)
    (hv : ctx.param 2 = .ok v) :
    invoke it launch (setLocal t) ctx w =
      ⟨.ok ctx, { w with objects := w.objects.edit id (Object.setLocal name v) }, []⟩ := by
  change runSetLocal ctx w = _
  rw [runSetLocal, hid, hname, hv]
  rfl

/-- The functions that delete locals are named for the types of these. -/
theorem Builtin.deletedType_eq (hf : f ∈ table) (h : f.native = some (deleteLocal t)) :
    deletedType f.name = t := by
  rw [eq_row hf h]
  cases t <;> rfl

theorem Builtin.invoke_deleteLocal {ctx : CallContext} {id : ObjectId} {name : String}
    (ht : deletedType ctx.name = t) (hid : objectArg w ctx 0 = .ok id)
    (hname : ctx.arg Value.asString 1 = .ok name) :
    invoke it launch (deleteLocal t) ctx w =
      ⟨.ok ctx, { w with
        objects := w.objects.edit id fun o ↦
          if (o.getLocal? name).any (·.type == t.valueType) then o.deleteLocal name else o },
        []⟩ := by
  change runDeleteLocal ctx w = _
  rw [runDeleteLocal, hid, hname, ht]
  rfl

namespace World

/-- What a call does that sets a local: the value is stored as it is. -/
theorem Reachable.call_setLocal (hw : w.Reachable) (hopen : w.isShutDown = false) (hf : f ∈ table)
    (hnative : f.native = some (setLocal t))
    (hfunction : function = .id f.id ∨ function = .name f.name) (it : Interpreter)
    (launch : Launcher) (site : CallSite) (target : ObjectId) (name : String) {v : Value}
    (hv : v.type = t.valueType) :
    let out := call it launch function [.object target, .string name, v] site w
    out.value = .ok .void ∧
      out.state = { w with
        objects := w.objects.edit (w.objects.resolveId target site.caller)
          (Object.setLocal name v) } := by
  intro out
  have hsig : f.signature = (setLocal t).signature := signature_eq hf hnative
  have haccepts : f.Accepts [.object target, .string name, v] := by
    apply FunctionDef.accepts_of_types_eq
    rw [hsig]
    exact congrArg (fun u ↦ [ValueType.object, .string, u]) hv
  have hout : out = _ :=
    call_of_make (hw.named?_eq hopen hf hfunction) (haccepts.make_eq site) it launch
  rw [hout, Registry.run_implemented _ w hnative,
    invoke_setLocal (FunctionDef.objectArg_context rfl) (FunctionDef.stringArg_context rfl)
      (FunctionDef.param_context rfl)]
  refine ⟨(f.result_context _ site).trans ?_, rfl⟩
  rw [hsig]
  rfl

/-- What a call does that deletes a local: a value of another type stays. -/
theorem Reachable.call_deleteLocal (hw : w.Reachable) (hopen : w.isShutDown = false)
    (hf : f ∈ table) (hnative : f.native = some (deleteLocal t))
    (hfunction : function = .id f.id ∨ function = .name f.name) (it : Interpreter)
    (launch : Launcher) (site : CallSite) (target : ObjectId) (name : String) :
    let out := call it launch function [.object target, .string name] site w
    out.value = .ok .void ∧
      out.state = { w with
        objects := w.objects.edit (w.objects.resolveId target site.caller) fun o ↦
          if (o.getLocal? name).any (·.type == t.valueType) then o.deleteLocal name else o } := by
  intro out
  have hsig : f.signature = (deleteLocal t).signature := signature_eq hf hnative
  have haccepts : f.Accepts [.object target, .string name] := by
    apply FunctionDef.accepts_of_types_eq
    rw [hsig]
    rfl
  have hout : out = _ :=
    call_of_make (hw.named?_eq hopen hf hfunction) (haccepts.make_eq site) it launch
  rw [hout, Registry.run_implemented _ w hnative,
    invoke_deleteLocal (deletedType_eq hf hnative) (FunctionDef.objectArg_context rfl)
      (FunctionDef.stringArg_context rfl)]
  refine ⟨(f.result_context _ site).trans ?_, rfl⟩
  rw [hsig]
  rfl

/-- What a call does that gets a local: the value is given as it was stored. -/
theorem Reachable.call_getLocal (hw : w.Reachable) (hopen : w.isShutDown = false) (hf : f ∈ table)
    (hnative : f.native = some (getLocal t))
    (hfunction : function = .id f.id ∨ function = .name f.name) (it : Interpreter)
    (launch : Launcher) (site : CallSite) (target : ObjectId) (name : String) :
    let out := call it launch function [.object target, .string name] site w
    out.value =
        .ok (localOf t (w.objects.get? (w.objects.resolveId target site.caller)) name) ∧
      out.state = w := by
  have hsig : f.signature = (getLocal t).signature := signature_eq hf hnative
  have haccepts : f.Accepts [.object target, .string name] := by
    apply FunctionDef.accepts_of_types_eq
    rw [hsig]
    rfl
  refine hw.call_look hopen hf hnative rfl hfunction haccepts site ?_ ?_
  · rw [localValue, FunctionDef.objectArg_context rfl, FunctionDef.stringArg_context rfl]
    rfl
  · rw [hsig]
    exact type_localOf t _ name

end World

end Calls

/-! ## Locals that are left alone -/

namespace World

variable {id : ObjectId} {name : String} {w v : World}

/-- What comes after a world has an object that the world had, and one of its locals as it was. -/
def SparesLocal (id : ObjectId) (name : String) (w v : World) : Prop :=
  ∀ o, w.objects.get? id = some o →
    ∃ o', v.objects.get? id = some o' ∧ o'.getLocal? name = o.getLocal? name

/-- One world comes after another in small steps none of which sets or deletes a local, or takes its
object away. -/
def LeadsSparing (id : ObjectId) (name : String) : World → World → Prop :=
  Relation.ReflTransGen fun w v ↦ w.Alters v ∧ SparesLocal id name w v

theorem SparesLocal.refl (id : ObjectId) (name : String) (w : World) : SparesLocal id name w w :=
  fun o ho ↦ ⟨o, ho, rfl⟩

theorem SparesLocal.trans {u : World} (h : SparesLocal id name w v) (h' : SparesLocal id name v u) :
    SparesLocal id name w u := by
  intro o ho
  obtain ⟨o', ho', hsame⟩ := h o ho
  obtain ⟨o'', ho'', hsame'⟩ := h' o' ho'
  exact ⟨o'', ho'', hsame'.trans hsame⟩

theorem LeadsSparing.leads (h : LeadsSparing id name w v) : w.Leads v :=
  Relation.ReflTransGen.mono (fun _ _ hstep ↦ hstep.1) _ _ h

theorem LeadsSparing.spares (h : LeadsSparing id name w v) : SparesLocal id name w v := by
  induction h with
  | refl => exact .refl id name w
  | tail _ hlast ih => exact ih.trans hlast.2

/-- A local that was set is there as it was set, as long as it is left alone. -/
theorem LeadsSparing.getLocal? {v : Value} {later : World} (hlive : w.objects.contains id = true)
    (h : LeadsSparing id name
      { w with objects := w.objects.edit id (Object.setLocal name v) } later) :
    ∃ o, later.objects.get? id = some o ∧ o.getLocal? name = some v := by
  obtain ⟨o, ho⟩ := Option.isSome_iff_exists.1 hlive
  have hset : (w.objects.edit id (Object.setLocal name v)).get? id = some (o.setLocal name v) := by
    have hthere : w.objects.get? id = some o := ho
    rw [Container.get?_edit, Function.update_self, hthere]
    rfl
  obtain ⟨o', ho', hsame⟩ := h.spares _ hset
  refine ⟨o', ho', hsame.trans ?_⟩
  exact (SortedMap.get?_insert ..).trans (if_pos rfl)

end World

end ScriptHost
