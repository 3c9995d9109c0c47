import ScriptHost.Proofs.Engine.Course
import ScriptHost.Proofs.Engine.Locals

/-!
# Writes to locals

Scripts get, set and delete locals by twelve functions, three for each of four types.  Which local a
request sets or deletes can be read off the request (`Request.Writes`), by the name of the function
that it calls and by what its arguments mean in the world in which it is made.

A request accounts for what it leaves of the locals (`Request.AccountsFor`) if that is what was
there before, but for what the request writes.  All requests that start no script do
(`Command.accountsFor_perform`), unless they are made to write locals by other means.
-/

namespace ScriptHost

/-! ## Writes -/

namespace LocalType

/-- The name of the function that gets a local of a type. -/
def getter : LocalType → String
  | int => "GetLocalInt"
  | float => "GetLocalFloat"
  | string => "GetLocalString"
  | object => "GetLocalObject"

/-- The name of the function that sets a local of a type. -/
def setter : LocalType → String
  | int => "SetLocalInt"
  | float => "SetLocalFloat"
  | string => "SetLocalString"
  | object => "SetLocalObject"

/-- The name of the function that deletes a local of a type. -/
def deleter : LocalType → String
  | int => "DeleteLocalInt"
  | float => "DeleteLocalFloat"
  | string => "DeleteLocalString"
  | object => "DeleteLocalObject"

theorem deleter_injective : Function.Injective deleter := by
  intro t t' h
  cases t <;> cases t' <;> first | rfl | exact absurd h (by decide)

end LocalType

/-- Whether it is the function of a name that is called. -/
def World.Calls (w : World) (function : FunctionName) (name : String) : Prop :=
  ∃ f, w.functions.named? function = some f ∧ f.name = name

/-- What is done to a local. -/
inductive LocalWrite where
  | set (v : Value)
  /-- A value of this type is deleted, and one of another type is left. -/
  | delete (t : LocalType)

namespace LocalWrite

variable {x : LocalWrite} {old : Option Value} {v : Value}

/-- Whether a value that is stored is lost. -/
def Undoes : LocalWrite → Value → Prop
  | set _, _ => True
  | delete t, v => v.type = t.valueType

/-- What is stored afterwards. -/
def apply (x : LocalWrite) (old : Option Value) : Option Value :=
  match x with
  | set v => some v
  | delete t => old.filter (·.type != t.valueType)

theorem apply_eq_some_iff : x.apply old = some v ↔ x = .set v ∨ old = some v ∧ ¬x.Undoes v := by
  cases x with
  | set u => simp [apply, Undoes]
  | delete t => simp [apply, Undoes, Option.filter_eq_some_iff]

/-- What is done to the object. -/
def edit (x : LocalWrite) (name : String) : Object → Object :=
  match x with
  | set v => Object.setLocal name v
  | delete t => fun o ↦
    if (o.getLocal? name).any (·.type == t.valueType) then o.deleteLocal name else o

theorem getLocal?_edit (x : LocalWrite) (name name' : String) (o : Object) :
    (x.edit name o).getLocal? name' =
      if name' = name then x.apply (o.getLocal? name) else o.getLocal? name' := by
  cases x with
  | set v => exact SortedMap.get?_insert ..
  | delete t =>
    have hgone : (o.deleteLocal name).getLocal? name' =
        if name' = name then none else o.getLocal? name' := SortedMap.get?_erase ..
    have hleft : o.getLocal? name' =
        if name' = name then o.getLocal? name else o.getLocal? name' := by
      split
      · subst name'
        rfl
      · rfl
    cases hold : o.getLocal? name with
    | none => simpa [edit, apply, hold] using hleft
    | some v =>
      by_cases htype : v.type = t.valueType
      · simp [edit, apply, Option.filter_some, hold, htype, hgone]
      · simpa [edit, apply, Option.filter_some, hold, htype] using hleft

end LocalWrite

/-- A request that is a call, and that does something to a local of a live object. -/
inductive Request.Writes (id : ObjectId) (name : String) : Request → LocalWrite → Prop where
  | set {w : World} {function : FunctionName} {target : ObjectId} {site : CallSite} {v : Value}
      {t : LocalType} (called : w.Calls function t.setter) (typed : v.type = t.valueType)
      (meant : w.objects.resolveId target site.caller = id)
      (live : w.objects.contains id = true) :
      Writes id name ⟨.call function [.object target, .string name, v] site, w⟩ (.set v)
  | delete {w : World} {function : FunctionName} {target : ObjectId} {site : CallSite}
      {t : LocalType} (called : w.Calls function t.deleter)
      (meant : w.objects.resolveId target site.caller = id)
      (live : w.objects.contains id = true) :
      Writes id name ⟨.call function [.object target, .string name] site, w⟩ (.delete t)

section Writes

variable {r : Request} {id id' : ObjectId} {name name' : String} {x x' : LocalWrite}

/-- A request does one thing to one local. -/
theorem Request.Writes.unique (h : r.Writes id name x) (h' : r.Writes id' name' x') :
    id' = id ∧ name' = name ∧ x' = x := by
  cases h with
  | set _ _ meant _ =>
    cases h' with
    | set _ _ meant' _ => exact ⟨meant'.symm.trans meant, rfl, rfl⟩
  | delete called meant _ =>
    cases h' with
    | delete called' meant' _ =>
      obtain ⟨f, hf, hname⟩ := called
      obtain ⟨f', hf', hname'⟩ := called'
      cases hf.symm.trans hf'
      cases LocalType.deleter_injective (hname.symm.trans hname')
      exact ⟨meant'.symm.trans meant, rfl, rfl⟩

theorem Request.Writes.live (h : r.Writes id name x) : r.world.objects.contains id = true := by
  cases h with
  | set _ _ _ live => exact live
  | delete _ _ live => exact live

end Writes

/-! ## What one request leaves of the locals -/

/-- Objects keep their locals, and new ones have none. -/
def Container.KeepsLocals (c d : Container) : Prop :=
  ∀ id o', d.get? id = some o' →
    (∃ o, c.get? id = some o ∧ o'.locals = o.locals) ∨ ¬id < c.nextId ∧ o'.locals = ∅

namespace Container.KeepsLocals

variable {c d : Container} {id : ObjectId}

theorem refl (c : Container) : c.KeepsLocals c :=
  fun _ o' ho' ↦ .inl ⟨o', ho', rfl⟩

theorem of_update {new : Option Object} (hview : d.get? = Function.update c.get? id new)
    (hnew : ∀ o', new = some o' →
      (∃ o, c.get? id = some o ∧ o'.locals = o.locals) ∨ ¬id < c.nextId ∧ o'.locals = ∅) :
    c.KeepsLocals d := by
  intro id' o' ho'
  rw [hview, Function.update_apply] at ho'
  split at ho'
  · subst id'
    exact hnew o' ho'
  · exact .inl ⟨o', ho', rfl⟩

theorem of_map {f : Object → Object}
    (hview : d.get? = Function.update c.get? id ((c.get? id).map f))
    (hf : ∀ o, (f o).locals = o.locals) : c.KeepsLocals d := by
  refine of_update hview fun o' ho' ↦ ?_
  obtain ⟨o, ho, rfl⟩ := Option.map_eq_some_iff.1 ho'
  exact .inl ⟨o, ho, hf o⟩

theorem edit (id : ObjectId) {f : Object → Object} (hf : ∀ o, (f o).locals = o.locals) :
    c.KeepsLocals (c.edit id f) :=
  of_map (c.get?_edit id f) hf

theorem remove {ν : Type} (id : ObjectId) :
    c.KeepsLocals ((Container.remove id : Step ν Container (Option Object)) c).state :=
  of_update (c.get?_remove id) fun _ h ↦ nomatch h

theorem clear (c : Container) : c.KeepsLocals c.clear :=
  fun _ _ h ↦ nomatch h

theorem add {ν : Type} (hc : c.WellFormed) {o : Object} (ho : o.locals = ∅) :
    c.KeepsLocals ((Container.add o : Step ν Container ObjectId) c).state := by
  rcases hc.add_cases (ν := ν) o with ⟨-, -, hstate⟩ | ⟨-, -, hstate⟩
  · rw [hstate]
    refine of_update (c.get?_place o c.nextId) ?_
    rintro _ ⟨⟩
    exact .inr ⟨ObjectId.lt_irrefl _, ho⟩
  · rw [hstate]
    exact refl c

end Container.KeepsLocals

/-- What a request leaves of the locals: an object that is there afterwards was there before and has
its locals, but for what the request writes, or it is new and has none. -/
def Request.AccountsFor (r : Request) (after : Container) : Prop :=
  ∀ id o', after.get? id = some o' →
    (∃ o, r.world.objects.get? id = some o ∧ ∀ name,
      (∀ x, r.Writes id name x → o'.getLocal? name = x.apply (o.getLocal? name)) ∧
        ((∀ x, ¬r.Writes id name x) → o'.getLocal? name = o.getLocal? name)) ∨
      ¬id < r.world.objects.nextId ∧ o'.locals = ∅

namespace Request.AccountsFor

variable {r : Request} {after : Container} {id : ObjectId} {name : String} {x : LocalWrite}

theorem of_keepsLocals (hnone : ∀ id name x, ¬r.Writes id name x)
    (h : r.world.objects.KeepsLocals after) : r.AccountsFor after := by
  intro id o' ho'
  refine (h id o' ho').imp_left ?_
  rintro ⟨o, ho, hsame⟩
  exact ⟨o, ho, fun name ↦ ⟨fun x hx ↦ absurd hx (hnone id name x),
    fun _ ↦ congrArg (·.get? name) hsame⟩⟩

theorem edit (h : r.Writes id name x) : r.AccountsFor (r.world.objects.edit id (x.edit name)) := by
  intro id' o' ho'
  left
  rw [Container.get?_edit, Function.update_apply] at ho'
  split at ho'
  · subst id'
    obtain ⟨o, ho, rfl⟩ := Option.map_eq_some_iff.1 ho'
    refine ⟨o, ho, fun name' ↦ ?_⟩
    rw [LocalWrite.getLocal?_edit]
    split
    · subst name'
      refine ⟨fun x' hx' ↦ ?_, fun hnone ↦ absurd h (hnone x)⟩
      rw [(h.unique hx').2.2]
    · rename_i hname
      exact ⟨fun x' hx' ↦ absurd (h.unique hx').2.1 hname, fun _ ↦ rfl⟩
  · rename_i hid
    exact ⟨o', ho', fun name' ↦ ⟨fun x' hx' ↦ absurd (h.unique hx').1 hid, fun _ ↦ rfl⟩⟩

end Request.AccountsFor

/-- Whether a request leaves it to calls to write locals, and adds no object that has some. -/
def Command.SparesLocals : Command → Prop
  | objects (.add o) => o.locals = ∅
  | objects (.setLocal ..) => False
  | objects (.deleteLocal ..) => False
  | _ => True

/-- Of the requests about objects, only two are made to write locals. -/
theorem World.keepsLocals_browse {w : World} (hw : w.objects.WellFormed) {c : ObjectCommand}
    (hc : (Command.objects c).SparesLocals) :
    w.objects.KeepsLocals ((browse c.perform : Step Note World c.Reply) w).state.objects := by
  have hsearch : ∀ {α : Type} {x : Step Note Browsing α},
      (x ⟨w.objects, w.searches⟩).state.objects = w.objects →
      w.objects.KeepsLocals (browse x w).state.objects := by
    intro α x h
    rw [state_browse_of_objects h]
    exact .refl _
  cases c with
  | add o => exact .add hw hc
  | remove id => exact .remove id
  | setTag id tag => exact .of_map (w.objects.get?_setTag id tag) fun _ ↦ rfl
  | clear => exact .clear _
  | setLocal | deleteLocal => exact hc.elim
  | get | contains | all | findByTag | resolve | sort | nearest | readLocal | searchStart =>
    exact .refl _
  | rename | setName | setPosition | setOrientation | setRelation | clearRelation | addItem
  | removeItem | hasItem | disarmTrap | setTrap => exact .edit _ fun _ ↦ rfl
  | searchCopy slot target => exact hsearch (objects_searchCopy ..)
  | searchNext slot | searchGet slot | searchStep slot | searchDrain slot =>
    exact hsearch (objects_useSearch ..)

/-! ## Calls -/

namespace Builtin

variable {f : FunctionDef Builtin} {t : LocalType}

theorem native_of_getter (hf : f ∈ table) (h : f.name = t.getter) :
    f.native = some (getLocal t) := by
  cases t <;> exact native_of_name hf h

theorem native_of_setter (hf : f ∈ table) (h : f.name = t.setter) :
    f.native = some (setLocal t) := by
  cases t <;> exact native_of_name hf h

theorem native_of_deleter (hf : f ∈ table) (h : f.name = t.deleter) :
    f.native = some (deleteLocal t) := by
  cases t <;> exact native_of_name hf h

/-- The functions that set locals have no other names. -/
theorem name_of_setLocal (hf : f ∈ table) (h : f.native = some (setLocal t)) :
    f.name = t.setter := by
  rw [eq_row hf h]
  cases t <;> rfl

theorem name_of_deleteLocal (hf : f ∈ table) (h : f.native = some (deleteLocal t)) :
    f.name = t.deleter := by
  rw [eq_row hf h]
  cases t <;> rfl

/-- Functions that write locals leave no argument to a default; the first two are an object and a
name. -/
theorem args_of_locals (hf : f ∈ table) (hscope : f.scope = .locals) {args : List Value}
    (h : f.Accepts args) {types : List ValueType}
    (hparams : f.signature.params = .object :: .string :: types) :
    ∃ target name rest, args = .object target :: .string name :: rest ∧
      rest.map Value.type = types := by
  have hall : ∀ f ∈ table, f.scope = .locals → f.defaults = [] := by decide
  have hwf := wellFormed_table f hf
  have hfill := FunctionDef.types_fill hwf h
  rw [FunctionDef.fill_eq hwf.defaults_le, hall f hf hscope, List.drop_nil, List.append_nil,
    hparams] at hfill
  obtain ⟨first, others, rfl, hfirst, hothers⟩ := List.map_eq_cons_iff.1 hfill
  obtain ⟨second, rest, rfl, hsecond, hrest⟩ := List.map_eq_cons_iff.1 hothers
  obtain ⟨target, rfl⟩ := Value.exists_object hfirst
  obtain ⟨name, rfl⟩ := Value.exists_string hsecond
  exact ⟨target, name, rest, rfl, hrest⟩

end Builtin

namespace World

section Calls

variable {w v : World} {f : FunctionDef Builtin} {b : Builtin} {function : FunctionName}
variable {args : List Value} {site : CallSite} {id : ObjectId} {name : String} {x : LocalWrite}

/-- What a call that writes a local does to the world; it starts no script. -/
theorem Reachable.call_of_writes (hw : w.Reachable)
    (h : Request.Writes id name ⟨.call function args site, w⟩ x) (it : Interpreter) :
    w.callStart? it function args site = none ∧ ∀ launch,
      (call it launch function args site w).state =
        { w with objects := w.objects.edit id (x.edit name) } := by
  cases h with
  | set called typed meant live =>
    obtain ⟨f, hnamed, hname⟩ := called
    obtain ⟨hopen, hf, hfunction⟩ := hw.of_named? hnamed
    have hnative := Builtin.native_of_setter hf hname
    subst meant
    refine ⟨callStart?_eq_none hnamed (by rw [hnative]; exact nofun), fun launch ↦ ?_⟩
    exact (hw.call_setLocal hopen hf hnative hfunction it launch site _ name typed).2
  | delete called meant live =>
    obtain ⟨f, hnamed, hname⟩ := called
    obtain ⟨hopen, hf, hfunction⟩ := hw.of_named? hnamed
    have hnative := Builtin.native_of_deleter hf hname
    subst meant
    refine ⟨callStart?_eq_none hnamed (by rw [hnative]; exact nofun), fun launch ↦ ?_⟩
    exact (hw.call_deleteLocal hopen hf hnative hfunction it launch site _ name).2

/-- A call that is made to write a local, and does not, is about an object that is gone. -/
theorem Reachable.eq_of_not_writes (hw : w.Reachable)
    (hnamed : w.functions.named? function = some f) (hnative : f.native = some b)
    (haccepts : f.Accepts args) (hscope : b.scope = .locals)
    (hleaves : Builtin.Leaves w (f.context args site) .locals v)
    (hnone : ∀ id name x, ¬Request.Writes id name ⟨.call function args site, w⟩ x) : v = w := by
  obtain ⟨-, hf, -⟩ := hw.of_named? hnamed
  have hlocals : f.scope = .locals := by
    rw [FunctionDef.scope, hnative]
    exact hscope
  have hsig := Builtin.signature_eq hf hnative
  have hgone : ∀ {target name rest}, args = .object target :: .string name :: rest →
      (w.objects.contains (w.objects.resolveId target site.caller) = true →
        ∃ x, Request.Writes (w.objects.resolveId target site.caller) name
          ⟨.call function args site, w⟩ x) → v = w := by
    rintro target name rest rfl hwrites
    have hchange := hleaves.localChange (FunctionDef.objectArg_context rfl)
      (FunctionDef.stringArg_context rfl)
    refine hchange.gone (Option.not_isSome_iff_eq_none.1 fun hlive ↦ ?_)
    obtain ⟨x, hx⟩ := hwrites hlive
    exact hnone _ _ x hx
  cases b with
  | setLocal t =>
    obtain ⟨target, name, rest, rfl, hrest⟩ :=
      Builtin.args_of_locals hf hlocals haccepts (congrArg Signature.params hsig)
    obtain ⟨u, rest, rfl, hu, hnil⟩ := List.map_eq_cons_iff.1 hrest
    obtain rfl := List.map_eq_nil_iff.1 hnil
    exact hgone rfl fun hlive ↦
      ⟨_, .set ⟨f, hnamed, Builtin.name_of_setLocal hf hnative⟩ hu rfl hlive⟩
  | deleteLocal t =>
    obtain ⟨target, name, rest, rfl, hrest⟩ :=
      Builtin.args_of_locals hf hlocals haccepts (congrArg Signature.params hsig)
    obtain rfl := List.map_eq_nil_iff.1 hrest
    exact hgone rfl fun hlive ↦
      ⟨_, .delete ⟨f, hnamed, Builtin.name_of_deleteLocal hf hnative⟩ rfl hlive⟩
  | _ => cases hscope

theorem Reachable.accountsFor_call (hw : w.Reachable) {it : Interpreter} {launch : Launcher}
    (hidle : w.callStart? it function args site = none) :
    Request.AccountsFor ⟨.call function args site, w⟩
      (call it launch function args site w).state.objects := by
  by_cases hwrites : ∃ id name x, Request.Writes id name ⟨.call function args site, w⟩ x
  · obtain ⟨id, name, x, hx⟩ := hwrites
    rw [(hw.call_of_writes hx it).2]
    exact .edit hx
  · have hnone : ∀ id name x, ¬Request.Writes id name ⟨.call function args site, w⟩ x :=
      fun id name x hx ↦ hwrites ⟨id, name, x, hx⟩
    refine .of_keepsLocals hnone ?_
    obtain ⟨-, hsame | ⟨f, b, hnamed, hnative, haccepts, hleaves⟩⟩ := leaves_call launch hidle
    · rw [hsame]
      exact .refl _
    · generalize (call it launch function args site w).state = v at hleaves
      generalize hscope : b.scope = scope at hleaves
      cases hleaves with
      | setLocal u read named =>
        rw [hw.eq_of_not_writes hnamed hnative haccepts hscope (.setLocal u read named) hnone]
        exact .refl _
      | deleteLocal t read named =>
        rw [hw.eq_of_not_writes hnamed hnative haccepts hscope (.deleteLocal t read named) hnone]
        exact .refl _
      | remove => exact .remove _
      | same | draw | defer | cancel | doom => exact .refl _

end Calls

end World

/-- A request that starts no script accounts for what it leaves of the locals. -/
theorem Command.accountsFor_perform {w : World} (hw : w.Reachable) {c : Command} (hc : c ≠ .pump)
    {it : Interpreter} {launch : Launcher} (hidle : c.start? it w = none)
    (hspares : c.SparesLocals) :
    Request.AccountsFor ⟨c, w⟩ (c.perform it launch w).state.objects := by
  cases c with
  | pump => exact absurd rfl hc
  | call function args site => exact hw.accountsFor_call hidle
  | objects c =>
    exact .of_keepsLocals nofun (World.keepsLocals_browse hw.wellFormed_objects hspares)
  | moveObject id area position => exact .of_keepsLocals nofun (.edit id fun _ ↦ rfl)
  | runScript | executeScript =>
    have hstate := congrArg Outcome.state (it.runScript_of_none (w := w) launch hidle)
    refine .of_keepsLocals nofun ?_
    change w.objects.KeepsLocals (it.runScript launch _ _ _ _ none w).state.objects
    rw [hstate]
    exact .refl _
  | shutdown => exact .of_keepsLocals nofun (.clear _)
  | schedule | random | loadScript | delayScript | destroyDelayed | pushEvent | setClock
  | advanceClock | functions | config | diagnostic | frameFree =>
    exact .of_keepsLocals nofun (.refl _)

end ScriptHost
