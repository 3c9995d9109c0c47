import ScriptHost.Proofs.Engine.Deferred
import ScriptHost.Proofs.Engine.Events
import ScriptHost.Proofs.Engine.LocalWrites

/-!
# Locals as they were last written

All types of locals share one place under a name, so what is there is what was set last, whatever
its type, unless a value of that type was deleted since.  This is said of the requests that were
made so far: `LastSet` reads it off what they write, whatever the objects hold.

`World.Recalls` says that the objects of a world hold just that.  One request keeps it up
(`World.Recalls.step`), if it accounts for what it leaves of the locals, and so does a run, by
induction on its course (`Interpreter.Traces.recalls`).  What the functions on locals give and do is
then said in terms of what was set last; `World.locals_as_last_set` puts it together.
-/

namespace ScriptHost

/-! ## What was set last -/

/-- The value that was set last, of whatever type, if it was not deleted since. -/
def LastSet (trail : List Request) (id : ObjectId) (name : String) (v : Value) : Prop :=
  ∃ before r after, trail = before ++ r :: after ∧ r.Writes id name (.set v) ∧
    ∀ r' ∈ after, ∀ x, r'.Writes id name x → ¬x.Undoes v

section LastSet

variable {r : Request} {id : ObjectId} {name : String} {v : Value} {trail : List Request}

theorem not_lastSet_nil : ¬LastSet [] id name v := by
  rintro ⟨before, r, after, hsplit, -⟩
  simp at hsplit

theorem LastSet.exists_writes (h : LastSet trail id name v) :
    ∃ r ∈ trail, r.Writes id name (.set v) := by
  obtain ⟨before, r, after, rfl, hset, -⟩ := h
  exact ⟨r, List.mem_append_right _ List.mem_cons_self, hset⟩

/-- The last request comes first. -/
theorem lastSet_concat :
    LastSet (trail ++ [r]) id name v ↔
      r.Writes id name (.set v) ∨
        LastSet trail id name v ∧ ∀ x, r.Writes id name x → ¬x.Undoes v := by
  constructor
  · rintro ⟨before, r', after, hsplit, hset, hafter⟩
    rcases List.eq_nil_or_concat after with rfl | ⟨rest, last, rfl⟩
    · obtain ⟨-, hlast⟩ := List.append_inj' hsplit rfl
      cases hlast
      exact .inl hset
    · rw [List.concat_eq_append, ← List.cons_append, ← List.append_assoc] at hsplit
      obtain ⟨rfl, hlast⟩ := List.append_inj' hsplit rfl
      cases hlast
      rw [List.concat_eq_append, List.forall_mem_append, List.forall_mem_singleton] at hafter
      exact .inr ⟨⟨before, r', rest, rfl, hset, hafter.1⟩, hafter.2⟩
  · rintro (hset | ⟨⟨before, r', after, rfl, hset, hafter⟩, hkept⟩)
    · exact ⟨trail, r, [], rfl, hset, List.forall_mem_nil _⟩
    · refine ⟨before, r', after ++ [r], ?_, hset, ?_⟩
      · rw [List.append_assoc, List.cons_append]
      · exact List.forall_mem_append.2 ⟨hafter, List.forall_mem_singleton.2 hkept⟩

end LastSet

/-! ## What objects hold -/

/-- Live objects hold what was set last in the requests so far, and nothing else. -/
structure World.Recalls (trail : List Request) (w : World) : Prop where
  last : ∀ id o, w.objects.get? id = some o → ∀ name v,
    o.getLocal? name = some v ↔ LastSet trail id name v
  /-- No local was written of an object that is yet to come. -/
  given : ∀ r ∈ trail, ∀ id name x, r.Writes id name x → id < w.objects.nextId

namespace World.Recalls

variable {trail : List Request} {w v : World}

/-- Objects may go, or be left as they are. -/
theorem of_subset (h : w.Recalls trail)
    (hsubset : ∀ id o, v.objects.get? id = some o → w.objects.get? id = some o)
    (hnext : v.objects.nextId = w.objects.nextId) : v.Recalls trail where
  last id o ho := h.last id o (hsubset id o ho)
  given r hr id name x hx := hnext ▸ h.given r hr id name x hx

theorem of_objects_eq (h : w.Recalls trail) (hobjects : v.objects = w.objects) : v.Recalls trail :=
  h.of_subset (fun _ _ ho ↦ hobjects ▸ ho) (congrArg Container.nextId hobjects)

theorem start (config : Config) (clock : Clock) (listening : Bool) (entropy : UInt64) :
    (World.start config clock listening entropy : Outcome Note World Unit).state.Recalls [] where
  last id o ho name v := by
    have hadded : Container.empty.KeepsLocals _ :=
      .add (ν := Note) .empty (o := Object.fresh .module_ moduleTag) rfl
    rcases hadded id o ho with ⟨_, hold, -⟩ | ⟨-, hempty⟩
    · cases hold
    · have hnone : o.getLocal? name = none := congrArg (·.get? name) hempty
      rw [hnone]
      exact ⟨nofun, fun hlast ↦ absurd hlast not_lastSet_nil⟩
  given r hr := (List.not_mem_nil hr).elim

/-- One request more is recalled, if it accounts for what it leaves of the locals. -/
theorem step {r : Request} (h : r.world.Recalls trail) (hwf : r.world.objects.WellFormed)
    (haccounts : r.AccountsFor v.objects) (hle : r.world.objects.nextId ≤ v.objects.nextId) :
    v.Recalls (trail ++ [r]) := by
  have hlive : ∀ {id name x}, r.Writes id name x → id < r.world.objects.nextId := by
    intro id name x hx
    obtain ⟨o, ho⟩ := Option.isSome_iff_exists.1 hx.live
    exact (hwf.filed id o ho).2.2
  constructor
  · intro id o' ho' name u
    rw [lastSet_concat]
    rcases haccounts id o' ho' with ⟨o, ho, hlocals⟩ | ⟨hnew, hempty⟩
    · obtain ⟨hwritten, hkept⟩ := hlocals name
      by_cases hwrites : ∃ x, r.Writes id name x
      · obtain ⟨x, hx⟩ := hwrites
        have hset : r.Writes id name (.set u) ↔ x = .set u :=
          ⟨fun h' ↦ (hx.unique h').2.2.symm, fun h' ↦ h' ▸ hx⟩
        have hundone : (∀ x', r.Writes id name x' → ¬x'.Undoes u) ↔ ¬x.Undoes u :=
          ⟨fun h' ↦ h' x hx, fun h' x' hx' ↦ (hx.unique hx').2.2 ▸ h'⟩
        rw [hwritten x hx, LocalWrite.apply_eq_some_iff, h.last id o ho, hset, hundone]
      · rw [hkept (not_exists.1 hwrites), h.last id o ho]
        refine ⟨fun h' ↦ .inr ⟨h', fun x hx ↦ absurd ⟨x, hx⟩ hwrites⟩, ?_⟩
        rintro (hset | ⟨h', -⟩)
        · exact absurd ⟨_, hset⟩ hwrites
        · exact h'
    · -- Nobody can have written a local of an object that was only now given its number.
      have hnone : o'.getLocal? name = none := congrArg (·.get? name) hempty
      rw [hnone]
      refine ⟨nofun, ?_⟩
      rintro (hset | ⟨hlast, -⟩)
      · exact absurd (hlive hset) hnew
      · obtain ⟨r', hr', hset⟩ := hlast.exists_writes
        exact absurd (h.given r' hr' id name _ hset) hnew
  · intro r' hr' id name x hx
    refine ObjectId.lt_of_lt_of_le ?_ hle
    rcases List.mem_append.1 hr' with hold | hlast
    · exact h.given r' hold id name x hx
    · cases List.mem_singleton.1 hlast
      exact hlive hx

/-- One request more is recalled, if it writes no local and nothing is done to the objects. -/
theorem silent {r : Request} (h : r.world.Recalls trail) (hwf : r.world.objects.WellFormed)
    (hnone : ∀ id name x, ¬r.Writes id name x) : r.world.Recalls (trail ++ [r]) :=
  h.step hwf (.of_keepsLocals hnone (.refl _)) (UInt32.le_refl _)

end World.Recalls

/-! ## Runs -/

/-- Whenever a request is made, the requests before it are recalled. -/
def RecalledAlong : List Request → List Request → Prop
  | _, [] => True
  | trail, r :: rest =>
    (r.world.Reachable ∧ r.world.Recalls trail) ∧ RecalledAlong (trail ++ [r]) rest

theorem recalledAlong_append {trail first second : List Request} :
    RecalledAlong trail (first ++ second) ↔
      RecalledAlong trail first ∧ RecalledAlong (trail ++ first) second := by
  induction first generalizing trail with
  | nil => simp [RecalledAlong]
  | cons r rest ih => simp [RecalledAlong, ih, and_assoc]

section Runs

variable {it : Interpreter} {w v : World} {c : Command} {trail : List Request}

/-- A request that starts no script leads from one world to another, however scripts are started. -/
theorem Command.leads_of_idle (launch : Launcher) (hc : c ≠ .pump) (hidle : c.start? it w = none) :
    w.Leads (c.perform it launch w).state := by
  have hidles : ∀ inv v, ¬c.Launches it launch w inv v := by
    intro inv v hlaunches
    cases hlaunches with
    | run loaded | execute loaded =>
      cases hidle.symm.trans loaded
    | call starts => cases hidle.symm.trans starts
    | fire => exact hc rfl
  have hsame : c.perform it launch w = c.perform it (launchAt it 0) w :=
    Command.perform_congr fun inv v hlaunches ↦ absurd hlaunches (hidles inv v)
  rw [hsame]
  exact World.leads_perform (World.leads_launchAt it 0) c w

/-- A request that starts a script writes no local itself. -/
theorem Request.not_writes_of_start (hw : w.Reachable) (h : c.start? it w ≠ none) (id : ObjectId)
    (name : String) (x : LocalWrite) : ¬Request.Writes id name ⟨c, w⟩ x := by
  intro hx
  cases c with
  | call function args site => exact h (hw.call_of_writes hx it).1
  | _ => cases hx

namespace Interpreter.Traces

variable {noted : Note → Prop} {requests : List Request} {ns : List Note}

theorem leads (h : it.Traces noted w requests v ns) : w.Leads v := by
  induction h with
  | refl | note => exact .refl _
  | trans _ _ ihead itail => exact ihead.trans itail
  | nest w depth => exact (World.Alters.nest depth).leads
  | remove w target => exact World.leads_remove target
  | request launch w other idle => exact Command.leads_of_idle launch other idle
  | start _ _ _ ih => exact ih
  | pump _ ih => exact (World.leads_taken _).trans ih

/-- What scripts ask for is recalled, by the end and all along. -/
theorem recalls (h : it.Traces noted w requests v ns) (hw : w.Reachable)
    (hrecalls : w.Recalls trail) (hspares : ∀ r ∈ requests, r.command.SparesLocals) :
    v.Recalls (trail ++ requests) ∧ RecalledAlong trail requests := by
  induction h generalizing trail with
  | refl | note =>
    rw [List.append_nil]
    exact ⟨hrecalls, trivial⟩
  | nest w depth =>
    rw [List.append_nil]
    exact ⟨hrecalls.of_objects_eq rfl, trivial⟩
  | remove w target =>
    rw [List.append_nil]
    refine ⟨hrecalls.of_subset (fun id o ho ↦ ?_) (w.objects.nextId_remove target), trivial⟩
    change (Container.remove target w.objects).state.get? id = some o at ho
    rw [Container.get?_remove, Function.update_apply] at ho
    split at ho
    · cases ho
    · exact ho
  | trans head _ ihead itail =>
    obtain ⟨hfirst, hsecond⟩ := List.forall_mem_append.1 hspares
    obtain ⟨hmiddle, halong⟩ := ihead hw hrecalls hfirst
    obtain ⟨hend, halong'⟩ := itail (hw.leads head.leads) hmiddle hsecond
    rw [← List.append_assoc]
    exact ⟨hend, recalledAlong_append.2 ⟨halong, halong'⟩⟩
  | request launch w other idle =>
    have hwf := hw.wellFormed_objects
    have hcommand := hspares _ (List.mem_singleton_self _)
    have hleads := Command.leads_of_idle launch other idle
    refine ⟨hrecalls.step hwf ?_ (hleads.nextId_le hwf), ⟨hw, hrecalls⟩, trivial⟩
    exact Command.accountsFor_perform hw other idle hcommand
  | @start w v c requests ns other starts _ ih =>
    have hnone := Request.not_writes_of_start hw starts
    have hasked : w.Recalls (trail ++ [⟨c, w⟩]) := hrecalls.silent hw.wellFormed_objects hnone
    obtain ⟨hend, halong⟩ := ih hw hasked (List.forall_mem_cons.1 hspares).2
    rw [List.append_assoc] at hend
    exact ⟨hend, ⟨hw, hrecalls⟩, halong⟩
  | @pump w v requests ns _ ih =>
    have hasked : w.Recalls (trail ++ [⟨.pump, w⟩]) := hrecalls.silent hw.wellFormed_objects nofun
    obtain ⟨hend, halong⟩ := ih (hw.leads (World.leads_taken w))
      (hasked.of_objects_eq w.objects_taken) (List.forall_mem_cons.1 hspares).2
    rw [List.append_assoc] at hend
    exact ⟨hend, ⟨hw, hrecalls⟩, halong⟩

end Interpreter.Traces

/-- The requests that are made in a run, by the host and by scripts, in the order in which they
are. -/
def requestsInRun (it : Interpreter) : List Command → World → List Request
  | [], _ => []
  | c :: rest, w => (⟨c, w⟩ :: c.course it w) ++ requestsInRun it rest (c.run it w).state

/-- All requests of a run are recalled. -/
theorem recalledAlong_run {cs : List Command} (hw : w.Reachable) (hrecalls : w.Recalls trail)
    (hspares : ∀ r ∈ requestsInRun it cs w, r.command.SparesLocals) :
    RecalledAlong trail (requestsInRun it cs w) := by
  induction cs generalizing w trail with
  | nil => exact trivial
  | cons c rest ih =>
    obtain ⟨hfirst, hrest⟩ := List.forall_mem_append.1 hspares
    have hnotes : it.Notes fun _ ↦ True := fun inv ↦ (it.run inv).notes_of_all fun _ ↦ trivial
    obtain ⟨hend, halong⟩ := (Interpreter.traces_run hnotes c w).recalls hw hrecalls hfirst
    exact recalledAlong_append.2 ⟨halong, ih (hw.leads (c.leads_run it w)) hend hrest⟩

/-- Nothing else writes locals in a run, if neither the host nor a script asks for it. -/
theorem sparesLocals_run (hit : it.Within fun c _ ↦ c.SparesLocals) {cs : List Command}
    (hcs : ∀ c ∈ cs, c.SparesLocals) :
    ∀ r ∈ requestsInRun it cs w, r.command.SparesLocals := by
  induction cs generalizing w with
  | nil => exact List.forall_mem_nil _
  | cons c rest ih =>
    obtain ⟨hc, hrest⟩ := List.forall_mem_cons.1 hcs
    refine List.forall_mem_append.2 ⟨List.forall_mem_cons.2 ⟨hc, hit.course c w⟩, ih hrest⟩

end Runs

/-! ## Calls -/

/-- A local that is asked for is what is stored if that is of the type, and else the zero value. -/
theorem Builtin.localOf_eq (t : LocalType) (o : Option Object) (name : String) :
    localOf t o name =
      ((o.bind (·.getLocal? name)).filter (·.type == t.valueType)).getD (.zero t.valueType) := by
  cases o with
  | none => cases t <;> rfl
  | some o =>
    simp only [localOf, Option.elim_some, Option.bind_some, Object.localInt, Object.localFloat,
      Object.localString, Object.localObject, Object.readLocal]
    cases o.getLocal? name with
    | none => cases t <;> rfl
    | some v => cases t <;> cases v <;> rfl

/-- To leave an object as it is changes nothing. -/
theorem Container.edit_eq_self {c : Container} {id : ObjectId} {f : Object → Object}
    (h : ∀ o, c.get? id = some o → f o = o) : c.edit id f = c := by
  have hsame : c.objects.modify id f = c.objects := by
    refine SortedMap.eq_of_get?_eq fun id' ↦ ?_
    rw [SortedMap.get?_modify]
    split
    · subst id'
      cases hid : c.objects.get? id with
      | none => rfl
      | some o => exact congrArg some (h o hid)
    · rfl
  rw [Container.edit, hsame]

namespace World

variable {w : World} {trail : List Request} {name : String} {v : Value}

/-- No local was ever set of the object that is none. -/
theorem Recalls.not_lastSet_invalid (h : w.Recalls trail) (hwf : w.objects.WellFormed) :
    ¬LastSet trail .invalid name v := by
  intro hlast
  obtain ⟨r, hr, hset⟩ := hlast.exists_writes
  have hlt : ObjectId.invalid < .self :=
    ObjectId.lt_of_lt_of_le (h.given r hr _ _ _ hset) hwf.le_self
  exact absurd hlt (by decide)

/-- What is stored where a reference leads. -/
theorem Recalls.stored (h : w.Recalls trail) (hwf : w.objects.WellFormed) (name : String)
    (v : Value) (reference caller : ObjectId) :
    let id := w.objects.resolveId reference caller
    (w.objects.get? id).bind (·.getLocal? name) = some v ↔ LastSet trail id name v := by
  intro id
  cases hid : w.objects.get? id with
  | some o => exact h.last id o hid name v
  | none =>
    have hinvalid : id = .invalid := by
      by_contra hvalid
      have hlive : w.objects.contains id = true := contains_resolveId (beq_false_of_ne hvalid)
      cases hlive.symm.trans (congrArg Option.isSome hid)
    rw [hinvalid]
    exact ⟨nofun, fun hlast ↦ absurd hlast (h.not_lastSet_invalid hwf)⟩

section Calls

variable {function : FunctionName} {t : LocalType}

/-- A function that gets a local gives what was set last, if that is of its type. -/
theorem Recalls.call_getter (h : w.Recalls trail) (hw : w.Reachable)
    (hcalls : w.Calls function t.getter) (it : Interpreter) (launch : Launcher) (site : CallSite)
    (target : ObjectId) (name : String) :
    let id := w.objects.resolveId target site.caller
    let out := call it launch function [.object target, .string name] site w
    out.state = w ∧
      (∀ v, LastSet trail id name v → v.type = t.valueType → out.value = .ok v) ∧
      ((∀ v, LastSet trail id name v → v.type ≠ t.valueType) →
        out.value = .ok (.zero t.valueType)) := by
  intro id out
  obtain ⟨f, hnamed, hname⟩ := hcalls
  obtain ⟨hopen, hf, hfunction⟩ := hw.of_named? hnamed
  have hnative := Builtin.native_of_getter hf hname
  obtain ⟨hvalue, hstate⟩ := hw.call_getLocal hopen hf hnative hfunction it launch site target name
  rw [Builtin.localOf_eq] at hvalue
  have hstored (v : Value) := h.stored hw.wellFormed_objects name v target site.caller
  refine ⟨hstate, fun v hlast htype ↦ ?_, fun hnone ↦ ?_⟩
  · rw [(hstored v).2 hlast, Option.filter_some, if_pos (beq_iff_eq.2 htype)] at hvalue
    exact hvalue
  · have hother : ((w.objects.get? id).bind (·.getLocal? name)).filter
        (·.type == t.valueType) = none := by
      refine Option.filter_eq_none_iff.2 fun v hv ↦ ?_
      rw [beq_iff_eq]
      exact hnone v ((hstored v).1 hv)
    rw [hother] at hvalue
    exact hvalue

/-- A function that sets a local changes nothing else. -/
theorem Reachable.call_setter (hw : w.Reachable) (hcalls : w.Calls function t.setter)
    (hv : v.type = t.valueType) (it : Interpreter) (launch : Launcher) (site : CallSite)
    (target : ObjectId) (name : String) :
    let out := call it launch function [.object target, .string name, v] site w
    out.value = .ok .void ∧
      LocalChange (w.objects.resolveId target site.caller) name w out.state := by
  intro out
  obtain ⟨f, hnamed, hname⟩ := hcalls
  obtain ⟨hopen, hf, hfunction⟩ := hw.of_named? hnamed
  have hnative := Builtin.native_of_setter hf hname
  obtain ⟨hvalue, hstate⟩ :=
    hw.call_setLocal hopen hf hnative hfunction it launch site target name hv
  exact ⟨hvalue, hstate ▸ localChange_edit (touchesLocal_setLocal name v)⟩

/-- Nor does a function that deletes a local, and it leaves a value of another type. -/
theorem Recalls.call_deleter (h : w.Recalls trail) (hw : w.Reachable)
    (hcalls : w.Calls function t.deleter) (it : Interpreter) (launch : Launcher) (site : CallSite)
    (target : ObjectId) (name : String) :
    let id := w.objects.resolveId target site.caller
    let out := call it launch function [.object target, .string name] site w
    out.value = .ok .void ∧ LocalChange id name w out.state ∧
      ((∀ v, LastSet trail id name v → v.type ≠ t.valueType) → out.state = w) := by
  intro id out
  obtain ⟨f, hnamed, hname⟩ := hcalls
  obtain ⟨hopen, hf, hfunction⟩ := hw.of_named? hnamed
  have hnative := Builtin.native_of_deleter hf hname
  obtain ⟨hvalue, hstate⟩ :=
    hw.call_deleteLocal hopen hf hnative hfunction it launch site target name
  refine ⟨hvalue, hstate ▸ localChange_edit (touchesLocal_deleteLocal name t), fun hnone ↦ ?_⟩
  have hleft : ∀ o, w.objects.get? id = some o →
      ¬(o.getLocal? name).any (·.type == t.valueType) = true := by
    intro o ho hany
    cases hlocal : o.getLocal? name with
    | none =>
      rw [hlocal] at hany
      cases hany
    | some v =>
      rw [hlocal] at hany
      exact hnone v ((h.last id o ho name v).1 hlocal) (beq_iff_eq.1 hany)
  rw [Container.edit_eq_self fun o ho ↦ if_neg (hleft o ho)] at hstate
  exact hstate

theorem Reachable.calls_id (hw : w.Reachable) (hopen : w.isShutDown = false)
    {f : FunctionDef Builtin} (hf : f ∈ Builtin.table) : w.Calls (.id f.id) f.name :=
  ⟨f, hw.named?_eq hopen hf (.inl rfl), rfl⟩

/-- A call that writes a local does not shut the world down. -/
theorem Reachable.isShutDown_of_writes (hw : w.Reachable) {function : FunctionName}
    {args : List Value} {site : CallSite} {id : ObjectId} {x : LocalWrite}
    (h : Request.Writes id name ⟨.call function args site, w⟩ x) (it : Interpreter) :
    ((Command.call function args site).run it w).state.isShutDown = w.isShutDown := by
  have hstate : ((Command.call function args site).run it w).state = _ :=
    (hw.call_of_writes h it).2 (launch it)
  rw [hstate, isShutDown_objects]

end Calls

/-- What the twelve functions on locals do, wherever one of them is called in a run from the start:
by the host or by a script, by number or by name, for a caller of any kind and on live objects, dead
ones and none.  In between objects may come without locals, go, be moved and be given other tags,
and anything else may happen that does not write locals by other means.

- A function that gets a local gives the value that was set last on the object that is meant, if
  that is of its type, and else the zero value of its type.  It changes nothing.
- A function that sets a local changes that local of that object and nothing else.
- So does a function that deletes a local, and it changes nothing if the value that was set last is
  not of its type.

Where there is no such object, none of them changes anything, and there is nothing to get. -/
theorem locals_as_last_set (it : Interpreter) (config : Config) (clock : Clock) (listening : Bool)
    (entropy : UInt64) (cs : List Command) {before after : List Request} {w : World}
    {function : FunctionName} {args : List Value} {site : CallSite}
    (hspares : ∀ r ∈ requestsInRun it cs
      (start config clock listening entropy : Outcome Note World Unit).state,
        r.command.SparesLocals)
    (hsplit : requestsInRun it cs
      (start config clock listening entropy : Outcome Note World Unit).state =
        before ++ ⟨.call function args site, w⟩ :: after)
    (launch : Launcher) (t : LocalType) (target : ObjectId) (name : String) :
    let id := w.objects.resolveId target site.caller
    let out := call it launch function args site w
    (w.Calls function t.getter → args = [.object target, .string name] →
      out.state = w ∧
        (∀ v, LastSet before id name v → v.type = t.valueType → out.value = .ok v) ∧
        ((∀ v, LastSet before id name v → v.type ≠ t.valueType) →
          out.value = .ok (.zero t.valueType)) ∧
        (id = .invalid → out.value = .ok (.zero t.valueType))) ∧
      (∀ v, w.Calls function t.setter → args = [.object target, .string name, v] →
        v.type = t.valueType →
        out.value = .ok .void ∧ LocalChange id name w out.state ∧
          (id = .invalid → out.state = w)) ∧
      (w.Calls function t.deleter → args = [.object target, .string name] →
        out.value = .ok .void ∧ LocalChange id name w out.state ∧
          ((∀ v, LastSet before id name v → v.type ≠ t.valueType) → out.state = w) ∧
          (id = .invalid → out.state = w)) := by
  intro id out
  have halong : RecalledAlong [] (before ++ ⟨.call function args site, w⟩ :: after) := by
    rw [← hsplit]
    exact recalledAlong_run (.start ..) (.start ..) hspares
  obtain ⟨-, ⟨hw, hrecalls⟩, -⟩ := recalledAlong_append.1 halong
  rw [List.nil_append] at hrecalls
  have hwf := hw.wellFormed_objects
  have hgone : id = .invalid → w.objects.get? id = none := fun hid ↦ hid ▸ hwf.get?_invalid
  refine ⟨?_, ?_, ?_⟩
  · rintro hcalls rfl
    obtain ⟨hstate, hgiven, hzero⟩ := hrecalls.call_getter hw hcalls it launch site target name
    refine ⟨hstate, hgiven, hzero, fun hid ↦ hzero fun v hlast ↦ ?_⟩
    have hnone : ¬LastSet before id name v := by
      rw [hid]
      exact hrecalls.not_lastSet_invalid hwf
    exact absurd hlast hnone
  · rintro v hcalls rfl htype
    obtain ⟨hvalue, hchange⟩ := hw.call_setter hcalls htype it launch site target name
    exact ⟨hvalue, hchange, fun hid ↦ hchange.gone (hgone hid)⟩
  · rintro hcalls rfl
    obtain ⟨hvalue, hchange, hkept⟩ := hrecalls.call_deleter hw hcalls it launch site target name
    exact ⟨hvalue, hchange, hkept, fun hid ↦ hchange.gone (hgone hid)⟩

/-- A number is set, and an attempt to delete it as a number of another kind is in vain: it is given
back as it was set. -/
theorem locals_as_last_set_after_delete :
    let it := Interpreter.idle
    let site : CallSite := ⟨⟨1⟩, .invalid, none⟩
    let set := Command.call (.id ⟨56⟩) [.object .self, .string "n", .float (.ofInt 1)] site
    let delete := Command.call (.id ⟨265⟩) [.object ⟨1⟩, .string "n"] .none
    let get := Command.call (.id ⟨52⟩) [.object ⟨1⟩, .string "n"] .none
    let middle := (set.run it fresh).state
    let w := (delete.run it middle).state
    (∀ r ∈ requestsInRun it [set, delete, get] fresh, r.command.SparesLocals) ∧
      w.Calls (.id ⟨52⟩) LocalType.float.getter ∧
      (call it (launch it) (.id ⟨52⟩) [.object ⟨1⟩, .string "n"] .none w).value =
        .ok (.float (.ofInt 1)) := by
  intro it site set delete get middle w
  have hquiet : ∀ (c : Command) (w : World), c.course it w = [] := by
    have hit : it.Within fun _ _ ↦ False := fun _ _ _ ↦ trivial
    exact fun c w ↦ List.eq_nil_iff_forall_not_mem.2 (hit.course c w)
  have hspares : ∀ r ∈ requestsInRun it [set, delete, get] fresh, r.command.SparesLocals := by
    have hit : it.Within fun c _ ↦ c.SparesLocals := fun _ _ _ ↦ trivial
    exact sparesLocals_run hit (by simp [set, delete, get, Command.SparesLocals])
  have hsplit : requestsInRun it [set, delete, get] fresh =
      [⟨set, fresh⟩, ⟨delete, middle⟩] ++ ⟨get, w⟩ :: [] := by
    simp only [requestsInRun, hquiet]
    rfl
  have hfresh : fresh.Reachable := reachable_fresh
  have hopen : fresh.isShutDown = false := isShutDown_fresh
  have hset : Request.Writes ⟨1⟩ "n" ⟨set, fresh⟩ (.set (.float (.ofInt 1))) := by
    have hcall : fresh.Calls (.id ⟨56⟩) LocalType.float.setter :=
      hfresh.calls_id hopen (f := Builtin.row (.setLocal .float)) (Builtin.row_mem_table _)
    exact .set hcall rfl (by decide +kernel) (by decide +kernel)
  have hmiddle : middle = _ := (hfresh.call_of_writes hset it).2 (ScriptHost.launch it)
  have hreach : middle.Reachable := hfresh.leads (set.leads_run it fresh)
  have hstillOpen : middle.isShutDown = false := (hfresh.isShutDown_of_writes hset it).trans hopen
  have hdelete : Request.Writes ⟨1⟩ "n" ⟨delete, middle⟩ (.delete .int) := by
    have hcall : middle.Calls (.id ⟨265⟩) LocalType.int.deleter :=
      hreach.calls_id hstillOpen (f := Builtin.row (.deleteLocal .int)) (Builtin.row_mem_table _)
    refine .delete hcall ?_ ?_
    · rw [hmiddle]
      decide +kernel
    · rw [hmiddle]
      decide +kernel
  have hw : w = _ := (hreach.call_of_writes hdelete it).2 (ScriptHost.launch it)
  have hopenLast : w.isShutDown = false :=
    (hreach.isShutDown_of_writes hdelete it).trans hstillOpen
  have hcall : w.Calls (.id ⟨52⟩) LocalType.float.getter :=
    (hreach.leads (delete.leads_run it middle)).calls_id hopenLast
      (f := Builtin.row (.getLocal .float)) (Builtin.row_mem_table _)
  have hlast : LastSet [⟨set, fresh⟩, ⟨delete, middle⟩] ⟨1⟩ "n" (.float (.ofInt 1)) := by
    refine ⟨[], _, _, rfl, hset, List.forall_mem_singleton.2 fun x hx ↦ ?_⟩
    rw [(hdelete.unique hx).2.2]
    exact nofun
  have hmeant : w.objects.resolveId ⟨1⟩ CallSite.none.caller = ⟨1⟩ := by
    rw [hw, hmiddle]
    decide +kernel
  have hget := (locals_as_last_set it .default ⟨0⟩ false 0 [set, delete, get] hspares hsplit
    (ScriptHost.launch it) .float ⟨1⟩ "n").1 hcall rfl
  rw [hmeant] at hget
  exact ⟨hspares, hcall, hget.2.1 _ hlast rfl⟩

end World

end ScriptHost
