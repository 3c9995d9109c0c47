import ScriptHost.Proofs.Object.Index

/-!
# The container keeps its indices

Three maps and a counter say the same about the live objects: `objects` what they are, `byType` and
`byTag` which of them share a type or a tag, and `nextId` which numbers are still free.  Together
they are `WellFormed` if both indices are exact and all numbers in use lie below the counter.

What a change does to the view `get?` is said once (`get?_place` and the lemmas after it); that it
keeps the container well formed follows, and so does what it leaves alone in the indices, since an
exact index is determined by the view.  `run_invariant` collects what holds after every run of
changes from the empty container.
-/

namespace ScriptHost

/-! ## Runs of changes -/

/-- A change to an object through one of its setters; what it does not carry cannot be changed. -/
inductive Object.Edit where
  | setName (name : String)
  | setPosition (position : Vector3)
  | setOrientation (orientation : Single)
  | setRelation (relation : Relation) (target : ObjectId)
  | changeInventory (change : Inventory → Inventory)
  | changeTrap (change : Trap → Trap)
  | setLocal (name : String) (value : Value)
  | deleteLocal (name : String)

def Object.Edit.apply : Object.Edit → Object → Object
  | setName name => Object.setName name
  | setPosition position => Object.setPosition position
  | setOrientation orientation => Object.setOrientation orientation
  | setRelation relation target => Object.setRelation relation target
  | changeInventory change => fun o ↦ { o with inventory := o.inventory.map change }
  | changeTrap change => fun o ↦ { o with trap := o.trap.map change }
  | setLocal name value => Object.setLocal name value
  | deleteLocal name => Object.deleteLocal name

/-- A change to an object that leaves alone what a container files it under. -/
def Object.KeepsFile (f : Object → Object) : Prop :=
  ∀ o, (f o).id = o.id ∧ (f o).type = o.type ∧ (f o).tag = o.tag

/-- No setter touches what a container files an object under. -/
theorem Object.Edit.apply_keeps (e : Object.Edit) : Object.KeepsFile e.apply := by
  intro o
  cases e <;> exact ⟨rfl, rfl, rfl⟩

namespace Container

/-- A change to a container. -/
inductive Change where
  | add (o : Object)
  | remove (id : ObjectId)
  | setTag (id : ObjectId) (tag : String)
  | edit (id : ObjectId) (e : Object.Edit)
  | clear

/-- Makes a change. -/
def apply (c : Container) : Change → Container
  | .add o => ((Container.add o : Step Empty Container ObjectId) c).state
  | .remove id => ((Container.remove id : Step Empty Container (Option Object)) c).state
  | .setTag id tag => c.setTag id tag
  | .edit id e => c.edit id e.apply
  | .clear => c.clear

/-- Makes changes one after the other. -/
def run (c : Container) (changes : List Change) : Container :=
  changes.foldl apply c

/-- The number that a change gives out, if it gives out one. -/
def handsOut (c : Container) : Change → Option ObjectId
  | .add o =>
    let id := ((Container.add o : Step Empty Container ObjectId) c).value
    if id.isInvalid then none else some id
  | _ => none

/-- The numbers that a run of changes gives out, in the order in which it does. -/
def handedOut (c : Container) : List Change → List ObjectId
  | [] => []
  | change :: rest => (c.handsOut change).toList ++ (c.apply change).handedOut rest

/-! ## The view after a change -/

variable {c : Container} {id : ObjectId} {o : Object}

theorem get?_place (c : Container) (o : Object) (id : ObjectId) :
    (c.place o id).get? = Function.update c.get? id (some { o with id }) := by
  funext id'
  rw [Function.update_apply]
  exact SortedMap.get?_insert ..

theorem get?_dropObject (c : Container) (o : Object) (id : ObjectId) :
    (c.dropObject o id).get? = Function.update c.get? id none := by
  funext id'
  rw [Function.update_apply]
  exact SortedMap.get?_erase ..

theorem get?_setTag (c : Container) (id : ObjectId) (tag : String) :
    (c.setTag id tag).get? =
      Function.update c.get? id ((c.get? id).map fun o ↦ { o with tag }) := by
  unfold setTag
  cases hid : c.get? id with
  | none => exact (Function.update_eq_self_iff.2 hid.symm).symm
  | some o =>
    funext id'
    rw [Function.update_apply]
    exact SortedMap.get?_insert ..

theorem get?_edit (c : Container) (id : ObjectId) (f : Object → Object) :
    (c.edit id f).get? = Function.update c.get? id ((c.get? id).map f) := by
  funext id'
  rw [Function.update_apply]
  exact SortedMap.get?_modify ..

theorem value_remove {ν : Type} (c : Container) (id : ObjectId) :
    ((remove id : Step ν Container (Option Object)) c).value = c.get? id := by
  unfold remove
  cases c.get? id with
  | none => rfl
  | some o => rfl

theorem get?_remove {ν : Type} (c : Container) (id : ObjectId) :
    ((remove id : Step ν Container (Option Object)) c).state.get? =
      Function.update c.get? id none := by
  unfold remove
  cases hid : c.get? id with
  | none => exact (Function.update_eq_self_iff.2 hid.symm).symm
  | some o => exact c.get?_dropObject o id

/-- What is reported does not bear on what is done. -/
theorem state_add {ν : Type} (c : Container) (o : Object) :
    ((add o : Step ν Container ObjectId) c).state = c.apply (.add o) := by
  change _ = ((add o : Step Empty Container ObjectId) c).state
  unfold add
  dsimp only
  split <;> rfl

theorem state_remove {ν : Type} (c : Container) (id : ObjectId) :
    ((remove id : Step ν Container (Option Object)) c).state = c.apply (.remove id) := by
  change _ = ((remove id : Step Empty Container (Option Object)) c).state
  unfold remove
  cases c.get? id with
  | none => rfl
  | some o => rfl

theorem nextId_remove {ν : Type} (c : Container) (id : ObjectId) :
    ((remove id : Step ν Container (Option Object)) c).state.nextId = c.nextId := by
  unfold remove
  cases c.get? id with
  | none => rfl
  | some o => rfl

theorem nextId_setTag (c : Container) (id : ObjectId) (tag : String) :
    (c.setTag id tag).nextId = c.nextId := by
  unfold setTag
  cases c.get? id with
  | none => rfl
  | some o => rfl

/-! ## The invariant -/

/-- The objects of a view carry the numbers that they are filed under, all of them below a bound. -/
def Filed (view : ObjectId → Option Object) (bound : ObjectId) : Prop :=
  ∀ id o, view id = some o → o.id = id ∧ .first ≤ id ∧ id < bound

theorem Filed.update {view : ObjectId → Option Object} {bound bound' : ObjectId} {v : Option Object}
    (h : Filed view bound) (hle : bound ≤ bound')
    (hv : ∀ o, v = some o → o.id = id ∧ .first ≤ id ∧ id < bound') :
    Filed (Function.update view id v) bound' := by
  rw [Filed, Function.forall_update_iff view fun id' v' ↦
    ∀ o, v' = some o → o.id = id' ∧ .first ≤ id' ∧ id' < bound']
  refine ⟨hv, fun id' _ o ho ↦ ?_⟩
  obtain ⟨hid, hfirst, hlt⟩ := h id' o ho
  exact ⟨hid, hfirst, ObjectId.lt_of_lt_of_le hlt hle⟩

/-- The objects, the indices and the counter of a container agree. -/
structure WellFormed (c : Container) : Prop where
  filed : Filed c.get? c.nextId
  first_le : .first ≤ c.nextId
  le_self : c.nextId ≤ .self
  byType : c.byType.Exact (·.type) c.get?
  byTag : c.byTag.Exact (·.tag) c.get?

namespace WellFormed

theorem empty : Container.empty.WellFormed where
  filed := fun _ _ h ↦ nomatch h
  first_le := by decide
  le_self := by decide
  byType := .empty
  byTag := .empty

/-- No object has the next number yet. -/
theorem get?_nextId (h : c.WellFormed) : c.get? c.nextId = none := by
  cases hid : c.get? c.nextId with
  | none => rfl
  | some o => exact absurd (h.filed _ _ hid).2.2 (ObjectId.lt_irrefl _)

/-- Every number in use can name an object of its own. -/
theorem lt_self (h : c.WellFormed) (hid : c.get? id = some o) : id < .self :=
  ObjectId.lt_of_lt_of_le (h.filed id o hid).2.2 h.le_self

theorem get?_invalid (h : c.WellFormed) : c.get? .invalid = none := by
  cases hid : c.get? .invalid with
  | none => rfl
  | some o => exact absurd (h.lt_self hid) (by decide)

theorem get?_self (h : c.WellFormed) : c.get? .self = none := by
  cases hid : c.get? .self with
  | none => rfl
  | some o => exact absurd (h.lt_self hid) (ObjectId.lt_irrefl _)

theorem place (h : c.WellFormed) (hnext : c.nextId < .self) (o : Object) :
    (c.place o c.nextId).WellFormed := by
  have hcount : (c.place o c.nextId).nextId.val.toNat = c.nextId.val.toNat + 1 :=
    ObjectId.toNat_next hnext
  have hlt : c.nextId < (c.place o c.nextId).nextId := by
    rw [ObjectId.lt_iff]
    omega
  have hview := c.get?_place o c.nextId
  have hfresh := h.get?_nextId
  constructor
  · rw [hview]
    refine h.filed.update (UInt32.le_of_lt hlt) ?_
    intro o' ho'
    cases ho'
    exact ⟨rfl, h.first_le, hlt⟩
  · exact UInt32.le_trans h.first_le (UInt32.le_of_lt hlt)
  · rw [ObjectId.lt_iff] at hnext
    rw [ObjectId.le_iff]
    omega
  · rw [hview]
    exact h.byType.add hfresh { o with id := c.nextId }
  · rw [hview]
    exact h.byTag.add hfresh { o with id := c.nextId }

theorem dropObject (h : c.WellFormed) (hid : c.get? id = some o) :
    (c.dropObject o id).WellFormed := by
  have hview := c.get?_dropObject o id
  constructor
  · rw [hview]
    exact h.filed.update (UInt32.le_refl _) fun _ hnone ↦ nomatch hnone
  · exact h.first_le
  · exact h.le_self
  · rw [hview]
    exact h.byType.remove hid
  · rw [hview]
    exact h.byTag.remove hid

/-- Another object may take the place of one of the same number and type, if the index by tag
follows. -/
theorem replace {c' : Container} {o' : Object} (h : c.WellFormed) (hid : c.get? id = some o)
    (hview : c'.get? = Function.update c.get? id (some o')) (hnext : c'.nextId = c.nextId)
    (hindex : c'.byType = c.byType) (hkeep : o'.id = o.id ∧ o'.type = o.type)
    (htag : c'.byTag.Exact (·.tag) (Function.update c.get? id (some o'))) : c'.WellFormed := by
  obtain ⟨hown, hfirst, hlt⟩ := h.filed id o hid
  constructor
  · rw [hview, hnext]
    refine h.filed.update (UInt32.le_refl _) ?_
    intro o₁ ho₁
    cases ho₁
    exact ⟨hkeep.1.trans hown, hfirst, hlt⟩
  · rw [hnext]
    exact h.first_le
  · rw [hnext]
    exact h.le_self
  · rw [hview, hindex]
    exact h.byType.replace hid hkeep.2
  · rw [hview]
    exact htag

theorem setTag (h : c.WellFormed) (id : ObjectId) (tag : String) :
    (c.setTag id tag).WellFormed := by
  have hview := c.get?_setTag id tag
  cases hid : c.get? id with
  | none =>
    rw [Container.setTag, hid]
    exact h
  | some o =>
    rw [hid] at hview
    refine h.replace hid hview ?_ ?_ ⟨rfl, rfl⟩ ?_
    · rw [Container.setTag, hid]
    · rw [Container.setTag, hid]
    · rw [Container.setTag, hid]
      -- the number leaves the old tag's set before it enters the new one's, also if they are one
      have hout := h.byTag.remove hid
      have hin := hout.add (Function.update_self id none c.get?) { o with tag }
      rwa [Function.update_idem] at hin

theorem edit (h : c.WellFormed) (id : ObjectId) {f : Object → Object} (hf : Object.KeepsFile f) :
    (c.edit id f).WellFormed := by
  have hview := c.get?_edit id f
  cases hid : c.get? id with
  | none =>
    have hsame : c.objects.modify id f = c.objects := by
      unfold SortedMap.modify
      rw [show c.objects.get? id = none from hid]
    rw [Container.edit, hsame]
    exact h
  | some o =>
    obtain ⟨hown, htype, htag⟩ := hf o
    rw [hid] at hview
    exact h.replace hid hview rfl rfl ⟨hown, htype⟩ (h.byTag.replace hid htag)

theorem clear (h : c.WellFormed) : c.clear.WellFormed where
  filed := fun _ _ h ↦ nomatch h
  first_le := h.first_le
  le_self := h.le_self
  byType := .empty
  byTag := .empty

/-- An object is filed under the next number, unless the counter has come to its end. -/
theorem add_cases {ν : Type} (h : c.WellFormed) (o : Object) :
    let out := (Container.add o : Step ν Container ObjectId) c
    (c.nextId < .self ∧ out.value = c.nextId ∧ out.state = c.place o c.nextId) ∨
      (c.nextId = .self ∧ out.value = .invalid ∧ out.state = c) := by
  intro out
  by_cases hnext : c.nextId < .self
  · have hout : out = _ := if_pos (ObjectId.isConcrete_iff.2 hnext)
    rw [hout]
    exact .inl ⟨hnext, rfl, rfl⟩
  · have hout : out = _ := if_neg (mt ObjectId.isConcrete_iff.1 hnext)
    have hle := h.le_self
    rw [ObjectId.lt_iff] at hnext
    rw [ObjectId.le_iff] at hle
    rw [hout]
    exact .inr ⟨ObjectId.eq_iff.2 (by omega), rfl, rfl⟩

theorem remove {ν : Type} (h : c.WellFormed) (id : ObjectId) :
    ((Container.remove id : Step ν Container (Option Object)) c).state.WellFormed := by
  unfold Container.remove
  cases hid : c.get? id with
  | none => exact h
  | some o => exact h.dropObject hid

theorem apply (h : c.WellFormed) (change : Change) : (c.apply change).WellFormed := by
  cases change with
  | add o =>
    change ((Container.add o : Step Empty Container ObjectId) c).state.WellFormed
    rcases h.add_cases o with ⟨hnext, -, hstate⟩ | ⟨-, -, hstate⟩
    · rw [hstate]
      exact h.place hnext o
    · rw [hstate]
      exact h
  | remove id => exact h.remove id
  | setTag id tag => exact h.setTag id tag
  | edit id e => exact h.edit id e.apply_keeps
  | clear => exact h.clear

theorem run (h : c.WellFormed) (changes : List Change) : (c.run changes).WellFormed := by
  induction changes generalizing c with
  | nil => exact h
  | cons change rest ih => exact ih (h.apply change)

/-! ## Numbers are given out one by one -/

/-- A change gives out the next number and counts on, or it does neither. -/
theorem handsOut_cases (h : c.WellFormed) (change : Change) :
    (c.handsOut change = some c.nextId ∧
        (c.apply change).nextId.val.toNat = c.nextId.val.toNat + 1) ∨
      (c.handsOut change = none ∧ (c.apply change).nextId = c.nextId) := by
  cases change with
  | add o =>
    let out := (Container.add o : Step Empty Container ObjectId) c
    have hgiven : c.handsOut (.add o) = if out.value.isInvalid then none else some out.value := rfl
    have hstep : c.apply (.add o) = out.state := rfl
    rw [hgiven, hstep]
    rcases h.add_cases o with ⟨hnext, hvalue, hstate⟩ | ⟨-, hvalue, hstate⟩
    · rw [hstate, hvalue, ObjectId.isInvalid_of_lt_self hnext]
      exact .inl ⟨rfl, ObjectId.toNat_next hnext⟩
    · rw [hstate, hvalue]
      exact .inr ⟨rfl, rfl⟩
  | remove id => exact .inr ⟨rfl, c.nextId_remove id⟩
  | setTag id tag => exact .inr ⟨rfl, c.nextId_setTag id tag⟩
  | edit id e => exact .inr ⟨rfl, rfl⟩
  | clear => exact .inr ⟨rfl, rfl⟩

theorem nextId_le_run (h : c.WellFormed) (changes : List Change) :
    c.nextId ≤ (c.run changes).nextId := by
  induction changes generalizing c with
  | nil => exact UInt32.le_refl _
  | cons change rest ih =>
    have hrest : (c.apply change).nextId ≤ (c.run (change :: rest)).nextId := ih (h.apply change)
    rw [ObjectId.le_iff] at hrest ⊢
    rcases h.handsOut_cases change with ⟨-, hcount⟩ | ⟨-, hsame⟩
    · omega
    · rwa [hsame] at hrest

/-- A run gives out exactly the numbers that the counter goes over. -/
theorem mem_handedOut (h : c.WellFormed) {changes : List Change} :
    id ∈ c.handedOut changes ↔ c.nextId ≤ id ∧ id < (c.run changes).nextId := by
  induction changes generalizing c with
  | nil =>
    rw [ObjectId.le_iff, ObjectId.lt_iff]
    change id ∈ [] ↔ c.nextId.val.toNat ≤ _ ∧ _ < c.nextId.val.toNat
    simp
  | cons change rest ih =>
    have hrest := (h.apply change).nextId_le_run rest
    have hrun : c.run (change :: rest) = (c.apply change).run rest := rfl
    rw [ObjectId.le_iff] at hrest
    rw [handedOut, List.mem_append, ih (h.apply change), hrun, ObjectId.le_iff, ObjectId.le_iff,
      ObjectId.lt_iff]
    rcases h.handsOut_cases change with ⟨hgiven, hcount⟩ | ⟨hnone, hsame⟩
    · rw [hgiven, Option.toList_some, List.mem_singleton, ObjectId.eq_iff]
      omega
    · rw [hnone, hsame, Option.toList_none]
      simp

/-- A run gives out no number twice, and each is greater than those before it. -/
theorem pairwise_handedOut (h : c.WellFormed) (changes : List Change) :
    (c.handedOut changes).Pairwise (· < ·) := by
  induction changes generalizing c with
  | nil => exact .nil
  | cons change rest ih =>
    have htail := ih (h.apply change)
    rw [handedOut]
    rcases h.handsOut_cases change with ⟨hgiven, hcount⟩ | ⟨hnone, -⟩
    · rw [hgiven]
      refine List.pairwise_cons.2 ⟨fun id hid ↦ ?_, htail⟩
      obtain ⟨hle, -⟩ := (h.apply change).mem_handedOut.1 hid
      rw [ObjectId.le_iff] at hle
      rw [ObjectId.lt_iff]
      omega
    · rw [hnone]
      exact htail

end WellFormed

/-! ## What a change leaves alone -/

/-- Two containers agree on every object but one, and the indices do. -/
structure AgreeOff (id : ObjectId) (c c' : Container) : Prop where
  get?_eq : ∀ id' ≠ id, c'.get? id' = c.get? id'
  byType_iff : ∀ id' ≠ id, ∀ t, id' ∈ c'.byType.ids t ↔ id' ∈ c.byType.ids t
  byTag_iff : ∀ id' ≠ id, ∀ tag, id' ∈ c'.byTag.ids tag ↔ id' ∈ c.byTag.ids tag

/-- Containers with exact indices agree where their views do. -/
theorem WellFormed.agreeOff {c' : Container} {v : Option Object} (h : c.WellFormed)
    (h' : c'.WellFormed) (hview : c'.get? = Function.update c.get? id v) : AgreeOff id c c' := by
  have hsame : ∀ id' ≠ id, c'.get? id' = c.get? id' := by
    intro id' hne
    rw [hview, Function.update_of_ne hne]
  refine ⟨hsame, fun id' hne t ↦ ?_, fun id' hne tag ↦ ?_⟩
  · rw [h.byType.mem_iff, h'.byType.mem_iff, hsame id' hne]
  · rw [h.byTag.mem_iff, h'.byTag.mem_iff, hsame id' hne]

/-- Every number that could ever be given out is among these. -/
def UsedUp (ids : List ObjectId) : Prop :=
  ∀ id, .first ≤ id → id.isConcrete = true → id ∈ ids

/-- The numbers are used up when the counter has come to its end. -/
theorem usedUp_iff (changes : List Change) :
    UsedUp (empty.handedOut changes) ↔ (empty.run changes).nextId = .self := by
  have h := WellFormed.empty.run changes
  have hle := h.le_self
  have hfirst := h.first_le
  rw [ObjectId.le_iff] at hle hfirst
  constructor
  · intro hall
    by_contra hne
    rw [ObjectId.eq_iff] at hne
    have hnext : (empty.run changes).nextId < .self := ObjectId.lt_iff.2 (by omega)
    have hmem := hall _ h.first_le (ObjectId.isConcrete_iff.2 hnext)
    exact ObjectId.lt_irrefl _ (WellFormed.empty.mem_handedOut.1 hmem).2
  · intro hend id hid hconcrete
    rw [WellFormed.empty.mem_handedOut, hend]
    exact ⟨hid, ObjectId.isConcrete_iff.1 hconcrete⟩

/-- After every run of changes from the empty container: an object is filed under its own number,
which is concrete and below the counter; both indices are exact; the numbers that were given out
ascend, whatever was removed in between, and once they are used up an addition changes nothing; and
to remove an object or to give it another tag leaves all other objects and their entries in the
indices alone. -/
theorem run_invariant (changes : List Change) :
    let c := empty.run changes
    let spent := empty.handedOut changes
    (∀ id o, c.get? id = some o →
        o.id = id ∧ id.isConcrete = true ∧ .first ≤ id ∧ id < c.nextId) ∧
      c.byType.Exact (·.type) c.get? ∧
      c.byTag.Exact (·.tag) c.get? ∧
      spent.Pairwise (· < ·) ∧
      (∀ o,
        let out := (add o : Step Empty Container ObjectId) c
        (UsedUp spent → out.value = .invalid ∧ out.state = c) ∧
          (¬UsedUp spent → out.value.isConcrete = true ∧ (∀ id ∈ spent, id < out.value) ∧
            out.state.get? out.value = some { o with id := out.value })) ∧
      (∀ id,
        let out := (remove id : Step Empty Container (Option Object)) c
        out.value = c.get? id ∧ out.state.get? id = none ∧ AgreeOff id c out.state) ∧
      ∀ id tag,
        (c.setTag id tag).get? id = (c.get? id).map (fun o ↦ { o with tag }) ∧
          AgreeOff id c (c.setTag id tag) := by
  intro c spent
  have h : c.WellFormed := WellFormed.empty.run changes
  refine ⟨?_, h.byType, h.byTag, WellFormed.empty.pairwise_handedOut changes, ?_, ?_, ?_⟩
  · intro id o hid
    obtain ⟨hown, hfirst, hlt⟩ := h.filed id o hid
    have hself : id < .self := ObjectId.lt_of_lt_of_le hlt h.le_self
    exact ⟨hown, ObjectId.isConcrete_iff.2 hself, hfirst, hlt⟩
  · intro o out
    rw [usedUp_iff]
    rcases h.add_cases o with ⟨hnext, hvalue, hstate⟩ | ⟨hend, hvalue, hstate⟩
    · refine ⟨fun hend ↦ ?_, fun _ ↦ ?_⟩
      · rw [hend] at hnext
        exact absurd hnext (ObjectId.lt_irrefl _)
      · rw [hvalue, hstate, get?_place, Function.update_self]
        exact ⟨ObjectId.isConcrete_iff.2 hnext,
          fun id hid ↦ (WellFormed.empty.mem_handedOut.1 hid).2, rfl⟩
    · exact ⟨fun _ ↦ ⟨hvalue, hstate⟩, fun hne ↦ absurd hend hne⟩
  · intro id out
    have hview := c.get?_remove (ν := Empty) id
    refine ⟨c.value_remove id, ?_, h.agreeOff (h.remove id) hview⟩
    rw [hview, Function.update_self]
  · intro id tag
    have hview := c.get?_setTag id tag
    refine ⟨?_, h.agreeOff (h.setTag id tag) hview⟩
    rw [hview, Function.update_self]

end Container

end ScriptHost
