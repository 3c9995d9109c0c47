import ScriptHost.Proofs.Object.Container

/-!
# Where references lead

A reference is a number and no more, so its object may be gone.  There are three ways to ask where
it leads: `resolve?` gives the object, `resolveId` its number, and `isValid` says whether there is
one.
They agree because an object is filed under its own number, and the two numbers that stand for no
object of their own are never in use.

A number that was given out stays spent when its object goes (`Spent`), whatever is added later.  So
a reference that leads nowhere once its object is gone leads nowhere for good.
`references_never_dangle` puts the two together.
-/

namespace ScriptHost.Container

variable {c : Container} {id r caller : ObjectId} {o : Object}

/-! ## The ways to ask -/

/-- A reference leads nowhere, however one asks. -/
structure DeadEnd (c : Container) (r caller : ObjectId) : Prop where
  resolve?_eq : c.resolve? r caller = none
  resolveId_eq : c.resolveId r caller = .invalid
  isValid_eq : c.isValid r caller = false

/-- Where there is no object there is nothing to be found. -/
theorem deadEnd_of_gone (h : c.get? (r.orCaller caller) = none) : c.DeadEnd r caller := by
  have hgone : c.contains (r.orCaller caller) = false := congrArg Option.isSome h
  constructor
  · exact h
  · simp [resolveId, hgone]
  · simp [isValid, resolve?, h]

/-- A reference that leads to an object leads to the one with the number that it means. -/
theorem WellFormed.resolves_to (h : c.WellFormed) (hr : c.resolve? r caller = some o) :
    o.id = r.orCaller caller ∧ c.resolveId r caller = r.orCaller caller ∧
      r.orCaller caller ≠ .invalid := by
  have hthere : c.get? (r.orCaller caller) = some o := hr
  have hlive : c.contains (r.orCaller caller) = true := congrArg Option.isSome hthere
  refine ⟨(h.filed _ o hthere).1, by simp [resolveId, hlive], fun hinvalid ↦ ?_⟩
  rw [hinvalid, h.get?_invalid] at hthere
  cases hthere

/-- All three ways to ask tell the same references apart. -/
theorem WellFormed.resolveId_ne_invalid_iff (h : c.WellFormed) :
    c.resolveId r caller ≠ .invalid ↔ ∃ o, c.resolve? r caller = some o := by
  constructor
  · intro hid
    cases hr : c.resolve? r caller with
    | none => exact absurd (deadEnd_of_gone hr).resolveId_eq hid
    | some o => exact ⟨o, rfl⟩
  · rintro ⟨o, hr⟩
    obtain ⟨-, hid, hvalid⟩ := h.resolves_to hr
    rwa [hid]

theorem isValid_iff : c.isValid r caller = true ↔ ∃ o, c.resolve? r caller = some o :=
  Option.isSome_iff_exists

/-- The numbers that stand for no object of their own lead nowhere. -/
theorem WellFormed.deadEnd_of_sentinel (h : c.WellFormed)
    (hr : r.orCaller caller = .invalid ∨ r.orCaller caller = .self) : c.DeadEnd r caller := by
  apply deadEnd_of_gone
  rcases hr with hr | hr
  · rw [hr, h.get?_invalid]
  · rw [hr, h.get?_self]

theorem WellFormed.isConcrete_of_contains (h : c.WellFormed) (hid : c.contains id = true) :
    id.isConcrete = true := by
  obtain ⟨o, ho⟩ := Option.isSome_iff_exists.1 hid
  exact ObjectId.isConcrete_iff.2 (h.lt_self ho)

/-- What a reference means where there is no caller: `self` is nobody then. -/
theorem WellFormed.resolveId_invalid (h : c.WellFormed) (id : ObjectId) :
    c.resolveId id .invalid = if c.contains id then id else .invalid := by
  by_cases hself : id = .self
  · subst hself
    have hgone : c.contains .self = false := congrArg Option.isSome h.get?_self
    rw [(h.deadEnd_of_sentinel (.inl rfl)).resolveId_eq, hgone]
    rfl
  · rw [resolveId, ObjectId.orCaller_eq, if_neg hself]

/-! ## Numbers stay spent -/

/-- The number of an object that was there once and is gone. -/
structure Spent (c : Container) (id : ObjectId) : Prop where
  given : id < c.nextId
  gone : c.get? id = none

/-- To change an object brings none back that was gone. -/
theorem get?_eq_none_of_update {c' : Container} {target : ObjectId} {f : Object → Object}
    (hview : c'.get? = Function.update c.get? target ((c.get? target).map f))
    (hid : c.get? id = none) : c'.get? id = none := by
  rw [hview, Function.update_apply]
  split
  · rename_i heq
    rw [← heq, hid]
    rfl
  · exact hid

theorem WellFormed.spent_apply (h : c.WellFormed) (hid : c.Spent id) (change : Change) :
    (c.apply change).Spent id := by
  refine ⟨ObjectId.lt_of_lt_of_le hid.given (h.nextId_le_run [change]), ?_⟩
  cases change with
  | add o =>
    rw [← state_add (ν := Empty)]
    rcases h.add_cases (ν := Empty) o with ⟨-, -, hstate⟩ | ⟨-, -, hstate⟩
    · rw [hstate, get?_place, Function.update_of_ne (ObjectId.ne_of_lt hid.given)]
      exact hid.gone
    · rw [hstate]
      exact hid.gone
  | remove target =>
    rw [← state_remove (ν := Empty), get?_remove, Function.update_apply]
    split
    · rfl
    · exact hid.gone
  | setTag target tag => exact get?_eq_none_of_update (get?_setTag ..) hid.gone
  | edit target e => exact get?_eq_none_of_update (get?_edit ..) hid.gone
  | clear => rfl

theorem WellFormed.spent_run (h : c.WellFormed) (hid : c.Spent id) (changes : List Change) :
    (c.run changes).Spent id := by
  induction changes generalizing c with
  | nil => exact hid
  | cons change rest ih => exact ih (h.apply change) (h.spent_apply hid change)

/-- Whether a change removes an object that was there. -/
def Change.Removes (id : ObjectId) (change : Change) : Prop :=
  change = .remove id ∨ change = .clear

/-- An object that is removed leaves its number spent. -/
theorem WellFormed.spent_of_removes (h : c.WellFormed) (hid : c.get? id = some o) {change : Change}
    (hchange : change.Removes id) : (c.apply change).Spent id := by
  have hgiven : id < c.nextId := (h.filed id o hid).2.2
  refine ⟨ObjectId.lt_of_lt_of_le hgiven (h.nextId_le_run [change]), ?_⟩
  rcases hchange with rfl | rfl
  · rw [← state_remove (ν := Empty), get?_remove, Function.update_self]
  · rfl

/-! ## References over runs -/

/-- After every run of changes from the empty container, the three ways to ask where a reference
leads agree, and an object that it leads to has the number that the reference means, `self` meaning
the caller.  As long as there is an object of that number, the reference leads to it; references
that mean no object of their own lead nowhere.  Once the object that a
reference means is removed, the reference leads nowhere, and it will not lead anywhere again,
whatever is done after that. -/
theorem references_never_dangle (changes : List Change) :
    let c := empty.run changes
    let meant (r caller : ObjectId) : ObjectId := if r = .self then caller else r
    (∀ r caller,
        ((∃ o, c.resolve? r caller = some o) ↔ c.resolveId r caller ≠ .invalid) ∧
          (c.resolveId r caller ≠ .invalid ↔ c.isValid r caller = true) ∧
          ∀ o, c.resolve? r caller = some o →
            o.id = c.resolveId r caller ∧ c.resolveId r caller = meant r caller) ∧
      (∀ r caller o, c.get? (meant r caller) = some o →
        c.resolve? r caller = some o ∧ c.resolveId r caller = meant r caller ∧
          c.isValid r caller = true) ∧
      (∀ r caller, r = .invalid ∨ (r = .self ∧ (caller = .invalid ∨ caller = .self)) →
        c.DeadEnd r caller) ∧
      ∀ id o, c.get? id = some o → ∀ removal : Change, removal.Removes id →
        ∀ later r caller, meant r caller = id →
          ((c.apply removal).run later).DeadEnd r caller := by
  intro c meant
  have h : c.WellFormed := WellFormed.empty.run changes
  have hmeant : ∀ r caller : ObjectId, r.orCaller caller = meant r caller := ObjectId.orCaller_eq
  refine ⟨fun r caller ↦ ⟨h.resolveId_ne_invalid_iff.symm, ?_, ?_⟩, ?_, ?_, ?_⟩
  · rw [h.resolveId_ne_invalid_iff, isValid_iff]
  · intro o hr
    obtain ⟨hown, hid, -⟩ := h.resolves_to hr
    rw [hown, hid, hmeant]
    exact ⟨rfl, rfl⟩
  · intro r caller o ho
    rw [← hmeant] at ho ⊢
    obtain ⟨-, hid, -⟩ := h.resolves_to ho
    exact ⟨ho, hid, isValid_iff.2 ⟨o, ho⟩⟩
  · intro r caller hr
    apply h.deadEnd_of_sentinel
    rw [ObjectId.orCaller_eq]
    rcases hr with rfl | ⟨rfl, hcaller⟩
    · exact .inl rfl
    · rwa [if_pos rfl]
  · intro id o hid removal hremoval later r caller hr
    have hspent := (h.apply removal).spent_run (h.spent_of_removes hid hremoval) later
    apply deadEnd_of_gone
    rw [hmeant, hr]
    exact hspent.gone

/-- A guard is gone, and a goblin that comes later does not stand in for it. -/
example :
    let c := Container.empty.run
      [.add (.fresh .creature "guard"), .remove ⟨1⟩, .add (.fresh .creature "goblin")]
    c.resolveId ⟨1⟩ .invalid = .invalid ∧ c.resolveId .self ⟨2⟩ = ⟨2⟩ := by
  decide +kernel

end ScriptHost.Container
