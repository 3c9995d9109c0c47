import ScriptHost.Proofs.Function.Consistency

/-!
# Tables of functions

A table is registered one function after the other, and what is in the way of a function may have
been there before or have come with the functions in front of it.  Both come to one condition on the
table as a whole (`Registry.Free`), so the order of the functions does not matter to a table that is
registered: every order succeeds and gives the same registry (`Registry.Free.registerTable_eq`).  It
matters to one that is refused.  Then the functions before the first that is refused stay, and no
others come in (`Registry.registerTable_cases`).
-/

namespace ScriptHost

/-- An entry is well formed if no parameter is void, there are no more defaults than parameters, and
the last default is of the type of the last parameter, and so on towards the front. -/
theorem FunctionDef.wellFormed_iff {η : Type} {f : FunctionDef η} :
    f.WellFormed ↔
      .void ∉ f.signature.params ∧ f.defaults.length ≤ f.signature.params.length ∧
        ∀ j v, f.defaults[j]? = some v →
          f.signature.params[f.signature.params.length - f.defaults.length + j]? =
            some v.type := by
  have hplace : ∀ j, f.signature.params[f.signature.params.length - f.defaults.length + j]? =
      (f.signature.params.drop f.minCount)[j]? := fun _ ↦ List.getElem?_drop.symm
  constructor
  · rintro ⟨hvoid, hle, htypes⟩
    refine ⟨hvoid, hle, fun j v hv ↦ ?_⟩
    rw [hplace, ← htypes, List.getElem?_map, hv]
    rfl
  · rintro ⟨hvoid, hle, htypes⟩
    have hlen : (f.signature.params.drop f.minCount).length = f.defaults.length := by
      rw [List.length_drop]
      change f.signature.params.length - (f.signature.params.length - f.defaults.length) = _
      omega
    refine ⟨hvoid, hle, List.ext_getElem? fun j ↦ ?_⟩
    rw [List.getElem?_map]
    cases hv : f.defaults[j]? with
    | some v => exact ((hplace j).symm.trans (htypes j v hv)).symm
    | none =>
      rw [List.getElem?_eq_none_iff] at hv
      exact (List.getElem?_eq_none (hlen.symm ▸ hv)).symm

namespace Registry

variable {η : Type} {r : Registry η} {f : FunctionDef η} {fs gs : List (FunctionDef η)}

/-! ## Tables that are registered -/

namespace Free

theorem nil (r : Registry η) : r.Free [] where
  wellFormed _ hf := (List.not_mem_nil hf).elim
  nodup_ids := .nil
  nodup_names := .nil
  id_free _ hf := (List.not_mem_nil hf).elim
  name_free _ hf := (List.not_mem_nil hf).elim

/-- What is in nobody's way once a function is registered was not in its way before. -/
theorem cons (hf : f.WellFormed) (hid : r.get? f.id = none) (hname : r.find? f.name = none)
    (h : (r.entered f).Free fs) : r.Free (f :: fs) := by
  have hids : ∀ g ∈ fs, g.id ≠ f.id ∧ r.get? g.id = none := by
    intro g hg
    have hfree := h.id_free g hg
    rw [get?_entered] at hfree
    split at hfree
    · cases hfree
    · rename_i hne
      exact ⟨hne, hfree⟩
  have hnames : ∀ g ∈ fs, g.name ≠ f.name ∧ r.find? g.name = none := by
    intro g hg
    have hfree := h.name_free g hg
    rw [find?_entered] at hfree
    split at hfree
    · cases hfree
    · rename_i hne
      exact ⟨hne, hfree⟩
  constructor
  · exact List.forall_mem_cons.2 ⟨hf, h.wellFormed⟩
  · refine List.nodup_cons.2 ⟨fun hmem ↦ ?_, h.nodup_ids⟩
    obtain ⟨g, hg, heq⟩ := List.mem_map.1 hmem
    exact (hids g hg).1 heq
  · refine List.nodup_cons.2 ⟨fun hmem ↦ ?_, h.nodup_names⟩
    obtain ⟨g, hg, heq⟩ := List.mem_map.1 hmem
    exact (hnames g hg).1 heq
  · exact List.forall_mem_cons.2 ⟨hid, fun g hg ↦ (hids g hg).2⟩
  · exact List.forall_mem_cons.2 ⟨hname, fun g hg ↦ (hnames g hg).2⟩

theorem fst_registerTable (h : r.Free fs) : (r.registerTable fs).1 = .ok () := by
  induction fs generalizing r with
  | nil => rfl
  | cons f rest ih =>
    rw [h.registerTable_cons]
    exact ih h.tail

theorem perm (h : r.Free fs) (hperm : gs.Perm fs) : r.Free gs where
  wellFormed f hf := h.wellFormed f (hperm.mem_iff.1 hf)
  nodup_ids := (hperm.map _).nodup_iff.2 h.nodup_ids
  nodup_names := (hperm.map _).nodup_iff.2 h.nodup_names
  id_free f hf := h.id_free f (hperm.mem_iff.1 hf)
  name_free f hf := h.name_free f (hperm.mem_iff.1 hf)

end Free

/-- A registry with functions added to it, and nothing changed that was there before. -/
structure Adds (r : Registry η) (fs : List (FunctionDef η)) (r' : Registry η) : Prop where
  get?_iff : ∀ id f, r'.get? id = some f ↔ f ∈ fs ∧ f.id = id ∨ r.get? id = some f
  find?_iff : ∀ name id,
    r'.find? name = some id ↔ (∃ f ∈ fs, f.name = name ∧ f.id = id) ∨ r.find? name = some id
  logUnimplemented_eq : r'.logUnimplemented = r.logUnimplemented

theorem logUnimplemented_registerTable (r : Registry η) (fs : List (FunctionDef η)) :
    (r.registerTable fs).2.logUnimplemented = r.logUnimplemented := by
  refine registerTable_keeps (P := fun r' ↦ r'.logUnimplemented = r.logUnimplemented) ?_ rfl fs
  intro r₁ f r₂ hr hlog
  obtain ⟨-, -, -, rfl⟩ := register_eq_ok_iff.1 hr
  exact hlog

theorem Free.adds (h : r.Free fs) : r.Adds fs (r.registerTable fs).2 where
  get?_iff _ _ := h.get?_registerTable
  find?_iff name id := by
    by_cases hmem : ∃ f ∈ fs, f.name = name
    · obtain ⟨f, hf, rfl⟩ := hmem
      rw [h.find?_registerTable hf, h.name_free f hf]
      constructor
      · rintro ⟨⟩
        exact .inl ⟨f, hf, rfl, rfl⟩
      · rintro (⟨g, hg, hname, rfl⟩ | hnone)
        · exact (h.find?_registerTable hf).symm.trans (hname ▸ h.find?_registerTable hg)
        · cases hnone
    · have hother : ∀ f ∈ fs, f.name ≠ name := fun f hf hname ↦ hmem ⟨f, hf, hname⟩
      rw [h.find?_registerTable_of_ne hother]
      refine ⟨.inr, ?_⟩
      rintro (⟨f, hf, hname, -⟩ | hold)
      · exact absurd hname (hother f hf)
      · exact hold
  logUnimplemented_eq := r.logUnimplemented_registerTable fs

/-- What is added says what the registry is then. -/
theorem Adds.unique {r₁ r₂ : Registry η} (h₁ : r.Adds fs r₁) (h₂ : r.Adds gs r₂)
    (hmem : ∀ f, f ∈ fs ↔ f ∈ gs) : r₁ = r₂ := by
  ext1
  · refine SortedMap.eq_of_get?_eq fun id ↦ Option.ext fun f ↦ ?_
    have hsame : f ∈ fs ∧ f.id = id ↔ f ∈ gs ∧ f.id = id := and_congr_left fun _ ↦ hmem f
    exact (h₁.get?_iff id f).trans ((or_congr_left hsame).trans (h₂.get?_iff id f).symm)
  · refine SortedMap.eq_of_get?_eq fun name ↦ Option.ext fun id ↦ ?_
    have hsame : (∃ f ∈ fs, f.name = name ∧ f.id = id) ↔ ∃ f ∈ gs, f.name = name ∧ f.id = id :=
      exists_congr fun f ↦ and_congr_left fun _ ↦ hmem f
    exact (h₁.find?_iff name id).trans ((or_congr_left hsame).trans (h₂.find?_iff name id).symm)
  · exact h₁.logUnimplemented_eq.trans h₂.logUnimplemented_eq.symm

/-- The order of a table that is registered does not matter. -/
theorem Free.registerTable_eq (h : r.Free fs) (hperm : gs.Perm fs) :
    r.registerTable gs = r.registerTable fs := by
  have h' : r.Free gs := h.perm hperm
  refine Prod.ext (h'.fst_registerTable.trans h.fst_registerTable.symm) ?_
  exact h'.adds.unique h.adds fun _ ↦ hperm.mem_iff

/-! ## Tables that are refused -/

/-- A table is registered, or it is refused at the first function that is refused after all those
before it were registered. -/
theorem registerTable_cases (r : Registry η) (fs : List (FunctionDef η)) :
    r.Free fs ∨ ∃ before f after e, fs = before ++ f :: after ∧ r.Free before ∧
      (r.registerTable before).2.register f = .error e ∧
      r.registerTable fs = (.error e, (r.registerTable before).2) := by
  induction fs generalizing r with
  | nil => exact .inl (.nil r)
  | cons f rest ih =>
    cases hr : r.register f with
    | error e =>
      have htable : r.registerTable (f :: rest) = (.error e, r) := by rw [registerTable, hr]
      exact .inr ⟨[], f, rest, e, rfl, .nil r, hr, htable⟩
    | ok r' =>
      obtain ⟨hf, hid, hname, rfl⟩ := register_eq_ok_iff.1 hr
      have hstep : ∀ gs, r.registerTable (f :: gs) = (r.entered f).registerTable gs := by
        intro gs
        rw [registerTable, hr]
      rcases ih (r.entered f) with hfree | ⟨before, g, after, e, rfl, hbefore, hg, htable⟩
      · exact .inl (.cons hf hid hname hfree)
      · refine .inr ⟨f :: before, g, after, e, rfl, .cons hf hid hname hbefore, ?_, ?_⟩
        · rw [hstep]
          exact hg
        · rw [hstep, hstep]
          exact htable

theorem fst_registerTable_eq_ok_iff : (r.registerTable fs).1 = .ok () ↔ r.Free fs := by
  refine ⟨fun hok ↦ ?_, Free.fst_registerTable⟩
  rcases r.registerTable_cases fs with hfree | ⟨_, _, _, e, -, -, -, htable⟩
  · exact hfree
  · rw [htable] at hok
    cases hok

/-- A table is registered exactly if its entries are well formed and their numbers and their names
are all different and not taken yet.  Then all of it is in the registry and all else is as before,
and every other order of the table gives the same registry.  A table that is refused is refused for
the first entry that the registry with the entries before it refuses; these are in the registry, and
no others are.  An entry is well formed exactly if no parameter is void, there are no more defaults
than parameters, and each default is of the type of its parameter. -/
theorem table_registered_or_refused (r : Registry η) (fs : List (FunctionDef η)) :
    let out := r.registerTable fs
    (out.1 = .ok () ↔
        (∀ f ∈ fs, f.validate = .ok ()) ∧
          (fs.map (·.id)).Nodup ∧ (∀ f ∈ fs, r.get? f.id = none) ∧
          (fs.map (·.name)).Nodup ∧ ∀ f ∈ fs, r.find? f.name = none) ∧
      (out.1 = .ok () → r.Adds fs out.2 ∧ ∀ gs, gs.Perm fs → r.registerTable gs = out) ∧
      (∀ e, out.1 = .error e → ∃ before f after, fs = before ++ f :: after ∧
        r.registerTable before = (.ok (), out.2) ∧ out.2.register f = .error e ∧
        r.Adds before out.2) ∧
      ∀ f : FunctionDef η, f.validate = .ok () ↔
        .void ∉ f.signature.params ∧ f.defaults.length ≤ f.signature.params.length ∧
          ∀ j v, f.defaults[j]? = some v →
            f.signature.params[f.signature.params.length - f.defaults.length + j]? =
              some v.type := by
  intro out
  refine ⟨?_, ?_, ?_, fun f ↦ FunctionDef.validate_eq_ok_iff.trans FunctionDef.wellFormed_iff⟩
  · refine fst_registerTable_eq_ok_iff.trans ⟨fun h ↦ ?_, ?_⟩
    · exact ⟨fun f hf ↦ FunctionDef.validate_eq_ok_iff.2 (h.wellFormed f hf), h.nodup_ids,
        h.id_free, h.nodup_names, h.name_free⟩
    · rintro ⟨hvalid, hids, hid, hnames, hname⟩
      exact ⟨fun f hf ↦ FunctionDef.validate_eq_ok_iff.1 (hvalid f hf), hids, hnames, hid, hname⟩
  · intro hok
    have h : r.Free fs := fst_registerTable_eq_ok_iff.1 hok
    exact ⟨h.adds, fun gs hperm ↦ h.registerTable_eq hperm⟩
  · intro e he
    rcases r.registerTable_cases fs with
      hfree | ⟨before, f, after, e', hsplit, hbefore, hf, htable⟩
    · cases he.symm.trans hfree.fst_registerTable
    · have hout : out = _ := htable
      rw [hout] at he ⊢
      cases he
      exact ⟨before, f, after, hsplit, Prod.ext hbefore.fst_registerTable rfl, hf, hbefore.adds⟩

end Registry

end ScriptHost
