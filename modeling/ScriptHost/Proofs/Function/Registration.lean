import ScriptHost.Function.Registry
import ScriptHost.Proofs.Function.Arguments

/-!
# Registries and what is registered in them

Whatever is registered, refused and cleared, a registry holds every function under its own number,
and only functions that are well formed (`Registry.Sound.runChanges`).  A table whose entries are in
nobody's way is registered whole (`Registry.Free.get?_registerTable`).
-/

namespace ScriptHost.Registry

variable {η : Type} {r : Registry η}

/-! ## One function -/

/-- The registry with a function in it. -/
def entered (r : Registry η) (f : FunctionDef η) : Registry η :=
  { r with
    functions := r.functions.insert f.id f
    byName := r.byName.insert f.name f.id }

theorem get?_entered (r : Registry η) (f : FunctionDef η) (id : FunctionId) :
    (r.entered f).get? id = if id = f.id then some f else r.get? id :=
  SortedMap.get?_insert ..

theorem find?_entered (r : Registry η) (f : FunctionDef η) (name : String) :
    (r.entered f).find? name = if name = f.name then some f.id else r.find? name :=
  SortedMap.get?_insert ..

/-- A function is registered if it is well formed and neither its number nor its name is taken. -/
theorem register_eq_ok_iff {f : FunctionDef η} {r' : Registry η} :
    r.register f = .ok r' ↔
      f.WellFormed ∧ r.get? f.id = none ∧ r.find? f.name = none ∧ r' = r.entered f := by
  unfold register
  cases hvalid : f.validate with
  | error e =>
    refine ⟨nofun, fun h ↦ ?_⟩
    rw [FunctionDef.validate_eq_ok_iff.2 h.1] at hvalid
    cases hvalid
  | ok =>
    dsimp only
    cases hid : r.functions.get? f.id with
    | some existing =>
      refine ⟨nofun, fun h ↦ ?_⟩
      have hfree : r.functions.get? f.id = none := h.2.1
      rw [hid] at hfree
      cases hfree
    | none =>
      dsimp only
      cases hname : r.byName.get? f.name with
      | some id =>
        have htaken : r.byName.contains f.name = true := by
          rw [SortedMap.contains, hname]
          rfl
        rw [if_pos htaken]
        refine ⟨nofun, fun h ↦ ?_⟩
        have hfree : r.byName.get? f.name = none := h.2.2.1
        rw [hname] at hfree
        cases hfree
      | none =>
        have htaken : ¬r.byName.contains f.name = true := by
          rw [SortedMap.contains, hname]
          exact Bool.false_ne_true
        rw [if_neg htaken]
        refine ⟨fun h ↦ ?_, fun h ↦ congrArg Except.ok h.2.2.2.symm⟩
        cases h
        exact ⟨FunctionDef.validate_eq_ok_iff.1 hvalid, hid, hname, rfl⟩

/-! ## Runs of changes -/

/-- A change to a registry. -/
inductive Change (η : Type) where
  | register (f : FunctionDef η)
  | registerTable (fs : List (FunctionDef η))
  | clear

/-- Makes a change; a function that is refused changes nothing. -/
def apply (r : Registry η) : Change η → Registry η
  | .register f =>
    match r.register f with
    | .ok r' => r'
    | .error _ => r
  | .registerTable fs => (r.registerTable fs).2
  | .clear => r.clear

/-- Makes changes one after the other. -/
def runChanges (r : Registry η) (changes : List (Change η)) : Registry η :=
  changes.foldl apply r

section Keeps

/-! A property that a registration which succeeds keeps, and that a cleared registry has, is kept by
every run of changes: what is refused changes nothing, and of a table that is refused in the middle
the part before is registered one by one. -/

variable {P : Registry η → Prop}

theorem registerTable_keeps (hregister : ∀ r f r', register r f = .ok r' → P r → P r') (h : P r)
    (fs : List (FunctionDef η)) : P (r.registerTable fs).2 := by
  induction fs generalizing r with
  | nil => exact h
  | cons f rest ih =>
    unfold registerTable
    cases hr : r.register f with
    | error e => exact h
    | ok r' => exact ih (hregister r f r' hr h)

theorem apply_keeps (hregister : ∀ r f r', register r f = .ok r' → P r → P r')
    (hclear : ∀ r, P (clear r)) (h : P r) (change : Change η) : P (r.apply change) := by
  cases change with
  | register f =>
    dsimp only [apply]
    cases hr : r.register f with
    | error e => exact h
    | ok r' => exact hregister r f r' hr h
  | registerTable fs => exact registerTable_keeps hregister h fs
  | clear => exact hclear r

theorem runChanges_keeps (hregister : ∀ r f r', register r f = .ok r' → P r → P r')
    (hclear : ∀ r, P (clear r)) (h : P r) (changes : List (Change η)) :
    P (r.runChanges changes) := by
  induction changes generalizing r with
  | nil => exact h
  | cons change rest ih => exact ih (apply_keeps hregister hclear h change)

end Keeps

/-- Every function is held under its own number, and is well formed. -/
def Sound (r : Registry η) : Prop :=
  ∀ id f, r.get? id = some f → f.id = id ∧ f.WellFormed

namespace Sound

theorem of_isEmpty (h : r.functions = ∅) : r.Sound := by
  intro id f hf
  rw [get?, h] at hf
  cases hf

theorem register (h : r.Sound) {f : FunctionDef η} {r' : Registry η}
    (hr : r.register f = .ok r') : r'.Sound := by
  obtain ⟨hf, -, -, rfl⟩ := register_eq_ok_iff.1 hr
  intro id g hg
  rw [get?_entered] at hg
  split at hg
  · rename_i hid
    cases hg
    exact ⟨hid.symm, hf⟩
  · exact h id g hg

theorem runChanges (h : r.Sound) (changes : List (Change η)) : (r.runChanges changes).Sound :=
  runChanges_keeps (fun _ _ _ hr h ↦ h.register hr) (fun _ ↦ .of_isEmpty rfl) h changes

end Sound

/-! ## Tables -/

/-- A table whose entries are well formed, and whose numbers and names are all different and not
taken yet. -/
structure Free (r : Registry η) (fs : List (FunctionDef η)) : Prop where
  wellFormed : ∀ f ∈ fs, f.WellFormed
  nodup_ids : (fs.map (·.id)).Nodup
  nodup_names : (fs.map (·.name)).Nodup
  id_free : ∀ f ∈ fs, r.get? f.id = none
  name_free : ∀ f ∈ fs, r.find? f.name = none

namespace Free

variable {f : FunctionDef η} {rest : List (FunctionDef η)}

theorem register_head (h : r.Free (f :: rest)) : r.register f = .ok (r.entered f) :=
  register_eq_ok_iff.2 ⟨h.wellFormed f List.mem_cons_self, h.id_free f List.mem_cons_self,
    h.name_free f List.mem_cons_self, rfl⟩

/-- The first entry is in nobody's way once it is registered. -/
theorem tail (h : r.Free (f :: rest)) : (r.entered f).Free rest := by
  obtain ⟨hid, hids⟩ := List.nodup_cons.1 h.nodup_ids
  obtain ⟨hname, hnames⟩ := List.nodup_cons.1 h.nodup_names
  refine ⟨fun g hg ↦ h.wellFormed g (List.mem_cons_of_mem f hg), hids, hnames, ?_, ?_⟩
  · intro g hg
    have hne : g.id ≠ f.id := fun heq ↦ hid (List.mem_map.2 ⟨g, hg, heq⟩)
    rw [get?_entered, if_neg hne]
    exact h.id_free g (List.mem_cons_of_mem f hg)
  · intro g hg
    have hne : g.name ≠ f.name := fun heq ↦ hname (List.mem_map.2 ⟨g, hg, heq⟩)
    rw [find?_entered, if_neg hne]
    exact h.name_free g (List.mem_cons_of_mem f hg)

theorem registerTable_cons (h : r.Free (f :: rest)) :
    r.registerTable (f :: rest) = (r.entered f).registerTable rest := by
  rw [registerTable, h.register_head]

/-- A table whose entries are in nobody's way is registered whole. -/
theorem get?_registerTable {fs : List (FunctionDef η)} (h : r.Free fs) {id : FunctionId} :
    (r.registerTable fs).2.get? id = some f ↔ f ∈ fs ∧ f.id = id ∨ r.get? id = some f := by
  induction fs generalizing r with
  | nil =>
    have hnil : ¬(f ∈ ([] : List (FunctionDef η)) ∧ f.id = id) := fun hf ↦ List.not_mem_nil hf.1
    exact (or_iff_right hnil).symm
  | cons g rest ih =>
    have hfree : r.get? g.id = none := h.id_free g List.mem_cons_self
    rw [h.registerTable_cons, ih h.tail, get?_entered, List.mem_cons]
    by_cases hid : id = g.id
    · subst hid
      rw [if_pos rfl, hfree]
      constructor
      · rintro (⟨hmem, heq⟩ | heq)
        · exact .inl ⟨.inr hmem, heq⟩
        · cases heq
          exact .inl ⟨.inl rfl, rfl⟩
      · rintro (⟨rfl | hmem, heq⟩ | heq)
        · exact .inr rfl
        · exact .inl ⟨hmem, heq⟩
        · cases heq
    · rw [if_neg hid]
      constructor
      · rintro (⟨hmem, heq⟩ | heq)
        · exact .inl ⟨.inr hmem, heq⟩
        · exact .inr heq
      · rintro (⟨rfl | hmem, heq⟩ | heq)
        · exact absurd heq.symm hid
        · exact .inl ⟨hmem, heq⟩
        · exact .inr heq

/-- A name that is not in a table leads where it led before. -/
theorem find?_registerTable_of_ne {fs : List (FunctionDef η)} {name : String} (h : r.Free fs)
    (hname : ∀ f ∈ fs, f.name ≠ name) : (r.registerTable fs).2.find? name = r.find? name := by
  induction fs generalizing r with
  | nil => rfl
  | cons g rest ih =>
    obtain ⟨hhead, hrest⟩ := List.forall_mem_cons.1 hname
    rw [h.registerTable_cons, ih h.tail hrest, find?_entered, if_neg hhead.symm]

/-- The names of a table lead to its entries. -/
theorem find?_registerTable {fs : List (FunctionDef η)} (h : r.Free fs) (hf : f ∈ fs) :
    (r.registerTable fs).2.find? f.name = some f.id := by
  induction fs generalizing r with
  | nil => exact (List.not_mem_nil hf).elim
  | cons g rest ih =>
    rw [h.registerTable_cons]
    rcases List.mem_cons.1 hf with rfl | hrest
    · have hname : ∀ g ∈ rest, g.name ≠ f.name := fun g hg heq ↦
        (List.nodup_cons.1 h.nodup_names).1 (List.mem_map.2 ⟨g, hg, heq⟩)
      rw [h.tail.find?_registerTable_of_ne hname, find?_entered, if_pos rfl]
    · exact ih h.tail hrest

end Free

end ScriptHost.Registry
