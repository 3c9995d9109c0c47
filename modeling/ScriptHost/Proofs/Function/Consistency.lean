import ScriptHost.Proofs.Function.Dispatch
import ScriptHost.Proofs.SortedMap

/-!
# Functions by number and by name

A registry is two maps: functions by number, and numbers by name.  A registration writes to both,
and may be refused for five reasons before it does.  So the maps say the same of every name
(`Registry.Indexed`), also after a table that was registered in part, and a call by name is a call
by the number of the one function that has the name.
-/

namespace ScriptHost.Registry

variable {η ν σ : Type} {r : Registry η} {f : FunctionDef η}

/-! ## The two maps agree -/

/-- Functions are held under their own numbers, and a name leads to a number exactly if the function
of that number has that name. -/
structure Indexed (r : Registry η) : Prop where
  sound : r.Sound
  find?_iff : ∀ name id, r.find? name = some id ↔ ∃ f, r.get? id = some f ∧ f.name = name

namespace Indexed

theorem of_isEmpty (hfunctions : r.functions = ∅) (hnames : r.byName = ∅) : r.Indexed where
  sound := .of_isEmpty hfunctions
  find?_iff name id := by
    rw [find?, get?, hfunctions, hnames]
    simp

/-- A function whose number and name are both new is in nobody's way, in neither map. -/
theorem register (h : r.Indexed) {r' : Registry η} (hr : r.register f = .ok r') : r'.Indexed where
  sound := h.sound.register hr
  find?_iff name id := by
    obtain ⟨-, hid, hname, rfl⟩ := register_eq_ok_iff.1 hr
    rw [find?_entered, get?_entered]
    by_cases hn : name = f.name
    · -- The name is new, so no function under another number has it.
      subst hn
      rw [if_pos rfl]
      constructor
      · rintro ⟨⟩
        exact ⟨f, if_pos rfl, rfl⟩
      · rintro ⟨g, hg, hgname⟩
        split at hg
        · rename_i heq
          rw [heq]
        · have hold := (h.find?_iff f.name id).2 ⟨g, hg, hgname⟩
          rw [hname] at hold
          cases hold
    · rw [if_neg hn, h.find?_iff]
      constructor
      · rintro ⟨g, hg, rfl⟩
        have hne : id ≠ f.id := by
          rintro rfl
          rw [hid] at hg
          cases hg
        exact ⟨g, by rw [if_neg hne, hg], rfl⟩
      · rintro ⟨g, hg, rfl⟩
        split at hg
        · cases hg
          exact absurd rfl hn
        · exact ⟨g, hg, rfl⟩

theorem runChanges (h : r.Indexed) (changes : List (Change η)) : (r.runChanges changes).Indexed :=
  runChanges_keeps (fun _ _ _ hr h ↦ h.register hr) (fun _ ↦ .of_isEmpty rfl rfl) h changes

/-! ## The list of functions -/

theorem mem_toList (h : r.Indexed) : f ∈ r.toList ↔ r.get? f.id = some f := by
  unfold toList get?
  rw [SortedMap.get?_eq_some_iff]
  constructor
  · intro hf
    obtain ⟨⟨id, g⟩, he, rfl⟩ := List.mem_map.1 hf
    obtain ⟨hid, -⟩ := h.sound id g (SortedMap.get?_eq_some_iff.2 he)
    rwa [hid]
  · intro he
    exact List.mem_map.2 ⟨_, he, rfl⟩

/-- The functions come in the order of their numbers. -/
theorem pairwise_toList (h : r.Indexed) : r.toList.Pairwise fun f g ↦ f.id.val < g.id.val := by
  refine List.pairwise_map.2 (r.functions.sorted.imp_of_mem ?_)
  rintro ⟨id, f⟩ ⟨id', g⟩ hf hg hlt
  obtain ⟨rfl, -⟩ := h.sound id f (SortedMap.get?_eq_some_iff.2 hf)
  obtain ⟨rfl, -⟩ := h.sound id' g (SortedMap.get?_eq_some_iff.2 hg)
  have hval : compare f.id.val g.id.val = .lt := hlt
  exact Std.compare_eq_lt.1 hval

/-- A name leads nowhere exactly if no function has it. -/
theorem find?_eq_none_iff (h : r.Indexed) {name : String} :
    r.find? name = none ↔ ∀ f ∈ r.toList, f.name ≠ name := by
  rw [Option.eq_none_iff_forall_ne_some]
  constructor
  · rintro hnone f hf rfl
    exact hnone f.id ((h.find?_iff _ _).2 ⟨f, h.mem_toList.1 hf, rfl⟩)
  · rintro hnone id hid
    obtain ⟨f, hf, rfl⟩ := (h.find?_iff _ _).1 hid
    obtain ⟨rfl, -⟩ := h.sound id f hf
    exact hnone f (h.mem_toList.2 hf) rfl

end Indexed

/-! ## Calls by name -/

section Calls

variable {name : String} {id : FunctionId} {args : List Value} {unknown : String}
variable (invoke : Invoke η ν σ) (site : CallSite) (s : σ)

theorem callByName_of_unknown (h : r.find? name = none) :
    r.callByName invoke name args site s = ⟨.error (.unknownFunctionName name), s, []⟩ := by
  rw [callByName, h]
  rfl

theorem callByName_of_known (h : r.find? name = some id) :
    r.callByName invoke name args site s = r.call invoke id args site s := by
  rw [callByName, h]

/-- A call by number does not fail because of a name. -/
theorem value_call_ne_unknownName :
    (r.call invoke id args site s).value ≠ .error (.unknownFunctionName unknown) := by
  intro heq
  cases hf : r.get? id with
  | none =>
    rw [call_of_unknown invoke site s hf] at heq
    cases heq
  | some f =>
    rcases FunctionDef.make_cases f args site with ⟨e, hrefuses, -⟩ | ⟨haccepts, -⟩
    · rw [call_of_refuses invoke site s hf hrefuses] at heq
      cases heq
      cases hrefuses
    · rw [value_call_of_accepts invoke site s hf haccepts] at heq
      cases hnative : f.native with
      | none =>
        rw [hnative] at heq
        cases heq
      | some native =>
        rw [hnative] at heq
        generalize (invoke native (f.context args site) s).value = left at heq
        dsimp only [Option.elim, FunctionDef.result] at heq
        split at heq
        · cases heq
        · split at heq <;> cases heq

theorem value_callByName_eq_unknownName_iff :
    (∃ unknown, (r.callByName invoke name args site s).value =
        .error (.unknownFunctionName unknown)) ↔ r.find? name = none := by
  cases hname : r.find? name with
  | none =>
    rw [callByName_of_unknown invoke site s hname]
    exact ⟨fun _ ↦ rfl, fun _ ↦ ⟨name, rfl⟩⟩
  | some id =>
    rw [callByName_of_known invoke site s hname]
    constructor
    · rintro ⟨unknown, heq⟩
      exact absurd heq (value_call_ne_unknownName invoke site s)
    · nofun

end Calls

/-- Whatever is registered, refused and cleared, numbers and names stay in step.

- A name leads to a number exactly if the function of that number has that name; every function is
  held under its own number and is well formed; the list has each of them once, by ascending number.
- A function is registered if it is well formed and neither its number nor its name is taken.  Then
  it is found by its number, and this by its name, and all else is found as before.
- A function that is refused leaves the registry as it was.
- A call by name is the call of the number that the name leads to, and fails for its name exactly if
  no function has it.

The order of the list rests on how a registry is represented, as a map that is sorted by number.
That a refusal changes nothing does so too: there is a new registry only when a function is
entered. -/
theorem lookups_agree (logUnimplemented : Bool) (changes : List (Change η)) :
    let r := (⟨∅, ∅, logUnimplemented⟩ : Registry η).runChanges changes
    (∀ name id, r.find? name = some id ↔ ∃ f, r.get? id = some f ∧ f.name = name) ∧
      (∀ id f, r.get? id = some f → f.id = id ∧ f.validate = .ok ()) ∧
      (∀ f, f ∈ r.toList ↔ ∃ id, r.get? id = some f) ∧
      r.toList.Pairwise (fun f g ↦ f.id.val < g.id.val) ∧
      (∀ f, (∃ r', r.register f = .ok r') ↔
        f.validate = .ok () ∧ r.get? f.id = none ∧ r.find? f.name = none) ∧
      (∀ f r', r.register f = .ok r' →
        r.apply (.register f) = r' ∧ r.registerTable [f] = (.ok (), r') ∧
          (∀ id, r'.get? id = if id = f.id then some f else r.get? id) ∧
          ∀ name, r'.find? name = if name = f.name then some f.id else r.find? name) ∧
      (∀ f e, r.register f = .error e →
        r.apply (.register f) = r ∧ r.registerTable [f] = (.error e, r)) ∧
      ∀ (invoke : Invoke η ν σ) (name : String) (args : List Value) (site : CallSite) (s : σ),
        let out := r.callByName invoke name args site s
        (∀ id, r.find? name = some id → out = r.call invoke id args site s) ∧
          (r.find? name = none → out = ⟨.error (.unknownFunctionName name), s, []⟩) ∧
          ((∃ unknown, out.value = .error (.unknownFunctionName unknown)) ↔
            ∀ f ∈ r.toList, f.name ≠ name) := by
  intro r
  have h : r.Indexed := (Indexed.of_isEmpty rfl rfl).runChanges changes
  refine ⟨h.find?_iff, ?_, ?_, h.pairwise_toList, ?_, ?_, ?_, ?_⟩
  · intro id f hf
    obtain ⟨hid, hwf⟩ := h.sound id f hf
    exact ⟨hid, FunctionDef.validate_eq_ok_iff.2 hwf⟩
  · intro f
    rw [h.mem_toList]
    constructor
    · exact fun hf ↦ ⟨f.id, hf⟩
    · rintro ⟨id, hf⟩
      rwa [(h.sound id f hf).1]
  · intro f
    simp [register_eq_ok_iff, FunctionDef.validate_eq_ok_iff]
  · intro f r' hr
    obtain ⟨-, -, -, rfl⟩ := register_eq_ok_iff.1 hr
    refine ⟨?_, ?_, get?_entered r f, find?_entered r f⟩
    · simp [apply, hr]
    · simp [registerTable, hr]
  · intro f e hf
    simp [apply, registerTable, hf]
  · intro invoke name args site s out
    refine ⟨fun id hid ↦ callByName_of_known invoke site s hid,
      fun hnone ↦ callByName_of_unknown invoke site s hnone, ?_⟩
    rw [← h.find?_eq_none_iff]
    exact value_callByName_eq_unknownName_iff invoke site s

end ScriptHost.Registry
