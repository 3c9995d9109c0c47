import ScriptHost.Function.Context

/-!
# The arguments of a call

A call is refused for one reason (`FunctionDef.Refuses`) or accepted (`FunctionDef.Accepts`).  If it
is accepted, its parameters are what the caller gave, and for each place after that the default of
the place.  These are the last defaults (`fill_eq`).  That they have the declared types
(`types_fill`) rests on the defaults, which a call does not look at: it holds of the entries that
can be registered (`FunctionDef.WellFormed`).
-/

namespace ScriptHost

/-! ## Values and types, place by place -/

/-- The first place where a value is not of the type that stands there. -/
structure ClashAt (vs : List Value) (ts : List ValueType) (index : Nat) (v : Value)
    (t : ValueType) : Prop where
  value_eq : vs[index]? = some v
  type_eq : ts[index]? = some t
  differs : v.type ≠ t
  first : ∀ j < index, ∀ u s, vs[j]? = some u → ts[j]? = some s → u.type = s

section Clash

variable {vs : List Value} {ts : List ValueType} {index k : Nat} {u v : Value} {s t : ValueType}

theorem ClashAt.cons (h : ClashAt vs ts index v t) (hfit : u.type = s) :
    ClashAt (u :: vs) (s :: ts) (index + 1) v t where
  value_eq := h.value_eq
  type_eq := h.type_eq
  differs := h.differs
  first j hj u' s' hu hs := by
    cases j with
    | zero =>
      cases hu
      cases hs
      exact hfit
    | succ j => exact h.first j (Nat.lt_of_succ_lt_succ hj) u' s' hu hs

theorem ClashAt.tail (h : ClashAt (u :: vs) (s :: ts) (index + 1) v t) :
    u.type = s ∧ ClashAt vs ts index v t :=
  ⟨h.first 0 (Nat.succ_pos index) u s rfl rfl, h.value_eq, h.type_eq, h.differs,
    fun j hj u' s' hu hs ↦ h.first (j + 1) (Nat.succ_lt_succ hj) u' s' hu hs⟩

/-- Nothing clashes if the types of the values are the first of the types. -/
theorem firstMismatch_eq_none_iff (hlen : vs.length ≤ ts.length) :
    firstMismatch vs ts k = none ↔ vs.map Value.type <+: ts := by
  induction vs generalizing ts k with
  | nil => simp [firstMismatch]
  | cons u vs ih =>
    cases ts with
    | nil => exact absurd hlen (Nat.not_succ_le_zero _)
    | cons s ts =>
      rw [List.map_cons, List.cons_prefix_cons, firstMismatch]
      split
      · rename_i hfit
        rw [ih (Nat.le_of_succ_le_succ hlen)]
        exact ⟨fun h ↦ ⟨hfit, h⟩, And.right⟩
      · rename_i hclash
        exact ⟨nofun, fun h ↦ absurd h.1 hclash⟩

/-- The first clash is what is found. -/
theorem ClashAt.firstMismatch_eq (h : ClashAt vs ts index v t) (k : Nat) :
    firstMismatch vs ts k = some (k + index, t, v.type) := by
  fun_induction firstMismatch vs ts k generalizing index with
  | case1 u vs ts k ih =>
    cases index with
    | zero =>
      cases h.value_eq
      cases h.type_eq
      exact absurd rfl h.differs
    | succ index => rw [ih h.tail.2, Nat.add_right_comm, Nat.add_assoc]
  | case2 u vs s ts k hclash =>
    cases index with
    | zero =>
      cases h.value_eq
      cases h.type_eq
      rfl
    | succ index => exact absurd h.tail.1 hclash
  | case3 vs ts k hend =>
    obtain ⟨u, vs, rfl⟩ : ∃ u us, vs = u :: us :=
      List.exists_cons_of_ne_nil (List.ne_nil_of_mem (List.mem_of_getElem? h.value_eq))
    obtain ⟨s, ts, rfl⟩ : ∃ s ss, ts = s :: ss :=
      List.exists_cons_of_ne_nil (List.ne_nil_of_mem (List.mem_of_getElem? h.type_eq))
    exact (hend u vs s ts rfl rfl).elim

/-- What is found is the first clash. -/
theorem exists_clashAt {j : Nat} (h : firstMismatch vs ts k = some (j, t, s)) :
    ∃ index v, j = k + index ∧ s = v.type ∧ ClashAt vs ts index v t := by
  fun_induction firstMismatch vs ts k with
  | case1 u vs ts k ih =>
    obtain ⟨index, v, rfl, rfl, hclash⟩ := ih h
    exact ⟨index + 1, v, by omega, rfl, hclash.cons rfl⟩
  | case2 u vs s ts k hclash =>
    cases h
    exact ⟨0, u, rfl, rfl, rfl, rfl, hclash, fun j hj ↦ absurd hj (Nat.not_lt_zero j)⟩
  | case3 => cases h

end Clash

/-! ## Entries -/

namespace FunctionDef

variable {η : Type} {f : FunctionDef η} {args : List Value} {e : DispatchError}

/-- An entry that can be registered: no parameter is void, and the defaults are of the types of the
last parameters. -/
structure WellFormed (f : FunctionDef η) : Prop where
  no_void : .void ∉ f.signature.params
  defaults_le : f.defaults.length ≤ f.signature.count
  types_defaults : f.defaults.map Value.type = f.signature.params.drop f.minCount

theorem validate_eq_ok_iff : f.validate = .ok () ↔ f.WellFormed := by
  unfold validate
  cases hvoid : f.signature.params.findIdx? (· = .void) with
  | some index =>
    obtain ⟨hlt, hp, -⟩ := List.findIdx?_eq_some_iff_getElem.1 hvoid
    have hmem : .void ∈ f.signature.params := of_decide_eq_true hp ▸ List.getElem_mem hlt
    exact ⟨nofun, fun h ↦ absurd hmem h.no_void⟩
  | none =>
    have hnone : .void ∉ f.signature.params := fun hmem ↦
      Bool.noConfusion (List.findIdx?_eq_none_iff.1 hvoid _ hmem)
    dsimp only
    split
    · rename_i hmany
      exact ⟨nofun, fun h ↦ absurd h.defaults_le (Nat.not_le_of_lt hmany)⟩
    · rename_i hfew
      have hle : f.defaults.length ≤ f.signature.count := Nat.le_of_not_lt hfew
      have hlen : f.defaults.length = (f.signature.params.drop f.minCount).length := by
        rw [List.length_drop]
        change _ = f.signature.count - (f.signature.count - _)
        omega
      -- As many types stand there as there are defaults, so to fit in front is to be equal.
      have hfit : firstMismatch f.defaults (f.signature.params.drop f.minCount) f.minCount = none ↔
          f.defaults.map Value.type = f.signature.params.drop f.minCount := by
        rw [firstMismatch_eq_none_iff (Nat.le_of_eq hlen)]
        refine ⟨fun h ↦ h.eq_of_length ?_, fun h ↦ h ▸ List.prefix_rfl⟩
        rw [List.length_map, hlen]
      cases hclash : firstMismatch f.defaults (f.signature.params.drop f.minCount) f.minCount with
      | none => exact ⟨fun _ ↦ ⟨hnone, hle, hfit.1 hclash⟩, fun _ ↦ rfl⟩
      | some clash =>
        refine ⟨nofun, fun h ↦ ?_⟩
        rw [hfit.2 h.types_defaults] at hclash
        cases hclash

/-! ## What is refused and what is accepted -/

/-- Why a call of a function is refused: there are too few arguments or too many, or else the first
argument that is not of the type of its parameter. -/
inductive Refuses (f : FunctionDef η) (args : List Value) : DispatchError → Prop where
  | tooFew (h : args.length < f.signature.count - f.defaults.length) :
      Refuses f args
        (.tooFewArguments f.name (f.signature.count - f.defaults.length) args.length)
  | tooMany (h : f.signature.count < args.length) :
      Refuses f args (.tooManyArguments f.name f.signature.count args.length)
  | mismatch (enough : f.signature.count - f.defaults.length ≤ args.length)
      (atMost : args.length ≤ f.signature.count) {index : Nat} {v : Value} {t : ValueType}
      (h : ClashAt args f.signature.params index v t) :
      Refuses f args (.argumentTypeMismatch f.name index t v.type)

/-- As many arguments as the function takes, each of the type of its parameter. -/
structure Accepts (f : FunctionDef η) (args : List Value) : Prop where
  enough : f.minCount ≤ args.length
  atMost : args.length ≤ f.signature.count
  types_args : args.map Value.type <+: f.signature.params

/-- What a native sees of a call. -/
def context (f : FunctionDef η) (args : List Value) (site : CallSite) : CallContext where
  id := f.id
  name := f.name
  signature := f.signature
  defaults := f.defaults
  params := f.fill args
  specified := args.length
  returnValue := .zero f.signature.returnType
  site := site

/-- A call is refused for one reason, or accepted. -/
theorem make_cases (f : FunctionDef η) (args : List Value) (site : CallSite) :
    (∃ e, f.Refuses args e ∧ CallContext.make f args site = .error e) ∨
      (f.Accepts args ∧ CallContext.make f args site = .ok (f.context args site)) := by
  unfold CallContext.make CallContext.checkCount
  by_cases hfew : args.length < f.minCount
  · rw [if_pos hfew]
    exact .inl ⟨_, .tooFew hfew, rfl⟩
  · by_cases hmany : f.maxCount < args.length
    · rw [if_neg hfew, if_pos hmany]
      exact .inl ⟨_, .tooMany hmany, rfl⟩
    · rw [if_neg hfew, if_neg hmany]
      have hmin : f.minCount ≤ args.length := Nat.le_of_not_lt hfew
      have hmax : args.length ≤ f.signature.count := Nat.le_of_not_lt hmany
      dsimp only
      cases hclash : firstMismatch args f.signature.params 0 with
      | none => exact .inr ⟨⟨hmin, hmax, (firstMismatch_eq_none_iff hmax).1 hclash⟩, rfl⟩
      | some clash =>
        obtain ⟨j, t, s⟩ := clash
        obtain ⟨index, v, rfl, rfl, h⟩ := exists_clashAt hclash
        refine .inl ⟨_, .mismatch hmin hmax h, ?_⟩
        rw [Nat.zero_add]

/-- There is no second reason. -/
theorem Refuses.unique {e' : DispatchError} (h : f.Refuses args e) (h' : f.Refuses args e') :
    e = e' := by
  cases h with
  | tooFew hfew => cases h' with
    | tooFew => rfl
    | tooMany | mismatch => omega
  | tooMany hmany => cases h' with
    | tooMany => rfl
    | tooFew | mismatch => omega
  | mismatch hmin hmax hclash => cases h' with
    | tooFew | tooMany => omega
    | mismatch _ _ hclash' =>
      have hsame := (hclash.firstMismatch_eq 0).symm.trans (hclash'.firstMismatch_eq 0)
      simp_all

theorem Accepts.not_refuses (h : f.Accepts args) : ¬f.Refuses args e := by
  rintro (hfew | hmany | ⟨-, -, hclash⟩)
  · exact Nat.not_lt_of_le h.enough hfew
  · exact Nat.not_lt_of_le h.atMost hmany
  · have hnone := (firstMismatch_eq_none_iff (k := 0) h.atMost).2 h.types_args
    rw [hclash.firstMismatch_eq] at hnone
    cases hnone

theorem Refuses.make_eq (h : f.Refuses args e) (site : CallSite) :
    CallContext.make f args site = .error e := by
  rcases make_cases f args site with ⟨e', h', hmake⟩ | ⟨haccepts, -⟩
  · rw [hmake, h.unique h']
  · exact absurd h haccepts.not_refuses

theorem Accepts.make_eq (h : f.Accepts args) (site : CallSite) :
    CallContext.make f args site = .ok (f.context args site) := by
  rcases make_cases f args site with ⟨e, hrefuses, -⟩ | ⟨-, hmake⟩
  · exact absurd hrefuses h.not_refuses
  · exact hmake

theorem accepts_of_not_refuses (h : ∀ e, ¬f.Refuses args e) : f.Accepts args := by
  rcases make_cases f args .none with ⟨e, hrefuses, -⟩ | ⟨haccepts, -⟩
  · exact absurd hrefuses (h e)
  · exact haccepts

/-! ## Parameters -/

/-- The defaults of the places from some place to the last one are the last defaults. -/
theorem filterMap_defaultFor {defaults : List Value} {index omitted count : Nat}
    (hle : defaults.length ≤ count) (hcount : index + omitted = count) :
    (List.range' index omitted).filterMap (defaultFor defaults · count) =
      defaults.drop (index - (count - defaults.length)) := by
  induction omitted generalizing index with
  | zero =>
    rw [List.range'_zero, List.filterMap_nil, List.drop_eq_nil_of_le (by omega)]
  | succ omitted ih =>
    have hrest : (List.range' (index + 1) omitted).filterMap (defaultFor defaults · count) =
        defaults.drop (index + 1 - (count - defaults.length)) := ih (by omega)
    rw [List.range'_succ, List.filterMap_cons]
    by_cases hfirst : count - defaults.length ≤ index
    · have hlt : index - (count - defaults.length) < defaults.length := by omega
      have hnext : index + 1 - (count - defaults.length) =
          index - (count - defaults.length) + 1 := by omega
      have hdefault : defaultFor defaults index count =
          some defaults[index - (count - defaults.length)] := by
        rw [defaultFor, if_pos ⟨hle, hfirst⟩, List.getElem?_eq_getElem hlt]
      rw [hdefault, hrest, hnext]
      exact (List.drop_eq_getElem_cons hlt).symm
    · have hnone : defaultFor defaults index count = none := if_neg fun h ↦ hfirst h.2
      have hall : index - (count - defaults.length) = 0 := by omega
      have hnext : index + 1 - (count - defaults.length) = 0 := by omega
      rw [hnone, hrest, hnext, hall]

/-- What is filled in are the last defaults. -/
theorem fill_eq (hle : f.defaults.length ≤ f.signature.count) (args : List Value) :
    f.fill args = args ++ f.defaults.drop (args.length - f.minCount) := by
  have hmin : f.minCount = f.signature.count - f.defaults.length := rfl
  rw [fill]
  rcases Nat.le_total args.length f.signature.count with hfew | hmany
  · rw [filterMap_defaultFor hle (Nat.add_sub_cancel' hfew), hmin]
  · rw [Nat.sub_eq_zero_of_le hmany, List.range'_zero, List.filterMap_nil,
      List.drop_eq_nil_of_le (by omega)]

/-- What is left out of a call is as much as is missing from the parameters. -/
theorem length_omitted (hf : f.WellFormed) (h : f.Accepts args) :
    (f.defaults.drop (args.length - f.minCount)).length = f.signature.count - args.length := by
  have hle := hf.defaults_le
  have hmin : f.signature.count - f.defaults.length ≤ args.length := h.enough
  have hmax := h.atMost
  rw [List.length_drop]
  change _ - (_ - (f.signature.count - f.defaults.length)) = _
  omega

/-- The parameters have the declared types. -/
theorem types_fill (hf : f.WellFormed) (h : f.Accepts args) :
    (f.fill args).map Value.type = f.signature.params := by
  have hgiven : args.map Value.type = f.signature.params.take args.length := by
    rw [List.prefix_iff_eq_take.1 h.types_args, List.length_map]
  have homitted : (f.defaults.drop (args.length - f.minCount)).map Value.type =
      f.signature.params.drop args.length := by
    rw [List.map_drop, hf.types_defaults, List.drop_drop, Nat.add_sub_cancel' h.enough]
  rw [fill_eq hf.defaults_le, List.map_append, hgiven, homitted, List.take_append_drop]

/-- Parameters of the declared types come from arguments that are accepted. -/
theorem accepts_of_types_fill (hf : f.WellFormed)
    (h : (f.fill args).map Value.type = f.signature.params) : f.Accepts args := by
  have hle := hf.defaults_le
  have hlen : args.length + (f.defaults.length - (args.length - f.minCount)) =
      f.signature.count := by
    have hcount := congrArg List.length h
    rwa [List.length_map, fill_eq hle, List.length_append, List.length_drop] at hcount
  have hmin : f.minCount = f.signature.count - f.defaults.length := rfl
  refine ⟨by omega, by omega, ?_⟩
  rw [← h, fill_eq hle]
  exact (List.prefix_append args _).map Value.type

/-- A call in which nothing is left out is accepted if the types are right. -/
theorem accepts_of_types_eq (h : args.map Value.type = f.signature.params) : f.Accepts args := by
  have hlen : args.length = f.signature.count := by
    rw [← List.length_map Value.type, h]
    rfl
  exact ⟨hlen ▸ Nat.sub_le _ _, Nat.le_of_eq hlen, h ▸ List.prefix_rfl⟩

/-- To give some of the defaults oneself changes no parameter. -/
theorem fill_append_take (hf : f.WellFormed) (h : f.Accepts args) (n : Nat) :
    let given := args ++ (f.defaults.drop (args.length - f.minCount)).take n
    f.Accepts given ∧ f.fill given = f.fill args := by
  intro given
  let omitted := f.defaults.drop (args.length - f.minCount)
  have homitted : omitted.length = f.signature.count - args.length := length_omitted hf h
  have hlen : given.length = args.length + min n omitted.length := by
    rw [List.length_append, List.length_take]
  have hmin := h.enough
  have hmax := h.atMost
  have hfill : f.fill given = f.fill args := by
    have hrest : f.defaults.drop (given.length - f.minCount) = omitted.drop n := by
      have hcount : given.length - f.minCount =
          args.length - f.minCount + min n omitted.length := by omega
      have hcapped : omitted.drop (min n omitted.length) = omitted.drop n :=
        List.drop_eq_drop_iff.2 (by omega)
      rw [hcount, ← List.drop_drop]
      exact hcapped
    rw [fill_eq hf.defaults_le, fill_eq hf.defaults_le, hrest, List.append_assoc,
      List.take_append_drop]
  refine ⟨⟨by omega, by omega, ?_⟩, hfill⟩
  rw [← types_fill hf h, ← hfill, fill_eq hf.defaults_le]
  exact (List.prefix_append _ _).map Value.type

end FunctionDef

end ScriptHost
