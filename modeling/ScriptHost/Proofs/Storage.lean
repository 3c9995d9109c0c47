import ScriptHost.Proofs.Json.Integer
import ScriptHost.Proofs.Json.RoundTrip
import ScriptHost.Storage

/-!
# Stored values read back

A value is stored as a JSON text.  Between the value and the text stands a tree, and each half of
the way is taken back by itself: the text reads back as the tree (`Json.read?_write`), and the tree
as the value (`readValue_writeValue`).  Values hold lists of values, so both halves go by recursion
over a value and over a list of values at once.

Two things can stand in the way.  A number that is not finite is written as nothing, and nothing is
read where a number should be.  And a reader goes down a limited number of levels, of which a value
that holds others takes three.  What meets neither reads back as it was, and what meets one is
refused; nothing reads back as something else (`stored_or_refused`).
-/

namespace ScriptHost

open Json

/-! ## What is inside a value -/

mutual

/-- The single-precision numbers inside a value. -/
def Value.singles : Value → List Single
  | .void => []
  | .int _ => []
  | .float x => [x]
  | .string _ => []
  | .object _ => []
  | .vector v => [v.x, v.y, v.z]
  | .engine _ payload => singlesOf payload
  | .action _ globals locals => singlesOf globals ++ singlesOf locals

def Value.singlesOf : List Value → List Single
  | [] => []
  | v :: vs => v.singles ++ singlesOf vs

end

/-- The single-precision numbers inside a captured state. -/
def ScriptState.singles (s : ScriptState) : List Single :=
  Value.singlesOf s.globals ++ Value.singlesOf s.locals

namespace Json

mutual

/-- How many lists and objects stand inside one another. -/
def Node.depth : Node → Nat
  | .null => 0
  | .bool _ => 0
  | .number _ => 0
  | .text _ => 0
  | .list items => depthItems items + 1
  | .object members => depthMembers members + 1

def depthItems : List Node → Nat
  | [] => 0
  | n :: ns => max n.depth (depthItems ns)

def depthMembers : List (Option String × Node) → Nat
  | [] => 0
  | (_, n) :: rest => max n.depth (depthMembers rest)

end

end Json

/-- Whether a number, if it is finite, reads back from the text that is kept for it. -/
def Single.Keeps (x : Single) : Prop :=
  x.isFinite = true → (Node.ofSingle x).single? = some x

/-- Whether a value can be stored: all numbers inside it are finite, and its stored form goes down
no more than so many levels. -/
def Value.Storable (levels : Nat) (v : Value) : Prop :=
  (∀ x ∈ v.singles, x.isFinite = true) ∧ (Storage.writeValue v).depth ≤ levels

def Value.AllStorable (levels : Nat) (vs : List Value) : Prop :=
  (∀ x ∈ singlesOf vs, x.isFinite = true) ∧ depthItems (Storage.writeValues vs) ≤ levels

/-- Whether a captured state can be stored. -/
def ScriptState.Storable (levels : Nat) (s : ScriptState) : Prop :=
  (∀ x ∈ s.singles, x.isFinite = true) ∧ (Storage.writeState s).depth ≤ levels

namespace Storage

section Numbers

variable {x y : Single}

@[simp] theorem depth_ofSingle (x : Single) : (Node.ofSingle x).depth = 0 := by
  unfold Node.ofSingle
  split <;> rfl

@[simp] theorem depth_ofInt (i : Int) : (Node.ofInt i).depth = 0 := rfl

@[simp] theorem depth_ofString (s : String) : (Node.ofString s).depth = 0 := rfl

/-- What is not finite does not read back at all. -/
theorem single?_ofSingle (hx : x.Keeps) :
    (Node.ofSingle x).single? = some y ↔ x.isFinite = true ∧ x = y := by
  by_cases h : x.isFinite = true
  · rw [hx h, Option.some.injEq]
    exact (and_iff_right h).symm
  · have hnull : Node.ofSingle x = .null := if_neg h
    rw [hnull]
    exact ⟨nofun, fun ⟨h', _⟩ ↦ absurd h' h⟩

theorem readInt32_ofInt (n : Int32) : readInt32 (.ofInt n.toInt) = some n := by
  have hlow := n.le_toInt
  have hhigh := n.toInt_lt
  have hbounds : Int32.minValue.toInt ≤ n.toInt ∧ n.toInt ≤ Int32.maxValue.toInt :=
    ⟨n.minValue_le_toInt, n.toInt_le⟩
  rw [readInt32, readInt, int?_ofInt (by omega) (by omega)]
  dsimp only
  rw [if_pos hbounds, Option.map_some, Int32.ofInt_toInt]

theorem readUInt32_ofInt (n : UInt32) : readUInt32 (.ofInt n.toNat) = some n := by
  have hhigh := n.toNat_lt
  have hbounds : 0 ≤ (n.toNat : Int) ∧ (n.toNat : Int) ≤ UInt32.size - 1 := by
    rw [UInt32.size]
    omega
  rw [readUInt32, readInt, int?_ofInt (by omega) (by omega)]
  dsimp only
  rw [if_pos hbounds, Option.map_some, Int.toNat_natCast, UInt32.ofNat_toNat]

end Numbers

/-! ## Cases and records -/

section Cases

variable {name : String} {content : Node} {levels : Nat} {item : Node → Option Value}

theorem depth_tagged (name : String) (content : Node) :
    (tagged name content).depth = content.depth + 1 := by
  simp [tagged, Node.ofMembers, Node.depth, depthMembers]

/-- A case with content takes a level. -/
theorem readCase_tagged : readCase (levels + 1) (tagged name content) = some (name, content) := rfl

theorem readUnit_tagged (h : name ≠ "Void") :
    readUnit levels (tagged name content) ≠ some "Void" := by
  unfold readUnit
  split <;> simp_all [tagged, Node.ofMembers]

theorem readPlain_tagged (h : name ≠ "Void") :
    readPlain (levels + 1) (tagged name content) =
      match some (name, content) with
      | some ("Int", c) => (readInt32 c).map .int
      | some ("Float", c) => c.single?.map .float
      | some ("String", c) => (readText c).map .string
      | some ("Object", c) => (readUInt32 c).map fun n ↦ .object ⟨n⟩
      | some ("Vector", c) => (readVector levels c).map .vector
      | _ => none := by
  rw [readPlain, if_neg (readUnit_tagged h)]
  rfl

theorem readPlain_zero (h : name ≠ "Void") : readPlain 0 (tagged name content) = none := by
  rw [readPlain, if_neg (readUnit_tagged h)]
  rfl

/-- What holds no other values is read as what holds none. -/
theorem readValue_tagged (hengine : name ≠ "Engine") (hstate : name ≠ "ScriptState") :
    readValue levels (tagged name content) = readPlain levels (tagged name content) := by
  unfold readValue
  split
  · rename_i levels
    cases readPlain (levels + 3) (tagged name content) with
    | some v => rfl
    | none =>
      dsimp only
      rw [readNested, readCase_tagged]
      simp only [Option.bind_eq_bind, Option.bind_some]
      split <;> simp_all
  · rfl

/-- What holds no other values takes a level for its case, and what its content takes. -/
theorem readValue_tagged_eq_some (hvoid : name ≠ "Void") (hengine : name ≠ "Engine")
    (hstate : name ≠ "ScriptState") {u : Value} :
    readValue levels (tagged name content) = some u ↔
      ∃ l, levels = l + 1 ∧ readPlain (l + 1) (tagged name content) = some u := by
  rw [readValue_tagged hengine hstate]
  cases levels with
  | zero => simp [readPlain_zero hvoid]
  | succ l => simp

/-- What holds other values is not read as what holds none. -/
theorem readPlain_nested (h : name = "Engine" ∨ name = "ScriptState") :
    readPlain levels (tagged name content) = none := by
  have hvoid : name ≠ "Void" := by rintro rfl; simp at h
  cases levels with
  | zero => exact readPlain_zero hvoid
  | succ l =>
    rw [readPlain_tagged hvoid]
    rcases h with rfl | rfl <;> rfl

/-- It takes three levels, and what the other values take. -/
theorem readValue_nested_eq_some (h : name = "Engine" ∨ name = "ScriptState") {u : Value} :
    readValue levels (tagged name content) = some u ↔
      ∃ l, levels = l + 3 ∧
        readNested (readValue l) (l + 3) (tagged name content) = some u := by
  unfold readValue
  split
  · rw [readPlain_nested h]
    simp
  · rename_i hfew
    rw [readPlain_nested h]
    simp only [reduceCtorEq, false_iff, not_exists, not_and]
    intro l hl
    exact absurd hl (hfew l)

end Cases

theorem readText_ofString (s : String) : readText (.ofString s) = some s := rfl

theorem readVector_writeVector {v u : Vector3} {levels : Nat}
    (hv : ∀ x ∈ (Value.vector v).singles, x.Keeps) :
    readVector levels (writeVector v) = some u ↔
      ((∀ x ∈ (Value.vector v).singles, x.isFinite = true) ∧ (writeVector v).depth ≤ levels) ∧
        v = u := by
  simp only [Value.singles, List.forall_mem_cons] at hv ⊢
  obtain ⟨hx, hy, hz, -⟩ := hv
  have hdepth : (writeVector v).depth = 1 := by
    simp [writeVector, Node.ofMembers, Node.depth, depthMembers]
  rw [hdepth]
  cases levels with
  | zero => simp [readVector, readRecord]
  | succ l =>
    have hrecord : readRecord ["x", "y", "z"] (l + 1) (writeVector v) =
        some [.ofSingle v.x, .ofSingle v.y, .ofSingle v.z] := rfl
    simp only [readVector, hrecord, Option.bind_eq_bind, Option.bind_some, Option.bind_eq_some_iff,
      single?_ofSingle hx, single?_ofSingle hy, single?_ofSingle hz]
    constructor
    · rintro ⟨_, ⟨hfx, rfl⟩, _, ⟨hfy, rfl⟩, _, ⟨hfz, rfl⟩, hu⟩
      exact ⟨⟨⟨hfx, hfy, hfz, List.forall_mem_nil _⟩, Nat.le_add_left 1 l⟩, Option.some.inj hu⟩
    · rintro ⟨⟨⟨hfx, hfy, hfz, -⟩, -⟩, rfl⟩
      exact ⟨_, ⟨hfx, rfl⟩, _, ⟨hfy, rfl⟩, _, ⟨hfz, rfl⟩, rfl⟩

theorem readKind_title (kind : EngineKind) (levels : Nat) :
    readKind levels (.ofString kind.title) = some kind := by
  cases levels <;> cases kind <;> rfl

theorem readItemsWith_list {item : Node → Option Value} {nodes : List Node} {levels : Nat}
    {vs : List Value} :
    readItemsWith item levels (.list nodes) = some vs ↔ 1 ≤ levels ∧ nodes.mapM item = some vs := by
  cases levels with
  | zero => simp [readItemsWith]
  | succ l => simp [readItemsWith]

/-- A captured state takes two levels, and what its values take. -/
theorem readStateWith_writeState {item : Node → Option Value} {levels : Nat} {s t : ScriptState} :
    readStateWith item levels (writeState s) = some t ↔
      2 ≤ levels ∧ (writeValues s.globals).mapM item = some t.globals ∧
        (writeValues s.locals).mapM item = some t.locals ∧ t.offset = s.offset := by
  cases levels with
  | zero => simp [readStateWith, readRecord]
  | succ l =>
    have hrecord : readRecord ["offset", "globals", "locals"] (l + 1) (writeState s) =
        some [.ofInt s.offset.toNat, .list (writeValues s.globals), .list (writeValues s.locals)] :=
      rfl
    simp only [readStateWith, hrecord, Option.bind_eq_bind, Option.bind_some,
      Option.bind_eq_some_iff, readUInt32_ofInt, Nat.add_sub_cancel, readItemsWith_list]
    constructor
    · rintro ⟨globals, ⟨hlevel, hglobals⟩, locals, ⟨-, hlocals⟩, ht⟩
      cases ht
      exact ⟨by omega, hglobals, hlocals, rfl⟩
    · rintro ⟨hlevel, hglobals, hlocals, hoffset⟩
      refine ⟨t.globals, ⟨by omega, hglobals⟩, t.locals, ⟨by omega, hlocals⟩, ?_⟩
      rw [← hoffset]
      rfl

theorem readNested_engine {item : Node → Option Value} {kind : EngineKind} {payload : List Value}
    {l : Nat} {u : Value} :
    readNested item (l + 3) (writeValue (.engine kind payload)) = some u ↔
      ∃ values, (writeValues payload).mapM item = some values ∧ .engine kind values = u := by
  have hread : readNested item (l + 3) (writeValue (.engine kind payload)) =
      (readKind (l + 1) (.ofString kind.title)).bind fun kind ↦
        (readItemsWith item (l + 1) (.list (writeValues payload))).bind fun values ↦
          some (.engine kind values) := by
    rw [writeValue]
    rfl
  rw [hread, readKind_title, Option.bind_some]
  simp only [Option.bind_eq_some_iff, readItemsWith_list, Option.some.injEq]
  constructor
  · rintro ⟨values, ⟨-, hvalues⟩, rfl⟩
    exact ⟨values, hvalues, rfl⟩
  · rintro ⟨values, hvalues, rfl⟩
    exact ⟨values, ⟨Nat.le_add_left 1 l, hvalues⟩, rfl⟩

theorem readNested_state {item : Node → Option Value} {s : ScriptState} {l : Nat} {u : Value} :
    readNested item (l + 3) (writeValue (.ofState s)) = some u ↔
      ∃ t, readStateWith item (l + 2) (writeState s) = some t ∧ .ofState t = u := by
  have hread : readNested item (l + 3) (writeValue (.ofState s)) =
      (readStateWith item (l + 2) (writeState s)).bind fun t ↦ some (.ofState t) := by
    rw [Value.ofState, writeValue]
    rfl
  simp only [hread, Option.bind_eq_some_iff, Option.some.injEq]

/-! ## Values -/

theorem depth_writeState (s : ScriptState) :
    (writeState s).depth =
      max (depthItems (writeValues s.globals)) (depthItems (writeValues s.locals)) + 2 := by
  simp [writeState, Node.ofMembers, Node.depth, depthMembers]

theorem depth_writeValue_engine (kind : EngineKind) (payload : List Value) :
    (writeValue (.engine kind payload)).depth = depthItems (writeValues payload) + 3 := by
  simp [writeValue, depth_tagged, Node.ofMembers, Node.depth, depthMembers]

theorem depth_writeValue_ofState (s : ScriptState) :
    (writeValue (.ofState s)).depth = (writeState s).depth + 1 := by
  rw [Value.ofState, writeValue, depth_tagged]
  rfl

theorem storable_state_iff {s : ScriptState} {levels : Nat} :
    s.Storable (levels + 2) ↔
      Value.AllStorable levels s.globals ∧ Value.AllStorable levels s.locals := by
  unfold ScriptState.Storable Value.AllStorable
  rw [depth_writeState, ScriptState.singles, List.forall_mem_append, Nat.add_le_add_iff_right,
    Nat.max_le]
  exact and_and_and_comm

/-- A captured state reads back if its values do. -/
theorem readStateWith_eq_some {item : Node → Option Value} {s t : ScriptState} {l : Nat}
    (hglobals : ∀ us, (writeValues s.globals).mapM item = some us ↔
      Value.AllStorable l s.globals ∧ s.globals = us)
    (hlocals : ∀ us, (writeValues s.locals).mapM item = some us ↔
      Value.AllStorable l s.locals ∧ s.locals = us) :
    readStateWith item (l + 2) (writeState s) = some t ↔ s.Storable (l + 2) ∧ s = t := by
  rw [readStateWith_writeState, hglobals, hlocals, storable_state_iff]
  obtain ⟨offset, globals, locals⟩ := s
  obtain ⟨offset', globals', locals'⟩ := t
  simp only [ScriptState.mk.injEq]
  constructor
  · rintro ⟨-, ⟨hg, hg'⟩, ⟨hl, hl'⟩, hoffset⟩
    exact ⟨⟨hg, hl⟩, hoffset.symm, hg', hl'⟩
  · rintro ⟨⟨hg, hl⟩, hoffset, hg', hl'⟩
    exact ⟨Nat.le_add_left 2 l, ⟨hg, hg'⟩, ⟨hl, hl'⟩, hoffset.symm⟩

theorem readValue_void (levels : Nat) : readValue levels (.ofString "Void") = some .void := by
  have hplain : readPlain levels (.ofString "Void") = some .void := by
    rw [readPlain, if_pos]
    cases levels <;> rfl
  unfold readValue
  split
  · rw [hplain]
  · exact hplain

/-- A value that holds no others reads back if its content does. -/
theorem readValue_of_content (name : String) {content : Node} {v u : Value} {levels : Nat}
    (hname : name ∉ ["Void", "Engine", "ScriptState"]) (hwrite : writeValue v = tagged name content)
    (hread : ∀ l, readPlain (l + 1) (tagged name content) = some u ↔
      ((∀ x ∈ v.singles, x.isFinite = true) ∧ content.depth ≤ l) ∧ v = u) :
    readValue levels (writeValue v) = some u ↔ v.Storable levels ∧ v = u := by
  simp only [List.mem_cons, List.not_mem_nil, or_false, not_or] at hname
  obtain ⟨hvoid, hengine, hstate⟩ := hname
  unfold Value.Storable
  rw [hwrite, readValue_tagged_eq_some hvoid hengine hstate, depth_tagged]
  constructor
  · rintro ⟨l, rfl, hl⟩
    obtain ⟨⟨hfinite, hdepth⟩, heq⟩ := (hread l).1 hl
    exact ⟨⟨hfinite, Nat.succ_le_succ hdepth⟩, heq⟩
  · rintro ⟨⟨hfinite, hdepth⟩, heq⟩
    obtain ⟨l, rfl⟩ : ∃ l, levels = l + 1 := Nat.exists_eq_add_one_of_ne_zero (by omega)
    exact ⟨l, rfl, (hread l).2 ⟨⟨hfinite, Nat.le_of_succ_le_succ hdepth⟩, heq⟩⟩

mutual

/-- A value reads back exactly if it can be stored, and nothing else is ever read from its stored
form. -/
theorem readValue_writeValue (v : Value) (hv : ∀ x ∈ v.singles, x.Keeps) (levels : Nat)
    (u : Value) :
    readValue levels (writeValue v) = some u ↔ v.Storable levels ∧ v = u := by
  cases v with
  | void =>
    rw [writeValue, readValue_void]
    simp [Value.Storable, Value.singles, writeValue]
  | int n =>
    refine readValue_of_content "Int" (by decide) (by rw [writeValue]) fun l ↦ ?_
    rw [readPlain_tagged (by decide)]
    simp [readInt32_ofInt, Value.singles]
  | float x =>
    refine readValue_of_content "Float" (by decide) (by rw [writeValue]) fun l ↦ ?_
    rw [readPlain_tagged (by decide)]
    have hx : x.Keeps := hv x (by simp [Value.singles])
    simp [single?_ofSingle hx, Value.singles, and_assoc]
  | string s =>
    refine readValue_of_content "String" (by decide) (by rw [writeValue]) fun l ↦ ?_
    rw [readPlain_tagged (by decide)]
    simp [readText_ofString, Value.singles]
  | object id =>
    refine readValue_of_content "Object" (by decide) (by rw [writeValue]) fun l ↦ ?_
    rw [readPlain_tagged (by decide)]
    simp [readUInt32_ofInt, Value.singles]
  | vector v =>
    refine readValue_of_content "Vector" (by decide) (by rw [writeValue]) fun l ↦ ?_
    rw [readPlain_tagged (by decide)]
    simp [readVector_writeVector hv, and_assoc]
  | engine kind payload =>
    have hpayload := mapM_writeValues payload hv
    obtain ⟨content, hwrite⟩ : ∃ c, writeValue (.engine kind payload) = tagged "Engine" c :=
      ⟨_, by rw [writeValue]⟩
    rw [hwrite, readValue_nested_eq_some (.inl rfl), Value.Storable, depth_writeValue_engine]
    simp only [← hwrite, readNested_engine, hpayload, Value.AllStorable]
    constructor
    · rintro ⟨l, rfl, _, ⟨⟨hfinite, hdepth⟩, rfl⟩, rfl⟩
      exact ⟨⟨hfinite, Nat.add_le_add_right hdepth 3⟩, rfl⟩
    · rintro ⟨⟨hfinite, hdepth⟩, rfl⟩
      exact ⟨levels - 3, by omega, payload, ⟨⟨hfinite, by omega⟩, rfl⟩, rfl⟩
  | action offset globals locals =>
    let s : ScriptState := ⟨offset, globals, locals⟩
    have hglobals := mapM_writeValues globals fun x hx ↦ hv x (List.mem_append_left _ hx)
    have hlocals := mapM_writeValues locals fun x hx ↦ hv x (List.mem_append_right _ hx)
    have hstate : ∀ l t, readStateWith (readValue l) (l + 2) (writeState s) = some t ↔
        s.Storable (l + 2) ∧ s = t := fun l t ↦ readStateWith_eq_some (hglobals l) (hlocals l)
    have hwrite : writeValue (.ofState s) = tagged "ScriptState" (writeState s) := by
      rw [Value.ofState, writeValue]
      rfl
    change readValue levels (writeValue (.ofState s)) = some u ↔
      Value.Storable levels (.ofState s) ∧ .ofState s = u
    rw [hwrite, readValue_nested_eq_some (.inr rfl), Value.Storable, depth_writeValue_ofState]
    simp only [← hwrite, readNested_state, hstate, ScriptState.Storable]
    constructor
    · rintro ⟨l, rfl, _, ⟨⟨hfinite, hdepth⟩, rfl⟩, rfl⟩
      exact ⟨⟨hfinite, Nat.succ_le_succ hdepth⟩, rfl⟩
    · rintro ⟨⟨hfinite, hdepth⟩, rfl⟩
      have htwo : 2 ≤ (writeState s).depth := by rw [depth_writeState]; omega
      exact ⟨levels - 3, by omega, s, ⟨⟨hfinite, by omega⟩, rfl⟩, rfl⟩

theorem mapM_writeValues (vs : List Value) (hvs : ∀ x ∈ Value.singlesOf vs, x.Keeps)
    (levels : Nat) (us : List Value) :
    (writeValues vs).mapM (readValue levels) = some us ↔ Value.AllStorable levels vs ∧ vs = us := by
  cases vs with
  | nil => simp [writeValues, Value.AllStorable, Value.singlesOf, depthItems]
  | cons v vs =>
    rw [Value.singlesOf, List.forall_mem_append] at hvs
    have hhead := readValue_writeValue v hvs.1 levels
    have htail := mapM_writeValues vs hvs.2 levels
    simp only [writeValues, List.mapM_cons, Option.bind_eq_bind, Option.bind_eq_some_iff, hhead,
      htail, Option.pure_def, Option.some.injEq, Value.Storable, Value.AllStorable, Value.singlesOf,
      List.forall_mem_append, depthItems, Nat.max_le]
    constructor
    · rintro ⟨_, ⟨⟨hf, hd⟩, rfl⟩, _, ⟨⟨hf', hd'⟩, rfl⟩, rfl⟩
      exact ⟨⟨⟨hf, hf'⟩, hd, hd'⟩, rfl⟩
    · rintro ⟨⟨⟨hf, hf'⟩, hd, hd'⟩, rfl⟩
      exact ⟨v, ⟨⟨hf, hd⟩, rfl⟩, vs, ⟨⟨hf', hd'⟩, rfl⟩, rfl⟩

end

theorem readState_writeState {s t : ScriptState} (hs : ∀ x ∈ s.singles, x.Keeps) {levels : Nat} :
    readState levels (writeState s) = some t ↔ s.Storable levels ∧ s = t := by
  have hglobals := mapM_writeValues s.globals fun x hx ↦ hs x (List.mem_append_left _ hx)
  have hlocals := mapM_writeValues s.locals fun x hx ↦ hs x (List.mem_append_right _ hx)
  by_cases hlevels : 2 ≤ levels
  · obtain ⟨l, rfl⟩ := Nat.exists_eq_add_of_le' hlevels
    exact readStateWith_eq_some (hglobals l) (hlocals l)
  · rw [readState, readStateWith_writeState, ScriptState.Storable, depth_writeState]
    constructor
    · exact fun h ↦ absurd h.1 hlevels
    · rintro ⟨⟨-, hdepth⟩, -⟩
      omega

/-! ## Texts -/

theorem writable_tagged {name : String} {content : Node} (h : content.Writable) :
    (tagged name content).Writable :=
  .object (by simpa using h)

theorem writable_ofInt (i : Int) : (Node.ofInt i).Writable :=
  .number (by rw [parseToken_repr]; rfl)

theorem writable_ofSingle {x : Single} (hx : x.Keeps) : (Node.ofSingle x).Writable := by
  unfold Node.ofSingle
  split
  · rename_i hfinite
    have hread := hx hfinite
    rw [Node.ofSingle, if_pos hfinite, Node.single?, Option.bind_eq_some_iff] at hread
    obtain ⟨n, hn, -⟩ := hread
    exact .number (Option.isSome_of_eq_some hn)
  · exact .null

theorem writable_writeState {s : ScriptState} (hglobals : ∀ n ∈ writeValues s.globals, n.Writable)
    (hlocals : ∀ n ∈ writeValues s.locals, n.Writable) : (writeState s).Writable := by
  refine .object ?_
  simp only [List.forall_mem_cons]
  exact ⟨writable_ofInt _, .list hglobals, .list hlocals, List.forall_mem_nil _⟩

mutual

theorem writable_writeValue (v : Value) (hv : ∀ x ∈ v.singles, x.Keeps) :
    (writeValue v).Writable := by
  cases v with
  | void => exact .text "Void"
  | int n => exact writable_tagged (writable_ofInt _)
  | float x => exact writable_tagged (writable_ofSingle (hv x (by simp [Value.singles])))
  | string s => exact writable_tagged (.text s)
  | object id => exact writable_tagged (writable_ofInt _)
  | vector v =>
    simp only [Value.singles, List.forall_mem_cons] at hv
    obtain ⟨hx, hy, hz, -⟩ := hv
    refine writable_tagged (.object ?_)
    simp only [List.forall_mem_cons]
    exact ⟨writable_ofSingle hx, writable_ofSingle hy, writable_ofSingle hz, List.forall_mem_nil _⟩
  | engine kind payload =>
    have hpayload := writable_writeValues payload hv
    rw [writeValue]
    refine writable_tagged (.object ?_)
    simp only [List.forall_mem_cons]
    exact ⟨.text kind.title, .list hpayload, List.forall_mem_nil _⟩
  | action offset globals locals =>
    have hglobals := writable_writeValues globals fun x hx ↦ hv x (List.mem_append_left _ hx)
    have hlocals := writable_writeValues locals fun x hx ↦ hv x (List.mem_append_right _ hx)
    exact writable_tagged (writable_writeState (s := ⟨offset, globals, locals⟩) hglobals hlocals)

theorem writable_writeValues (vs : List Value) (hvs : ∀ x ∈ Value.singlesOf vs, x.Keeps) :
    ∀ n ∈ writeValues vs, n.Writable := by
  cases vs with
  | nil => exact List.forall_mem_nil _
  | cons v vs =>
    rw [Value.singlesOf, List.forall_mem_append] at hvs
    rw [writeValues, List.forall_mem_cons]
    exact ⟨writable_writeValue v hvs.1, writable_writeValues vs hvs.2⟩

end

instance (levels : Nat) (v : Value) : Decidable (v.Storable levels) :=
  inferInstanceAs (Decidable (_ ∧ _))

instance (levels : Nat) (s : ScriptState) : Decidable (s.Storable levels) :=
  inferInstanceAs (Decidable (_ ∧ _))

theorem load?_write {α : Type} {read : Node → Option α} {n : Node} (h : n.Writable) :
    load? read n.write = read n := by
  rw [load?, read?_write h, Option.bind_some]

/-- What is stored reads back as it was, or not at all.  The text kept for a value, however deep
values are nested in it and whatever strings and numbers it holds, reads back as that very value if
all single-precision numbers inside are finite and the reader can follow its nesting; otherwise it
is refused.  The same holds of captured states.  It is taken for granted that a finite number reads
back from its own text. -/
theorem stored_or_refused (v : Value) (s : ScriptState) (hv : ∀ x ∈ v.singles, x.Keeps)
    (hs : ∀ x ∈ s.singles, x.Keeps) :
    loadValue? (saveValue v) = (if v.Storable maxLevels then some v else none) ∧
      loadState? (saveState s) = if s.Storable maxLevels then some s else none := by
  constructor
  · rw [loadValue?, saveValue, load?_write (writable_writeValue v hv)]
    ext u
    rw [readValue_writeValue v hv]
    split <;> simp_all
  · have hwritable : (writeState s).Writable :=
      writable_writeState (writable_writeValues _ fun x hx ↦ hs x (List.mem_append_left _ hx))
        (writable_writeValues _ fun x hx ↦ hs x (List.mem_append_right _ hx))
    rw [loadState?, saveState, load?_write hwritable]
    ext t
    rw [readState_writeState hs]
    split <;> simp_all

/-- A value with escapes, a negative zero and the numbers at the top, and a state with something
inside that is no number. -/
theorem stored_or_refused_nested :
    let negZero : Single := ⟨0x80000000⟩
    let tenth : Single := ⟨0x3dcccccd⟩
    let tiniest : Single := ⟨1⟩
    let v : Value := .engine .effect
      [.action 7 [.string "\"a\\b\u0001\n", .object .self, .object .invalid]
        [.float negZero, .vector ⟨tenth, tiniest, negZero⟩, .int (-2147483648)], .void]
    let s : ScriptState := ⟨0, [v], [.engine .talent [.float .indeterminate]]⟩
    (∀ x ∈ v.singles, x.Keeps) ∧ (∀ x ∈ s.singles, x.Keeps) ∧
      loadValue? (saveValue v) = some v ∧ loadState? (saveState s) = none := by
  intro negZero tenth tiniest v s
  have hkeeps : ∀ x ∈ s.singles, x.Keeps := by
    unfold Single.Keeps
    decide +kernel
  have hv : ∀ x ∈ v.singles, x.Keeps := fun x hx ↦
    hkeeps x (List.mem_append_left _ (List.mem_append_left _ hx))
  have hstorable : v.Storable maxLevels := by decide +kernel
  have hrefused : ¬s.Storable maxLevels := by decide +kernel
  obtain ⟨hvalue, hstate⟩ := stored_or_refused v s hv hkeeps
  rw [if_pos hstorable] at hvalue
  rw [if_neg hrefused] at hstate
  exact ⟨hv, hkeeps, hvalue, hstate⟩

end Storage

end ScriptHost
