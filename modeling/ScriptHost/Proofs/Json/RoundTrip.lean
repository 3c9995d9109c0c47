import ScriptHost.Json.Number

/-!
# JSON texts read back

What is written for a tree reads back as that tree (`read?_write`), as long as its strings are texts
and its numbers are numbers.  Every reader takes its own part off the front and leaves what follows,
whatever that is: after a string anything may follow, after a number nothing that would go on with
it (`Stops`).  So the readers compose as the writers do.
-/

namespace ScriptHost.Json

open Text

/-! ## Strings -/

/-- What a character is read as once it is written: a control character without a letter of its own
comes back as a code unit. -/
def Piece.ofChar (c : Char) : Piece :=
  if c.toNat < 0x20 ∧ c ∉ ['\x08', '\x0c', '\n', '\r', '\t'] then .unit c.toNat else .char c

/-- Control characters have two digits. -/
theorem hex4_control : ∀ n < 0x20,
    let digits := ['0', '0', (n / 16).digitChar, (n % 16).digitChar]
    (hex4 n).toList = digits ∧ digits.all isHexDigit = true ∧ numeral 16 digits = n := by
  decide +kernel

theorem readPieces_escapeChar (c : Char) (rest : List Char) :
    readPieces ((escapeChar c).toList ++ rest) =
      (readPieces rest).map fun (ps, rest) ↦ (.ofChar c :: ps, rest) := by
  by_cases hletter : c ∈ ['"', '\\', '\x08', '\x0c', '\n', '\r', '\t']
  · simp only [List.mem_cons, List.not_mem_nil, or_false] at hletter
    rcases hletter with rfl | rfl | rfl | rfl | rfl | rfl | rfl <;> rfl
  · have hescape : escapeChar c =
        if c.toNat < 0x20 then "\\u" ++ hex4 c.toNat else String.singleton c := by
      simp_all [escapeChar]
    have hplain : c ∉ ['\x08', '\x0c', '\n', '\r', '\t'] := by simp_all
    rw [hescape]
    by_cases hcontrol : c.toNat < 0x20
    · obtain ⟨hdigits, hhex, hvalue⟩ := hex4_control c.toNat hcontrol
      rw [if_pos hcontrol, String.toList_append, hdigits, Piece.ofChar,
        if_pos ⟨hcontrol, hplain⟩]
      change (if _ then _ else _) = _
      rw [if_pos hhex, hvalue]
      rfl
    · have hread : readPieces (c :: rest) = if c.toNat < 0x20 then none
          else (readPieces rest).map fun (ps, rest) ↦ (.char c :: ps, rest) := by
        rw [readPieces] <;> simp_all
      rw [if_neg hcontrol, String.toList_singleton, Piece.ofChar, if_neg fun h ↦ hcontrol h.1]
      exact hread.trans (if_neg hcontrol)

theorem joinPieces_ofChar (c : Char) (ps : List Piece) :
    joinPieces (.ofChar c :: ps) = (joinPieces ps).map (c :: ·) := by
  unfold Piece.ofChar
  split
  · rename_i h
    have hlow : ¬0xd800 ≤ c.toNat := by omega
    have hlow' : ¬0xdc00 ≤ c.toNat := by omega
    rcases ps with _ | ⟨_ | trail, rest⟩ <;> simp [joinPieces, hlow, hlow']
  · rfl

theorem joinPieces_map_ofChar (cs : List Char) : joinPieces (cs.map .ofChar) = some cs := by
  induction cs with
  | nil => rfl
  | cons c cs ih => rw [List.map_cons, joinPieces_ofChar, ih, Option.map_some]

theorem readPieces_escaped (cs rest : List Char) :
    readPieces ((cs.map escapeChar).flatMap String.toList ++ '"' :: rest) =
      some (cs.map .ofChar, rest) := by
  induction cs with
  | nil => rfl
  | cons c cs ih =>
    rw [List.map_cons, List.flatMap_cons, List.append_assoc, readPieces_escapeChar, ih]
    rfl

/-- The characters of a string from its opening quote on. -/
theorem toList_writeString (s : String) :
    (writeString s).toList =
      '"' :: ((s.toList.map escapeChar).flatMap String.toList ++ ['"']) := by
  simp [writeString, String.toList_join]

/-- A string reads back, whatever comes after its closing quote. -/
theorem readString_write (s : String) (rest : List Char) :
    readString ((s.toList.map escapeChar).flatMap String.toList ++ '"' :: rest) =
      some (some s, rest) := by
  simp [readString, readPieces_escaped, joinPieces_map_ofChar]

/-! ## Numbers -/

/-- Nothing that would go on with a number stands at the front of a text. -/
def Stops (rest : List Char) : Prop :=
  ∀ c ∈ rest.head?, isDecimalDigit c = false ∧ c ≠ '.' ∧ c ≠ 'e' ∧ c ≠ 'E'

theorem stops_nil : Stops [] := nofun

theorem stops_of_mem {c : Char} (h : c ∈ [',', ']', '\x7d']) (rest : List Char) :
    Stops (c :: rest) := by
  rintro _ ⟨⟩
  simp only [List.mem_cons, List.not_mem_nil, or_false] at h
  rcases h with rfl | rfl | rfl <;> decide

section Stops

variable {cs rest left ds : List Char}

theorem Stops.takeWhile_append (h : Stops rest) (cs : List Char) :
    (cs ++ rest).takeWhile isDecimalDigit = cs.takeWhile isDecimalDigit ∧
      (cs ++ rest).dropWhile isDecimalDigit = cs.dropWhile isDecimalDigit ++ rest := by
  induction cs with
  | nil =>
    cases rest with
    | nil => exact ⟨rfl, rfl⟩
    | cons c rest =>
      have hc : isDecimalDigit c = false := (h c rfl).1
      simp [hc]
  | cons c cs ih => cases hc : isDecimalDigit c <;> simp [hc, ih]

theorem digits1_append (h : Stops rest) (hcs : digits1 cs = some (ds, left)) :
    digits1 (cs ++ rest) = some (ds, left ++ rest) := by
  unfold digits1 at hcs ⊢
  obtain ⟨htake, hdrop⟩ := h.takeWhile_append cs
  rw [htake, hdrop]
  cases hds : cs.takeWhile isDecimalDigit with
  | nil => simp [hds] at hcs
  | cons d ds' =>
    simp only [hds, Option.some.injEq, Prod.mk.injEq] at hcs ⊢
    obtain ⟨rfl, rfl⟩ := hcs
    exact ⟨rfl, rfl⟩

theorem digits1_head (hcs : digits1 cs = some (ds, left)) :
    ∃ c cs', cs = c :: cs' ∧ isDecimalDigit c = true := by
  cases cs with
  | nil => cases hcs
  | cons c cs' =>
    cases hc : isDecimalDigit c with
    | false => simp [digits1, hc] at hcs
    | true => exact ⟨c, cs', rfl, hc⟩

theorem wholePart_head (hcs : wholePart cs = some (ds, left)) :
    ∃ c cs', cs = c :: cs' ∧ isDecimalDigit c = true := by
  unfold wholePart at hcs
  split at hcs
  · exact ⟨'0', _, rfl, rfl⟩
  · exact digits1_head hcs

theorem wholePart_append (h : Stops rest) (hcs : wholePart cs = some (ds, left)) :
    wholePart (cs ++ rest) = some (ds, left ++ rest) := by
  unfold wholePart at hcs
  split at hcs
  · rename_i cs'
    split at hcs
    · cases hcs
    · rename_i hzero
      cases hcs
      have hnext : ¬(left ++ rest).head?.any isDecimalDigit = true := by
        cases left with
        | nil =>
          cases rest with
          | nil => simp
          | cons c rest => simp [(h c rfl).1]
        | cons c left => exact hzero
      exact if_neg hnext
  · rename_i hzero
    obtain ⟨c, cs', rfl, -⟩ := digits1_head hcs
    have hc : c ≠ '0' := fun hc ↦ hzero cs' (by rw [hc])
    have hwhole : wholePart (c :: (cs' ++ rest)) = digits1 (c :: (cs' ++ rest)) := by
      unfold wholePart
      split
      · rename_i heq
        cases heq
        exact absurd rfl hc
      · rfl
    exact hwhole.trans (digits1_append h hcs)

theorem map_digits1_append {α : Type} {f : List Char → α} {a : α} (h : Stops rest)
    (hcs : (digits1 cs).map (fun p ↦ (f p.1, p.2)) = some (a, left)) :
    (digits1 (cs ++ rest)).map (fun p ↦ (f p.1, p.2)) = some (a, left ++ rest) := by
  obtain ⟨⟨ds, left'⟩, hds, heq⟩ := Option.map_eq_some_iff.1 hcs
  cases heq
  rw [digits1_append h hds]
  rfl

theorem fractionPart_append {fraction : Option (List Char)} (h : Stops rest)
    (hcs : fractionPart cs = some (fraction, left)) :
    fractionPart (cs ++ rest) = some (fraction, left ++ rest) := by
  unfold fractionPart at hcs
  split at hcs
  · exact map_digits1_append (f := some) h hcs
  · rename_i hpoint
    cases hcs
    unfold fractionPart
    split
    · rename_i heq
      cases cs with
      | nil => exact absurd rfl (h '.' (by simp_all)).2.1
      | cons c cs =>
        cases heq
        exact (hpoint _ rfl).elim
    · rfl

theorem exponentPart_append {exponent : Option Int} (h : Stops rest)
    (hcs : exponentPart cs = some (exponent, left)) :
    exponentPart (cs ++ rest) = some (exponent, left ++ rest) := by
  cases cs with
  | nil =>
    cases hcs
    cases rest with
    | nil => rfl
    | cons c rest =>
      obtain ⟨-, -, hlower, hupper⟩ := h c rfl
      exact if_neg (not_or.2 ⟨hlower, hupper⟩)
  | cons c cs =>
    by_cases hc : c = 'e' ∨ c = 'E'
    · simp only [exponentPart, List.cons_append, if_pos hc] at hcs ⊢
      split at hcs
      · exact map_digits1_append (f := fun ds ↦ some (numeral 10 ds : Int)) h hcs
      · exact map_digits1_append (f := fun ds ↦ some (-(numeral 10 ds : Int))) h hcs
      · rename_i hplus hminus
        have hdigits := map_digits1_append (f := fun ds ↦ some (numeral 10 ds : Int)) h hcs
        obtain ⟨⟨ds, left'⟩, hds, -⟩ := Option.map_eq_some_iff.1 hcs
        obtain ⟨d, cs', rfl, hd⟩ := digits1_head hds
        split
        · rename_i heq
          cases heq
          exact (hplus _ rfl).elim
        · rename_i heq
          cases heq
          exact (hminus _ rfl).elim
        · exact hdigits
    · simp only [exponentPart, if_neg hc] at hcs
      cases hcs
      exact if_neg hc

/-- A number is read in the same way whatever comes after it. -/
theorem readNumeral_append {n : Numeral} (h : Stops rest) (hcs : readNumeral cs = some (n, left)) :
    readNumeral (cs ++ rest) = some (n, left ++ rest) := by
  simp only [readNumeral, Option.bind_eq_bind, Option.bind_eq_some_iff, Prod.exists] at hcs ⊢
  obtain ⟨whole, cs₁, hwhole, fraction, cs₂, hfraction, exponent, cs₃, hexponent, heq⟩ := hcs
  cases heq
  have hwhole' := wholePart_append h hwhole
  cases cs with
  | nil => cases hwhole
  | cons c cs =>
    refine ⟨whole, cs₁ ++ rest, ?_, fraction, cs₂ ++ rest, fractionPart_append h hfraction,
      exponent, left ++ rest, exponentPart_append h hexponent, rfl⟩
    rw [← hwhole', List.cons_append, List.head?_cons, List.head?_cons]
    split <;> rfl

/-- A number begins with a digit or a minus. -/
theorem readNumeral_head {n : Numeral} (hcs : readNumeral cs = some (n, left)) :
    ∃ c cs', cs = c :: cs' ∧ (c = '-' ∨ isDecimalDigit c = true) := by
  simp only [readNumeral, Option.bind_eq_bind, Option.bind_eq_some_iff, Prod.exists] at hcs
  obtain ⟨whole, cs₁, hwhole, -⟩ := hcs
  split at hwhole
  · rename_i hminus
    cases cs with
    | nil => cases hminus
    | cons c cs => exact ⟨c, cs, rfl, .inl (by simpa using hminus)⟩
  · obtain ⟨c, cs', hcs, hc⟩ := wholePart_head hwhole
    exact ⟨c, cs', hcs, .inr hc⟩

end Stops

theorem parseToken_isSome {token : String} (h : (parseToken token).isSome) :
    ∃ n, readNumeral token.toList = some (n, []) := by
  unfold parseToken at h
  split at h
  · exact ⟨_, ‹_›⟩
  · cases h

theorem readToken_append {token : String} (h : (parseToken token).isSome) {rest : List Char}
    (hrest : Stops rest) : readToken (token.toList ++ rest) = some (token, rest) := by
  obtain ⟨n, hn⟩ := parseToken_isSome h
  rw [readToken, readNumeral_append hrest hn]
  simp

/-! ## Trees -/

/-- A tree that can be written: its strings and names are texts, and its numbers are numbers. -/
inductive Node.Writable : Node → Prop where
  | null : Writable .null
  | bool (b : Bool) : Writable (.bool b)
  | number {token : String} (valid : (parseToken token).isSome) : Writable (.number token)
  | text (s : String) : Writable (.text (some s))
  | list {items : List Node} (items_writable : ∀ n ∈ items, Writable n) : Writable (.list items)
  | object {members : List (String × Node)} (members_writable : ∀ m ∈ members, Writable m.2) :
      Writable (.ofMembers members)

theorem writeItems_eq (items : List Node) : writeItems items = items.map Node.write := by
  induction items with
  | nil => rfl
  | cons n rest ih => rw [writeItems, ih, List.map_cons]

theorem writeMembers_eq (members : List (String × Node)) :
    writeMembers (members.map fun (name, n) ↦ (some name, n)) =
      members.map fun (name, n) ↦ writeString name ++ ":" ++ n.write := by
  induction members with
  | nil => rfl
  | cons m rest ih =>
    rw [List.map_cons, writeMembers, ih]
    rfl

/-- The characters of items, with commas between them. -/
def itemChars (items : List Node) : List Char :=
  [','].intercalate (items.map (·.write.toList))

/-- The characters of members, with commas between them. -/
def memberChars (members : List (String × Node)) : List Char :=
  [','].intercalate (members.map fun m ↦ (writeString m.1).toList ++ ':' :: m.2.write.toList)

@[simp] theorem itemChars_singleton (n : Node) : itemChars [n] = n.write.toList :=
  List.intercalate_singleton

@[simp] theorem itemChars_cons_cons (n m : Node) (items : List Node) :
    itemChars (n :: m :: items) = n.write.toList ++ ',' :: itemChars (m :: items) := by
  simp [itemChars]

@[simp] theorem memberChars_singleton (name : String) (n : Node) :
    memberChars [(name, n)] = (writeString name).toList ++ ':' :: n.write.toList :=
  List.intercalate_singleton

@[simp] theorem memberChars_cons_cons (name : String) (n : Node) (m : String × Node)
    (members : List (String × Node)) :
    memberChars ((name, n) :: m :: members) =
      (writeString name).toList ++ ':' :: n.write.toList ++ ',' :: memberChars (m :: members) := by
  simp [memberChars]

/-- Items begin with the first of them. -/
theorem itemChars_cons (n : Node) (items : List Node) :
    ∃ cs, itemChars (n :: items) = n.write.toList ++ cs := by
  cases items with
  | nil => exact ⟨[], by simp⟩
  | cons m items => exact ⟨_, itemChars_cons_cons n m items⟩

/-- Members begin with a name. -/
theorem memberChars_cons (m : String × Node) (members : List (String × Node)) :
    ∃ cs, memberChars (m :: members) = '"' :: cs := by
  obtain ⟨name, n⟩ := m
  cases members with
  | nil => exact ⟨_, by rw [memberChars_singleton, toList_writeString, List.cons_append]⟩
  | cons m members =>
    exact ⟨_, by rw [memberChars_cons_cons, toList_writeString, List.cons_append, List.cons_append]⟩

theorem toList_write_list (items : List Node) :
    (Node.list items).write.toList = '[' :: (itemChars items ++ [']']) := by
  rw [Node.write, writeItems_eq]
  simp [itemChars, String.toList_intercalate, Function.comp_def]

theorem toList_write_ofMembers (members : List (String × Node)) :
    (Node.ofMembers members).write.toList = '\x7b' :: (memberChars members ++ ['\x7d']) := by
  rw [Node.ofMembers, Node.write, writeMembers_eq]
  simp [memberChars, String.toList_intercalate, Function.comp_def]

/-- What a number begins with, no other tree begins with, nor is it a blank or a bracket. -/
theorem not_mem_of_number {c : Char} (h : c = '-' ∨ isDecimalDigit c = true) :
    c ∉ [' ', '\n', '\t', '\r', '"', '[', ']', '\x7b', 'n', 't', 'f'] := by
  intro hmem
  simp only [List.mem_cons, List.not_mem_nil, or_false] at hmem
  rcases hmem with rfl | rfl | rfl | rfl | rfl | rfl | rfl | rfl | rfl | rfl | rfl <;>
    exact absurd h (by decide)

theorem skipBlanks_cons {c : Char} (h : isBlank c = false) (cs : List Char) :
    skipBlanks (c :: cs) = c :: cs := by
  simp [skipBlanks, h]

/-- What stands at the front of a tree that is written: no blank, and nothing that closes a list. -/
theorem Node.Writable.head {n : Node} (h : n.Writable) :
    ∃ c cs, n.write.toList = c :: cs ∧ isBlank c = false ∧ c ≠ ']' := by
  cases h with
  | null => exact ⟨'n', _, rfl, rfl, by decide⟩
  | bool b => cases b <;> exact ⟨_, _, rfl, rfl, by decide⟩
  | number valid =>
    obtain ⟨n, hn⟩ := parseToken_isSome valid
    obtain ⟨c, cs, hcs, hc⟩ := readNumeral_head hn
    have hother := not_mem_of_number hc
    exact ⟨c, cs, hcs, by simp_all [isBlank], by simp_all⟩
  | text s => exact ⟨'"', _, toList_writeString s, rfl, by decide⟩
  | list => exact ⟨'[', _, toList_write_list _, rfl, by decide⟩
  | object => exact ⟨'\x7b', _, toList_write_ofMembers _, rfl, by decide⟩

theorem readNode_number {c : Char} (hc : c = '-' ∨ isDecimalDigit c = true) (limit : Nat)
    (cs : List Char) :
    readNode (limit + 1) (c :: cs) =
      (readToken (c :: cs)).map fun (token, rest) ↦ (.number token, rest) := by
  have hother := not_mem_of_number hc
  have hblank : isBlank c = false := by simp_all [isBlank]
  rw [readNode, skipBlanks_cons hblank]
  split <;> simp_all

theorem readNode_list {c : Char} (hblank : isBlank c = false) (hc : c ≠ ']') (limit : Nat)
    (cs : List Char) :
    readNode (limit + 1) ('[' :: c :: cs) =
      (readItems limit (c :: cs)).map fun (ns, rest) ↦ (.list ns, rest) := by
  have hopen : skipBlanks ('[' :: c :: cs) = '[' :: c :: cs := skipBlanks_cons rfl _
  simp only [readNode, hopen, skipBlanks_cons hblank]
  split <;> simp_all

section Steps

variable {limit : Nat} {cs rest rest' : List Char} {n : Node} {name : Option String}

theorem readItems_comma (hn : readNode limit cs = some (n, ',' :: rest)) :
    readItems (limit + 1) cs = (readItems limit rest).map fun (ns, rest) ↦ (n :: ns, rest) := by
  rw [readItems, hn]
  rfl

theorem readItems_close (hn : readNode limit cs = some (n, ']' :: rest)) :
    readItems (limit + 1) cs = some ([n], rest) := by
  rw [readItems, hn]
  rfl

theorem readMembers_comma (hname : readString cs = some (name, ':' :: rest))
    (hn : readNode limit rest = some (n, ',' :: rest')) :
    readMembers (limit + 1) ('"' :: cs) =
      (readMembers limit rest').map fun (ms, rest) ↦ ((name, n) :: ms, rest) := by
  simp [readMembers, skipBlanks, isBlank, hname, hn]

theorem readMembers_close (hname : readString cs = some (name, ':' :: rest))
    (hn : readNode limit rest = some (n, '\x7d' :: rest')) :
    readMembers (limit + 1) ('"' :: cs) = some ([(name, n)], rest') := by
  simp [readMembers, skipBlanks, isBlank, hname, hn]

end Steps

/-- A tree reads back off the front of a text, given twice as many levels as it has characters. -/
def Node.ReadsBack (n : Node) : Prop :=
  ∀ limit rest, 2 * n.write.toList.length ≤ limit → Stops rest →
    readNode limit (n.write.toList ++ rest) = some (n, rest)

theorem readItems_itemChars {n : Node} {items : List Node}
    (h : ∀ n' ∈ n :: items, n'.ReadsBack) (limit : Nat)
    (hlimit : 2 * (itemChars (n :: items)).length ≤ limit) (rest : List Char) :
    readItems (limit + 1) (itemChars (n :: items) ++ ']' :: rest) = some (n :: items, rest) := by
  obtain ⟨hn, hitems⟩ := List.forall_mem_cons.1 h
  induction items generalizing n limit with
  | nil =>
    rw [itemChars_singleton] at hlimit ⊢
    exact readItems_close (hn limit _ hlimit (stops_of_mem (by simp) rest))
  | cons m items ih =>
    rw [itemChars_cons_cons, List.length_append, List.length_cons] at hlimit
    obtain ⟨limit, rfl⟩ : ∃ l, limit = l + 1 := Nat.exists_eq_add_one_of_ne_zero (by omega)
    have hmore := ih hitems limit (by omega) (hitems m List.mem_cons_self)
      fun n' hn' ↦ hitems n' (List.mem_cons_of_mem m hn')
    rw [itemChars_cons_cons, List.append_assoc, List.cons_append,
      readItems_comma (hn _ _ (by omega) (stops_of_mem (by simp) _)), hmore]
    rfl

theorem readMembers_memberChars {m : String × Node} {members : List (String × Node)}
    (h : ∀ m' ∈ m :: members, m'.2.ReadsBack) (limit : Nat)
    (hlimit : 2 * (memberChars (m :: members)).length ≤ limit) (rest : List Char) :
    readMembers (limit + 1) (memberChars (m :: members) ++ '\x7d' :: rest) =
      some ((m :: members).map fun (name, n) ↦ (some name, n), rest) := by
  obtain ⟨hm, hmembers⟩ := List.forall_mem_cons.1 h
  induction members generalizing m limit with
  | nil =>
    obtain ⟨name, n⟩ := m
    have hn : n.ReadsBack := hm
    rw [memberChars_singleton, toList_writeString] at hlimit ⊢
    simp only [List.length_append, List.length_cons, List.append_assoc, List.cons_append,
      List.nil_append] at hlimit ⊢
    exact readMembers_close (readString_write name _)
      (hn limit _ (by omega) (stops_of_mem (by simp) rest))
  | cons m' members ih =>
    obtain ⟨name, n⟩ := m
    have hn : n.ReadsBack := hm
    rw [memberChars_cons_cons, toList_writeString] at hlimit ⊢
    simp only [List.length_append, List.length_cons, List.append_assoc, List.cons_append,
      List.nil_append] at hlimit ⊢
    obtain ⟨limit, rfl⟩ : ∃ l, limit = l + 1 := Nat.exists_eq_add_one_of_ne_zero (by omega)
    have hmore := ih hmembers limit (by omega) (hmembers m' List.mem_cons_self)
      fun m hm ↦ hmembers m (List.mem_cons_of_mem m' hm)
    rw [readMembers_comma (readString_write name _)
      (hn _ _ (by omega) (stops_of_mem (by simp) _)), hmore]
    rfl

/-- A tree has a character at least, so there is a level to read it. -/
theorem Node.Writable.readsBack_of_succ {n : Node} (h : n.Writable)
    (hsucc : ∀ limit rest, 2 * n.write.toList.length ≤ limit + 1 → Stops rest →
      readNode (limit + 1) (n.write.toList ++ rest) = some (n, rest)) : n.ReadsBack := by
  intro limit rest hlimit
  obtain ⟨c, cs, hcs, -⟩ := h.head
  obtain ⟨limit, rfl⟩ : ∃ l, limit = l + 1 := by
    rw [hcs, List.length_cons] at hlimit
    exact Nat.exists_eq_add_one_of_ne_zero (by omega)
  exact hsucc limit rest hlimit

/-- What is written for a tree reads back, whatever comes after it. -/
theorem Node.Writable.readsBack {n : Node} (h : n.Writable) : n.ReadsBack := by
  induction h with
  | null => exact readsBack_of_succ .null fun _ _ _ _ ↦ rfl
  | bool b => exact readsBack_of_succ (.bool b) fun _ _ _ _ ↦ by cases b <;> rfl
  | @number token valid =>
    refine readsBack_of_succ (.number valid) fun limit rest _ hrest ↦ ?_
    obtain ⟨n, hn⟩ := parseToken_isSome valid
    obtain ⟨c, cs, hcs, hc⟩ := readNumeral_head hn
    have htoken := readToken_append valid hrest
    rw [hcs] at htoken
    rw [write, hcs, List.cons_append, readNode_number hc, ← List.cons_append, htoken]
    rfl
  | text s =>
    refine readsBack_of_succ (.text s) fun limit rest _ _ ↦ ?_
    rw [write, Option.getD_some, toList_writeString, List.cons_append, List.append_assoc]
    change (readString _).map _ = _
    rw [List.cons_append, readString_write]
    rfl
  | @list items writable ih =>
    refine readsBack_of_succ (.list writable) fun limit rest hlimit _ ↦ ?_
    rw [toList_write_list] at hlimit ⊢
    cases items with
    | nil => rfl
    | cons n items =>
      simp only [List.length_append, List.length_cons, List.length_nil] at hlimit
      obtain ⟨limit, rfl⟩ : ∃ l, limit = l + 1 := Nat.exists_eq_add_one_of_ne_zero (by omega)
      have hitems := readItems_itemChars ih limit (by omega) rest
      obtain ⟨cs, hcs⟩ := itemChars_cons n items
      obtain ⟨c, cs', hn, hblank, hclose⟩ := (writable n List.mem_cons_self).head
      rw [hcs, hn] at hitems ⊢
      simp only [List.cons_append, List.append_assoc, List.nil_append] at hitems ⊢
      rw [readNode_list hblank hclose, hitems]
      rfl
  | @object members writable ih =>
    refine readsBack_of_succ (.object writable) fun limit rest hlimit _ ↦ ?_
    rw [toList_write_ofMembers] at hlimit ⊢
    cases members with
    | nil => rfl
    | cons m members =>
      simp only [List.length_append, List.length_cons, List.length_nil] at hlimit
      obtain ⟨limit, rfl⟩ : ∃ l, limit = l + 1 := Nat.exists_eq_add_one_of_ne_zero (by omega)
      have hmembers := readMembers_memberChars ih limit (by omega) rest
      obtain ⟨cs, hcs⟩ := memberChars_cons m members
      rw [hcs] at hmembers ⊢
      simp only [List.cons_append, List.append_assoc, List.nil_append] at hmembers ⊢
      change (readMembers _ _).map _ = _
      rw [hmembers]
      rfl

/-- What is written for a tree is a text that reads back as that tree. -/
theorem read?_write {n : Node} (h : n.Writable) : read? n.write = some n := by
  have hread := h.readsBack (2 * n.write.toList.length + 2) [] (by omega) stops_nil
  rw [List.append_nil] at hread
  rw [read?, hread]
  rfl

end ScriptHost.Json
