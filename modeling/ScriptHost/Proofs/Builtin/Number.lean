import Mathlib.Algebra.Ring.Int.Defs
import Mathlib.Data.List.Induction
import Mathlib.Data.List.TakeWhile
import ScriptHost.Builtin.Number
import ScriptHost.Proofs.Json.Integer

/-!
# Numbers at the front of a text

A text that begins with a number is read up to the last digit of that number.  Digits are counted up
in 64 bits, and the count stops growing at the limit: because a digit more never makes a numeral
smaller, it is the same whether the limit is applied at each digit or once at the end
(`toInt_saturate`).  So what is read is the number as written, held within 32 bits
(`LeadingParts.toInt_leadingInt`), and what was written for a number is read as that number
(`leadingInt_toString_append`).
-/

namespace ScriptHost

open Text

/-! ## Counting up digits -/

theorem digitValue_le {c : Char} (h : isDecimalDigit c = true) : digitValue c ≤ 9 := by
  rw [isDecimalDigit, Bool.and_eq_true, decide_eq_true_eq, decide_eq_true_eq] at h
  have hlast : c.toNat ≤ '9'.toNat := h.2
  rw [digitValue, if_pos h]
  exact Nat.sub_le_sub_right hlast _

theorem toInt_digitLimit : digitLimit.toInt = 2 ^ 31 := by decide

theorem toInt_min (a b : Int64) : (min a b).toInt = min a.toInt b.toInt := by
  change (if a ≤ b then a else b).toInt = _
  split
  · rename_i h
    rw [Int64.le_iff_toInt_le] at h
    omega
  · rename_i h
    rw [Int64.le_iff_toInt_le] at h
    omega

section Step

variable {n : Int64} {c : Char}

/-- Ten times a count below the limit is far from the ends of 64 bits. -/
theorem toInt_mul_ten (hlow : 0 ≤ n.toInt) (hhigh : n.toInt ≤ 2 ^ 31) :
    (n * 10).toInt = n.toInt * 10 := by
  have hten : (10 : Int64).toInt = 10 := by decide
  rw [Int64.toInt_mul, hten]
  exact Int.bmod_eq_of_le (by omega) (by omega)

/-- So is the sum with the next digit. -/
theorem toInt_mul_ten_add (hlow : 0 ≤ n.toInt) (hhigh : n.toInt ≤ 2 ^ 31)
    (hc : isDecimalDigit c = true) :
    (n * 10 + Int64.ofNat (digitValue c)).toInt = n.toInt * 10 + digitValue c := by
  have hdigit := digitValue_le hc
  rw [Int64.toInt_add, toInt_mul_ten hlow hhigh, Int64.toInt_ofNat_of_lt (by omega)]
  exact Int.bmod_eq_of_le (by omega) (by omega)

end Step

theorem saturate_append (digits : List Char) (c : Char) :
    saturate (digits ++ [c]) =
      min (saturate digits * 10 + Int64.ofNat (digitValue c)) digitLimit :=
  List.foldl_append

theorem numeral_append (base : Nat) (digits : List Char) (c : Char) :
    numeral base (digits ++ [c]) = numeral base digits * base + digitValue c :=
  List.foldl_append

/-- The count is the numeral, up to the limit. -/
theorem toInt_saturate {digits : List Char} (h : ∀ c ∈ digits, isDecimalDigit c = true) :
    (saturate digits).toInt = min (numeral 10 digits : Int) (2 ^ 31) := by
  induction digits using List.reverseRecOn with
  | nil => decide
  | append_singleton digits c ih =>
    have hc : isDecimalDigit c = true := h c (by simp)
    have hcount := ih fun d hd ↦ h d (List.mem_append_left _ hd)
    rw [saturate_append, toInt_min, toInt_mul_ten_add (by omega) (by omega) hc, toInt_digitLimit,
      numeral_append, hcount]
    push_cast
    -- Once the numeral is past the limit, ten times the limit is past it as well.
    omega

/-- Counting up these digits never leaves 64 bits: not by the product nor by the sum at any digit,
and not by the change of sign at the end. -/
structure CountsExactly (digits : List Char) : Prop where
  mul : ∀ front c, front ++ [c] <+: digits →
    (saturate front * 10).toInt = (saturate front).toInt * 10
  add : ∀ front c, front ++ [c] <+: digits →
    (saturate front * 10 + Int64.ofNat (digitValue c)).toInt =
      (saturate front).toInt * 10 + digitValue c
  neg : (-saturate digits).toInt = -(saturate digits).toInt

theorem countsExactly {digits : List Char} (h : ∀ c ∈ digits, isDecimalDigit c = true) :
    CountsExactly digits := by
  have hbounds : ∀ {front : List Char} {c : Char}, front ++ [c] <+: digits →
      isDecimalDigit c = true ∧ 0 ≤ (saturate front).toInt ∧ (saturate front).toInt ≤ 2 ^ 31 := by
    intro front c hfront
    have hcount := toInt_saturate fun d hd ↦ h d (hfront.subset (List.mem_append_left _ hd))
    exact ⟨h c (hfront.subset (by simp)), by omega, by omega⟩
  refine ⟨fun front c hfront ↦ ?_, fun front c hfront ↦ ?_, ?_⟩
  · obtain ⟨-, hlow, hhigh⟩ := hbounds hfront
    exact toInt_mul_ten hlow hhigh
  · obtain ⟨hc, hlow, hhigh⟩ := hbounds hfront
    exact toInt_mul_ten_add hlow hhigh hc
  · have hcount := toInt_saturate h
    rw [Int64.toInt_neg]
    exact Int.bmod_eq_of_le (by omega) (by omega)

theorem toInt_clampInt32 (n : Int) :
    (clampInt32 n).toInt = max (-2 ^ 31) (min (2 ^ 31 - 1) n) := by
  have hmin : Int32.minValue.toInt = -2 ^ 31 := by decide
  have hmax : Int32.maxValue.toInt = 2 ^ 31 - 1 := by decide
  rw [clampInt32, hmin, hmax]
  exact Int32.toInt_ofInt_of_le (by omega) (by omega)

/-! ## The parts of a text -/

/-- How a text is read: the blanks it starts with, at most one sign, all digits that follow, and
what is left. -/
structure LeadingParts (text : String) (blanks : List Char) (sign : Option Char)
    (digits rest : List Char) : Prop where
  toList_eq : text.toList = blanks ++ (sign.toList ++ (digits ++ rest))
  blanks_blank : ∀ c ∈ blanks, isBlank c = true
  blanks_end : ∀ c ∈ (sign.toList ++ (digits ++ rest)).head?, isBlank c = false
  sign_mem : ∀ c ∈ sign, c = '-' ∨ c = '+'
  sign_end : sign = none → ∀ c ∈ (digits ++ rest).head?, c ≠ '-' ∧ c ≠ '+'
  digits_digit : ∀ c ∈ digits, isDecimalDigit c = true
  digits_end : ∀ c ∈ rest.head?, isDecimalDigit c = false

/-- A natural with a sign: only a minus makes it negative. -/
def signed (sign : Option Char) (n : Nat) : Int :=
  if sign = some '-' then -n else n

/-- A run of characters that pass a test is all that is taken, if the next one fails it. -/
theorem takeWhile_append_of_head {p : Char → Bool} {cs rest : List Char}
    (h : ∀ c ∈ cs, p c = true) (hrest : ∀ c ∈ rest.head?, p c = false) :
    (cs ++ rest).takeWhile p = cs := by
  rw [List.takeWhile_append_of_pos h]
  cases rest with
  | nil => simp
  | cons c rest => simp [hrest c rfl]

theorem dropWhile_append_of_head {p : Char → Bool} {cs rest : List Char}
    (h : ∀ c ∈ cs, p c = true) (hrest : ∀ c ∈ rest.head?, p c = false) :
    (cs ++ rest).dropWhile p = rest := by
  rw [List.dropWhile_append_of_pos h]
  cases rest with
  | nil => rfl
  | cons c rest => simp [hrest c rfl]

theorem head?_dropWhile_eq_false {p : Char → Bool} {cs : List Char} :
    ∀ c ∈ (cs.dropWhile p).head?, p c = false := by
  intro c hc
  have := List.head?_dropWhile_not p cs
  rw [Option.mem_def.1 hc] at this
  simpa using this

theorem exists_sign (cs : List Char) :
    ∃ (sign : Option Char) (after : List Char), cs = sign.toList ++ after ∧
      (∀ c ∈ sign, c = '-' ∨ c = '+') ∧
      (sign = none → ∀ c ∈ after.head?, c ≠ '-' ∧ c ≠ '+') := by
  cases cs with
  | nil => exact ⟨none, [], rfl, by simp, by simp⟩
  | cons c cs =>
    by_cases hc : c = '-' ∨ c = '+'
    · exact ⟨some c, cs, rfl, by simpa using hc, by simp⟩
    · exact ⟨none, c :: cs, rfl, by simp, by simpa [not_or] using hc⟩

/-- Every text has such parts. -/
theorem exists_leadingParts (text : String) :
    ∃ blanks sign digits rest, LeadingParts text blanks sign digits rest := by
  obtain ⟨sign, after, hafter, hmem, hnone⟩ := exists_sign (text.toList.dropWhile isBlank)
  have hdigits : after.takeWhile isDecimalDigit ++ after.dropWhile isDecimalDigit = after :=
    List.takeWhile_append_dropWhile
  refine ⟨text.toList.takeWhile isBlank, sign, after.takeWhile isDecimalDigit,
    after.dropWhile isDecimalDigit, ?_, fun c ↦ List.mem_takeWhile_imp, ?_, hmem, ?_,
    fun c ↦ List.mem_takeWhile_imp, head?_dropWhile_eq_false⟩
  · rw [hdigits, ← hafter, List.takeWhile_append_dropWhile]
  · rw [hdigits, ← hafter]
    exact head?_dropWhile_eq_false
  · rw [hdigits]
    exact hnone

namespace LeadingParts

variable {text : String} {blanks : List Char} {sign : Option Char} {digits rest : List Char}

theorem dropBlanks_eq (h : LeadingParts text blanks sign digits rest) :
    dropBlanks text.toList = sign.toList ++ (digits ++ rest) := by
  rw [dropBlanks, h.toList_eq, dropWhile_append_of_head h.blanks_blank h.blanks_end]

theorem takeWhile_eq (h : LeadingParts text blanks sign digits rest) :
    (digits ++ rest).takeWhile isDecimalDigit = digits :=
  takeWhile_append_of_head h.digits_digit h.digits_end

/-- The count gets the sign, and is held within 32 bits. -/
theorem leadingInt_eq (h : LeadingParts text blanks sign digits rest) :
    leadingInt text =
      clampInt32 (if sign = some '-' then -saturate digits else saturate digits).toInt := by
  have hcs := h.dropBlanks_eq
  have htake := h.takeWhile_eq
  rw [leadingInt, hcs]
  cases sign with
  | none =>
    rw [if_neg (by simp), Option.toList_none, List.nil_append]
    split
    · rename_i cs heq
      exact absurd rfl (h.sign_end rfl '-' (by simp [heq])).1
    · rename_i cs heq
      exact absurd rfl (h.sign_end rfl '+' (by simp [heq])).2
    · rw [htake]
  | some c =>
    rcases h.sign_mem c rfl with rfl | rfl
    · change clampInt32 (-saturate ((digits ++ rest).takeWhile isDecimalDigit)).toInt = _
      rw [htake, if_pos rfl]
    · change clampInt32 (saturate ((digits ++ rest).takeWhile isDecimalDigit)).toInt = _
      rw [htake, if_neg (by decide)]

/-- What is read is the number as written, as far as 32 bits go. -/
theorem toInt_leadingInt (h : LeadingParts text blanks sign digits rest) :
    (leadingInt text).toInt =
      max (-2 ^ 31) (min (2 ^ 31 - 1) (signed sign (numeral 10 digits))) := by
  have hcount := toInt_saturate h.digits_digit
  rw [h.leadingInt_eq, toInt_clampInt32, signed]
  split
  · rw [(countsExactly h.digits_digit).neg, hcount]
    omega
  · rw [hcount]
    omega

end LeadingParts

/-! ## Where the sign ends -/

/-- The sign of a text is one byte: to look for it at the first byte is to look at the first
character, and after it another character starts, or the text ends. -/
structure SignIsByte (text : String) : Prop where
  minus_iff : text.toByteArray.data[0]? = some 0x2d ↔ text.toList.head? = some '-'
  plus_iff : text.toByteArray.data[0]? = some 0x2b ↔ text.toList.head? = some '+'
  isValid : text.toByteArray.data[0]? = some 0x2d ∨ text.toByteArray.data[0]? = some 0x2b →
    (⟨1⟩ : String.Pos.Raw).IsValid text

/-- Characters of more than one byte start with a byte that is no character by itself. -/
theorem head?_utf8EncodeChar (c : Char) :
    ∃ b, (String.utf8EncodeChar c).head? = some b ∧
      (c.toNat < 128 → b.toNat = c.toNat) ∧ (128 ≤ c.toNat → 128 ≤ b.toNat) := by
  have hval : c.val.toNat = c.toNat := rfl
  rw [String.utf8EncodeChar, hval]
  -- By the number of bytes: the first one carries the value, or marks that others follow.
  split_ifs <;>
    · refine ⟨_, rfl, fun hc ↦ ?_, fun hc ↦ ?_⟩
      · rw [UInt8.toNat_ofNat']
        omega
      · rw [UInt8.toNat_ofNat']
        omega

/-- The first byte of a text is that of its first character. -/
theorem firstByte_eq (text : String) :
    text.toByteArray.data[0]? = text.toList.head?.bind fun c ↦ (String.utf8EncodeChar c).head? := by
  have hbytes : text.toByteArray = text.toList.utf8Encode := by
    rw [← String.toByteArray_ofList, String.ofList_toList]
  rw [hbytes]
  cases text.toList with
  | nil => rfl
  | cons c cs =>
    obtain ⟨b, hb, -⟩ := head?_utf8EncodeChar c
    obtain ⟨bs, hbs⟩ := List.head?_eq_some_iff.1 hb
    simp [List.utf8Encode, hbs]

/-- A byte below 128 is a character by itself. -/
theorem firstByte_eq_iff {text : String} {b : UInt8} {c : Char} (hc : c.toNat < 128)
    (hb : b.toNat = c.toNat) :
    text.toByteArray.data[0]? = some b ↔ text.toList.head? = some c := by
  rw [firstByte_eq]
  cases text.toList.head? with
  | none => simp
  | some d =>
    obtain ⟨b', hb', hone, hmore⟩ := head?_utf8EncodeChar d
    rw [Option.bind_some, hb', Option.some_inj, Option.some_inj]
    constructor
    · rintro rfl
      have hd : d.toNat < 128 := by
        by_contra hd
        have := hmore (by omega)
        omega
      exact Char.toNat_inj.1 (by rw [← hone hd, hb])
    · rintro rfl
      exact UInt8.toNat_inj.1 ((hone hc).trans hb.symm)

theorem signIsByte (text : String) : SignIsByte text := by
  have hminus : text.toByteArray.data[0]? = some 0x2d ↔ text.toList.head? = some '-' :=
    firstByte_eq_iff (by decide) rfl
  have hplus : text.toByteArray.data[0]? = some 0x2b ↔ text.toList.head? = some '+' :=
    firstByte_eq_iff (by decide) rfl
  refine ⟨hminus, hplus, fun hsign ↦ String.Pos.Raw.isValid_iff_exists_take_toList.2 ⟨1, ?_⟩⟩
  rw [hminus, hplus] at hsign
  rcases hsign with hhead | hhead <;>
    · obtain ⟨cs, hcs⟩ := List.head?_eq_some_iff.1 hhead
      rw [hcs]
      rfl

/-! ## Reading back -/

theorem isBlank_eq_false {c : Char} (h : isDecimalDigit c = true) : isBlank c = false := by
  rw [isDecimalDigit, Bool.and_eq_true, decide_eq_true_eq, decide_eq_true_eq] at h
  have hlow : '0'.toNat ≤ c.toNat := h.1
  have hhigh : c.toNat ≤ '9'.toNat := h.2
  have hzero : '0'.toNat = 0x30 := rfl
  have hnine : '9'.toNat = 0x39 := rfl
  simp only [isBlank, Bool.or_eq_false_iff, Bool.and_eq_false_iff, decide_eq_false_iff_not,
    beq_eq_false_iff_ne]
  omega

/-- The text of a whole number is its sign and its digits, whatever follows that is no digit. -/
theorem leadingParts_toString_append (i : Int) {t : String}
    (ht : ∀ c ∈ t.toList.head?, isDecimalDigit c = false) :
    LeadingParts (toString i ++ t) [] (if i < 0 then some '-' else none)
      (Nat.toDigits 10 i.natAbs) t.toList := by
  obtain ⟨d, ds, hds⟩ := List.exists_cons_of_ne_nil (Nat.toDigits_ne_nil (n := i.natAbs) (b := 10))
  have hdigits : ∀ c ∈ Nat.toDigits 10 i.natAbs, isDecimalDigit c = true :=
    fun c ↦ Json.isDecimalDigit_of_mem
  have hd : isDecimalDigit d = true := hdigits d (by simp [hds])
  refine ⟨?_, by simp, ?_, ?_, ?_, hdigits, ht⟩
  · rw [String.toList_append, Json.toList_toString_int]
    split <;> simp
  · split
    · simp
      decide
    · simp [hds, isBlank_eq_false hd]
  · split <;> simp
  · rw [hds]
    rintro - c hc
    obtain rfl : d = c := by simpa using hc
    exact ⟨fun h ↦ absurd (h ▸ hd) (by decide), fun h ↦ absurd (h ▸ hd) (by decide)⟩

theorem signed_natAbs (i : Int) : signed (if i < 0 then some '-' else none) i.natAbs = i := by
  rw [signed]
  by_cases hneg : i < 0
  · rw [if_pos hneg, if_pos rfl]
    omega
  · rw [if_neg hneg, if_neg (by simp)]
    omega

/-- What was written for a number is read as that number. -/
theorem leadingInt_toString_append (n : Int32) {t : String}
    (ht : ∀ c ∈ t.toList.head?, isDecimalDigit c = false) :
    leadingInt (toString n.toInt ++ t) = n := by
  have hlow := n.le_toInt
  have hhigh := n.toInt_lt
  refine Int32.toInt_inj.1 ?_
  rw [(leadingParts_toString_append n.toInt ht).toInt_leadingInt, Json.numeral_toDigits,
    signed_natAbs]
  omega

end ScriptHost
