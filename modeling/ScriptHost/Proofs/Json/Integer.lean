import ScriptHost.Json.Number

/-!
# Whole numbers read back

The text of a whole number is a number of JSON, and stands for that whole number as long as it fits
64 bits (`int?_ofInt`).
-/

namespace ScriptHost.Json

open Text

/-- The digits of a number are digits. -/
theorem isDecimalDigit_of_mem {n : Nat} {c : Char} (h : c ∈ Nat.toDigits 10 n) :
    isDecimalDigit c = true :=
  Nat.isDigit_of_mem_toDigits (by decide) (by decide) h

/-- They stand for the number. -/
theorem numeral_toDigits (n : Nat) : numeral 10 (Nat.toDigits 10 n) = n := by
  have hfold : ∀ (ds : List Char) (start : Nat), (∀ c ∈ ds, isDecimalDigit c = true) →
      ds.foldl (fun n c ↦ n * 10 + digitValue c) start = Nat.ofDigitChars 10 ds start := by
    intro ds
    induction ds with
    | nil => exact fun _ _ ↦ rfl
    | cons d ds ih =>
      intro start hds
      obtain ⟨hd, hds⟩ := List.forall_mem_cons.1 hds
      have hvalue : digitValue d = d.toNat - '0'.toNat := by
        rw [isDecimalDigit, Bool.and_eq_true, decide_eq_true_eq, decide_eq_true_eq] at hd
        exact if_pos hd
      rw [List.foldl_cons, ih _ hds, Nat.ofDigitChars_cons, hvalue, Nat.mul_comm]
  rw [numeral, hfold _ 0 fun c ↦ isDecimalDigit_of_mem, Nat.ofDigitChars_ten_toDigits]

/-- Only zero begins with a zero. -/
theorem eq_zero_of_toDigits {n : Nat} {cs : List Char} (h : Nat.toDigits 10 n = '0' :: cs) :
    n = 0 := by
  induction n using Nat.strongRecOn generalizing cs with
  | ind n ih =>
    rw [Nat.toDigits_eq_if (by decide)] at h
    split at h
    · simp only [List.cons.injEq, Nat.digitChar_eq_zero] at h
      exact h.1
    · rename_i hn
      cases hhigh : Nat.toDigits 10 (n / 10) with
      | nil => exact absurd hhigh Nat.toDigits_ne_nil
      | cons c ds =>
        rw [hhigh] at h
        cases h
        have := ih (n / 10) (by omega) hhigh
        omega

theorem wholePart_toDigits (n : Nat) :
    wholePart (Nat.toDigits 10 n) = some (Nat.toDigits 10 n, []) := by
  have hdigits : digits1 (Nat.toDigits 10 n) = some (Nat.toDigits 10 n, []) := by
    have hall : ∀ c ∈ Nat.toDigits 10 n, isDecimalDigit c = true := fun c ↦ isDecimalDigit_of_mem
    have htake : (Nat.toDigits 10 n ++ []).takeWhile isDecimalDigit = _ :=
      List.takeWhile_append_of_pos hall
    have hdrop : (Nat.toDigits 10 n ++ []).dropWhile isDecimalDigit = _ :=
      List.dropWhile_append_of_pos hall
    rw [List.append_nil, List.takeWhile_nil, List.append_nil] at htake
    rw [List.append_nil, List.dropWhile_nil] at hdrop
    rw [digits1, htake, hdrop]
    cases hds : Nat.toDigits 10 n with
    | nil => exact absurd hds Nat.toDigits_ne_nil
    | cons d ds => rfl
  unfold wholePart
  split
  · rename_i hzero
    cases eq_zero_of_toDigits hzero
    cases hzero
    rfl
  · exact hdigits

/-- The digits of a whole number, with or without a minus, are a number without point and
exponent. -/
theorem readNumeral_toDigits (n : Nat) (negative : Bool) :
    readNumeral ((if negative then ['-'] else []) ++ Nat.toDigits 10 n) =
      some (⟨negative, Nat.toDigits 10 n, none, none⟩, []) := by
  cases negative with
  | true => simp [readNumeral, wholePart_toDigits, fractionPart, exponentPart]
  | false =>
    have hminus : (Nat.toDigits 10 n).head? ≠ some '-' := fun h ↦
      absurd (isDecimalDigit_of_mem (List.mem_of_mem_head? h)) (by decide)
    simp [readNumeral, hminus, wholePart_toDigits, fractionPart, exponentPart]

/-- The text of a whole number is a minus, if it is negative, and its digits. -/
theorem toList_toString_int (i : Int) :
    (toString i).toList = (if i < 0 then ['-'] else []) ++ Nat.toDigits 10 i.natAbs := by
  cases i with
  | ofNat n => simp [Int.toString_eq_repr, Int.repr]
  | negSucc n => simp [Int.toString_eq_repr, Int.repr, Int.negSucc_lt_zero]

theorem parseToken_repr (i : Int) :
    parseToken (toString i) = some ⟨decide (i < 0), Nat.toDigits 10 i.natAbs, none, none⟩ := by
  have htext := readNumeral_toDigits i.natAbs (decide (i < 0))
  simp only [decide_eq_true_eq] at htext
  rw [parseToken, toList_toString_int, htext]

/-- A whole number that fits 64 bits reads back. -/
theorem int?_ofInt {i : Int} (hlow : -0x8000000000000000 ≤ i) (hhigh : i < 0x10000000000000000) :
    (Node.ofInt i).int? = some i := by
  have hsize : UInt64.size = 0x10000000000000000 := rfl
  rw [Node.ofInt, Node.int?, parseToken_repr, Option.bind_some, Numeral.toInt?]
  dsimp only
  rw [if_neg (by simp), numeral_toDigits, hsize]
  by_cases hneg : i < 0
  · rw [if_pos (decide_eq_true hneg), if_pos (by omega)]
    exact congrArg some (by omega)
  · rw [if_neg (by simpa using hneg), if_pos (by omega)]
    exact congrArg some (by omega)

end ScriptHost.Json
