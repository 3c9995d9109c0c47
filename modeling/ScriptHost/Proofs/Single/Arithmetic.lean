import ScriptHost.Proofs.Single

/-!
# What sums and differences can be

An exact value is rounded to a number or to an infinity (`Single.isNaN_ofFraction`), so what is not
a number comes out of an operation only if it went in, or where infinities cancel
(`Single.isNaN_add_iff`, `Single.isNaN_sub_iff`).  A sum of numbers without a minus has none
(`Single.isNegative_add`), whatever they are.
-/

namespace ScriptHost.Single

variable {x y : Single} {negative : Bool}

/-! ## Signs and magnitudes -/

theorem toNat_bits_ofParts (negative : Bool) (m : ℕ) :
    (ofParts negative m).bits.toNat = m % signBit + if negative then signBit else 0 := by
  refine UInt32.toNat_ofNat_of_lt' ?_
  change _ < 2 ^ 32
  unfold signBit
  split <;> omega

@[simp]
theorem isNegative_ofParts (negative : Bool) (m : ℕ) :
    (ofParts negative m).isNegative = negative := by
  rw [isNegative, toNat_bits_ofParts, signBit]
  cases negative <;> simp
  omega

@[simp]
theorem magnitude_ofParts (negative : Bool) (m : ℕ) :
    (ofParts negative m).magnitude = m % signBit := by
  rw [magnitude, toNat_bits_ofParts, signBit]
  cases negative <;> simp

theorem magnitude_mod (x : Single) : x.magnitude % signBit = x.magnitude :=
  Nat.mod_mod ..

@[simp]
theorem isNegative_abs (x : Single) : x.abs.isNegative = false :=
  isNegative_ofParts ..

@[simp]
theorem magnitude_abs (x : Single) : x.abs.magnitude = x.magnitude := by
  rw [abs, magnitude_ofParts, magnitude_mod]

@[simp]
theorem isNegative_neg (x : Single) : x.neg.isNegative = !x.isNegative :=
  isNegative_ofParts ..

@[simp]
theorem magnitude_neg (x : Single) : x.neg.magnitude = x.magnitude := by
  rw [neg, magnitude_ofParts, magnitude_mod]

@[simp]
theorem isNaN_quiet (h : x.isNaN = true) : x.quiet.isNaN = true := by
  simp only [isNaN, decide_eq_true_eq] at h ⊢
  refine Nat.lt_of_lt_of_le h ?_
  change x.bits.toNat % 2 ^ 31 ≤ (x.bits.toNat ||| 0x00400000) % 2 ^ 31
  rw [Nat.or_mod_two_pow]
  exact Nat.left_le_or

theorem isNegative_quiet (h : x.isNegative = false) : x.quiet.isNegative = false := by
  simp only [isNegative, decide_eq_false_iff_not, not_le] at h ⊢
  exact Nat.or_lt_two_pow (n := 31) h (by decide)

@[simp]
theorem isNaN_abs (x : Single) : x.abs.isNaN = x.isNaN := by
  simp [isNaN]

@[simp]
theorem isInfinite_neg (x : Single) : x.neg.isInfinite = x.isInfinite := by
  simp [isInfinite]

@[simp]
theorem isNaN_neg (x : Single) : x.neg.isNaN = x.isNaN := by
  simp [isNaN]

/-! ## Rounded values -/

@[simp]
theorem isNegative_ofFraction (negative : Bool) (num den : ℕ) :
    (ofFraction negative num den).isNegative = negative := by
  unfold ofFraction
  split <;> exact isNegative_ofParts ..

/-- A fraction is rounded to a number, or to an infinity. -/
theorem isNaN_ofFraction {num den : ℕ} (hden : 0 < den) :
    (ofFraction negative num den).isNaN = false := by
  rw [isNaN, decide_eq_false_iff_not, not_lt]
  unfold ofFraction
  split
  · rename_i m e hround
    obtain ⟨hlow, hhigh, hm, hlast⟩ := Number.BinaryFormat.round_bounds hden (by decide) hround
    change -149 ≤ e at hlow
    change e ≤ 104 at hhigh
    change m ≤ 2 ^ 24 at hm
    change e = 104 → m < 2 ^ 24 at hlast
    have hexp : e - format.minExp = e + 149 := sub_neg_eq_add e 149
    rw [magnitude_ofParts, hexp, signBit, exponentBit]
    omega
  · rw [magnitude_ofParts]
    decide

/-! ## Sums and differences -/

theorem scaled_nonneg (h : x.isNegative = false) : 0 ≤ x.scaled := by
  rw [scaled, h, if_neg Bool.false_ne_true]
  exact Int.natCast_nonneg _

/-- A sum of numbers without a minus has none, even of what is not a number. -/
theorem isNegative_add (hx : x.isNegative = false) (hy : y.isNegative = false) :
    (x.add y).isNegative = false := by
  have hsum : ¬x.scaled + y.scaled < 0 :=
    not_lt.2 (add_nonneg (scaled_nonneg hx) (scaled_nonneg hy))
  unfold add propagate
  cases hxnan : x.isNaN with
  | true => simpa using isNegative_quiet hx
  | false =>
    cases hynan : y.isNaN with
    | true => simpa using isNegative_quiet hy
    | false =>
      simp only [hx, hy, Bool.false_eq_true, if_false, ne_eq, not_true, and_false]
      split_ifs <;> simp [hx, hy, hsum]

/-- A sum is a number, unless an operand is none or infinities cancel. -/
theorem isNaN_add_iff : (x.add y).isNaN = true ↔ x.isNaN = true ∨ y.isNaN = true ∨
    x.isInfinite = true ∧ y.isInfinite = true ∧ x.isNegative ≠ y.isNegative := by
  have hzero : ∀ negative, (ofParts negative 0).isNaN = false := by decide
  have hrounded : ∀ negative num, (ofFraction negative num scale).isNaN = false :=
    fun _ _ ↦ isNaN_ofFraction scale_pos
  have hcancelled : indeterminate.isNaN = true := by decide
  unfold add propagate
  cases hxnan : x.isNaN with
  | true => simp [isNaN_quiet hxnan]
  | false =>
    cases hynan : y.isNaN with
    | true => simp [isNaN_quiet hynan]
    | false =>
      cases hx : x.isInfinite with
      | true =>
        by_cases hsigns : y.isInfinite = true ∧ x.isNegative ≠ y.isNegative
        · simp [hsigns, hcancelled]
        · simp [hsigns, hxnan]
      | false =>
        cases hy : y.isInfinite with
        | true => simp [hynan]
        | false =>
          simp only [Bool.false_eq_true, if_false, false_and, or_self]
          split <;> simp [hzero, hrounded]

/-- A difference is a number, unless an operand is none or infinities cancel. -/
theorem isNaN_sub_iff : (x.sub y).isNaN = true ↔ x.isNaN = true ∨ y.isNaN = true ∨
    x.isInfinite = true ∧ y.isInfinite = true ∧ x.isNegative = y.isNegative := by
  unfold sub propagate
  cases hxnan : x.isNaN with
  | true => simp [isNaN_quiet hxnan]
  | false =>
    cases hynan : y.isNaN with
    | true => simp [isNaN_quiet hynan]
    | false => simp [isNaN_add_iff, hxnan, hynan]

end ScriptHost.Single
