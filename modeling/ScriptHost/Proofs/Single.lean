import ScriptHost.Proofs.Number.Rounding
import ScriptHost.Single

/-!
# Values of numbers, and delays

The value of a finite number is a fraction (`Single.toRat`), and numbers are compared by their
values (`Single.AtMost`).  A delay is given in seconds and counted in whole milliseconds.  The
product is taken in double precision, which loses nothing (`Single.exists_product`), so the count is
the exact value rounded once (`Single.toNat_toMillis`).  A delay may be above zero and yet come to
no time at all: what counts is whether it lasts half a millisecond (`Single.toMillis_ne_zero_iff`).
-/

namespace ScriptHost.Single

/-- The value of a finite number. -/
def toRat (x : Single) : ℚ :=
  x.scaled / scale

/-- Whether a delay lasts: it is above zero, and half a millisecond at least. -/
def Lasts (x : Single) : Prop :=
  x.isPositive = true ∧ (x.isInfinite = true ∨ 1 / 2000 ≤ x.toRat)

/-- Numerical comparison: what is not a number compares with nothing, and both zeros are equal. -/
def AtMost (x y : Single) : Prop :=
  x.isNaN = false ∧ y.isNaN = false ∧
    (x.isInfinite = true ∧ x.isNegative = true ∨ y.isInfinite = true ∧ y.isNegative = false ∨
      x.isFinite = true ∧ y.isFinite = true ∧ x.toRat ≤ y.toRat)

instance (x y : Single) : Decidable (x.AtMost y) :=
  inferInstanceAs (Decidable (_ ∧ _ ∧ (_ ∨ _ ∨ _)))

variable {x y : Single}

/-! ## Values -/

theorem scale_pos : 0 < scale := by
  decide +kernel

theorem isNegative_of_isPositive (h : x.isPositive = true) : x.isNegative = false := by
  unfold isPositive at h
  simp only [Bool.and_eq_true, Bool.not_eq_true'] at h
  exact h.1.2

/-- The value of a number above zero is its size, as a multiple of `2 ^ (-149)`. -/
theorem toRat_of_isPositive (h : x.isPositive = true) : x.toRat = (x.size : ℚ) / scale := by
  rw [toRat, scaled, isNegative_of_isPositive h, if_neg Bool.false_ne_true, Int.cast_natCast]

theorem isInfinite_of_isFinite (h : x.isFinite = true) : x.isInfinite = false := by
  simp only [isFinite, isInfinite, decide_eq_true_eq, beq_eq_false_iff_ne] at h ⊢
  omega

theorem isNaN_of_isFinite (h : x.isFinite = true) : x.isNaN = false := by
  simp only [isFinite, isNaN, decide_eq_true_eq, decide_eq_false_iff_not] at h ⊢
  omega

/-- Every number is finite, infinite or not a number. -/
theorem isFinite_of_not (hnan : x.isNaN = false) (hinfinite : x.isInfinite = false) :
    x.isFinite = true := by
  simp only [isFinite, isInfinite, isNaN, decide_eq_true_eq, decide_eq_false_iff_not,
    beq_eq_false_iff_ne] at *
  omega

/-- Only the zeros have no size. -/
theorem size_pos_iff : 0 < x.size ↔ x.magnitude ≠ 0 := by
  have hunit : 0 < x.unit := Nat.two_pow_pos _
  have hsignificand : 0 < x.significand ↔ x.magnitude ≠ 0 := by
    unfold significand exponentBit
    split <;> omega
  rw [size, ← hsignificand]
  exact ⟨fun h ↦ Nat.pos_of_mul_pos_right h, fun h ↦ Nat.mul_pos h hunit⟩

/-- A finite number is above zero if its value is. -/
theorem isPositive_iff (h : x.isFinite = true) : x.isPositive = true ↔ 0 < x.toRat := by
  have hscale : (0 : ℚ) < scale := Nat.cast_pos.2 scale_pos
  rw [toRat, div_pos_iff_of_pos_right hscale, Int.cast_pos, scaled, isPositive,
    isNaN_of_isFinite h]
  cases x.isNegative <;> simp [← size_pos_iff]

theorem not_isNaN_of_isPositive (h : x.isPositive = true) : x.isNaN = false := by
  unfold isPositive at h
  simp only [Bool.and_eq_true, Bool.not_eq_true'] at h
  exact h.1.1

/-- What is not above zero is at most zero, or not a number. -/
theorem isPositive_eq_false_iff : x.isPositive = false ↔ x.isNaN = true ∨ x.AtMost .zero := by
  have hzero : zero.toRat = 0 := by simp [toRat, scaled, size, significand, magnitude, zero]
  constructor
  · intro h
    cases hnan : x.isNaN with
    | true => exact .inl rfl
    | false =>
      refine .inr ⟨hnan, rfl, ?_⟩
      cases hinfinite : x.isInfinite with
      | true =>
        have hmagnitude : x.magnitude = 0x7f800000 := beq_iff_eq.1 hinfinite
        simp only [isPositive, hnan, hmagnitude] at h
        exact .inl ⟨rfl, by simpa using h⟩
      | false =>
        have hfinite := isFinite_of_not hnan hinfinite
        refine .inr (.inr ⟨hfinite, rfl, ?_⟩)
        rw [hzero, ← not_lt, ← isPositive_iff hfinite, h]
        exact Bool.false_ne_true
  · rintro (hnan | ⟨-, -, ⟨-, hnegative⟩ | ⟨hinfinite, -⟩ | ⟨hfinite, -, hle⟩⟩)
    · simp [isPositive, hnan]
    · simp [isPositive, hnegative]
    · cases hinfinite
    · rw [← Bool.not_eq_true, isPositive_iff hfinite, not_lt]
      exact hzero ▸ hle

/-- There is one infinity above zero. -/
theorem eq_infinity (hinfinite : x.isInfinite = true) (hsign : x.isNegative = false) :
    x = .infinity := by
  obtain ⟨bits⟩ := x
  simp only [isNegative, isInfinite, magnitude, signBit, decide_eq_false_iff_not,
    beq_iff_eq] at hinfinite hsign
  have hbits : bits.toNat = infinity.bits.toNat := by
    change bits.toNat = 0x7f800000
    omega
  exact congrArg mk (UInt32.toNat_inj.1 hbits)

/-! ## Milliseconds -/

theorem significand_lt (x : Single) : x.significand < 2 ^ 24 := by
  unfold significand exponentBit
  split <;> omega

/-- Double precision has room for every size. -/
theorem toRat_widen (x : Single) : x.widen.toRat = (x.size : ℚ) / scale := by
  have hscale : (scale : ℚ) = 2 ^ (149 : ℕ) := by
    rw [scale]
    norm_cast
  have hexp : format.minExp = -(149 : ℕ) := rfl
  rw [Number.Dyadic.toRat, widen, size, unit, hscale, hexp, zpow_add₀ two_ne_zero, zpow_natCast,
    zpow_neg, zpow_natCast, div_eq_mul_inv]
  push_cast
  ring

/-- A thousand times a finite number is a number of double precision: 24 bits and 10 bits are no
more than 53. -/
theorem exists_product (h : x.isFinite = true) :
    ∃ product, x.widen.mul ⟨1000, 0⟩ = some product ∧
      product.toRat = 1000 * ((x.size : ℚ) / scale) := by
  have hmagnitude : x.magnitude < 0x7f800000 := of_decide_eq_true h
  have hexp : format.minExp = -149 := rfl
  have hsignificand := x.significand_lt
  obtain ⟨product, hsome, hexact⟩ :
      ∃ product, x.widen.mul ⟨1000, 0⟩ = some product ∧
        product.toRat = x.widen.toRat * Number.Dyadic.toRat ⟨1000, 0⟩ := by
    refine Number.Dyadic.mul_exact ?_ ?_ ?_
    · change x.significand * 1000 < 2 ^ 53
      omega
    · simp only [widen, hexp]
      omega
    · simp only [widen, hexp, exponentBit]
      omega
  refine ⟨product, hsome, ?_⟩
  rw [hexact, toRat_widen, mul_comm]
  norm_num [Number.Dyadic.toRat]

/-- Milliseconds are counted exactly, as far as 64 bits go. -/
theorem toNat_toMillis (hpositive : x.isPositive = true) (hfinite : x.isInfinite = false) :
    x.toMillis.toNat = min (UInt64.size - 1) ⌊1000 * x.toRat + 1 / 2⌋₊ := by
  obtain ⟨product, hsome, hexact⟩ :=
    exists_product (isFinite_of_not (not_isNaN_of_isPositive hpositive) hfinite)
  have hfits : min (UInt64.size - 1) product.nearest < UInt64.size :=
    Nat.lt_of_le_of_lt (Nat.min_le_left _ _) (by decide)
  simp only [toMillis, hpositive, hfinite, hsome, Bool.not_true, Bool.false_eq_true, if_false]
  rw [UInt64.toNat_ofNat_of_lt' hfits, product.nearest_eq_floor, hexact,
    toRat_of_isPositive hpositive]

theorem toMillis_of_isPositive (h : x.isPositive = false) : x.toMillis = 0 := by
  simp [toMillis, h]

theorem toNat_toMillis_infinity : infinity.toMillis.toNat = UInt64.size - 1 := by
  decide

/-- The more seconds, the more milliseconds. -/
theorem AtMost.toMillis_le (h : x.AtMost y) : x.toMillis ≤ y.toMillis := by
  rw [UInt64.le_iff_toNat_le]
  cases hx : x.isPositive with
  | false =>
    rw [toMillis_of_isPositive hx]
    exact Nat.zero_le _
  | true =>
    obtain ⟨-, -, ⟨-, hnegative⟩ | ⟨hinfinite, hsign⟩ | ⟨hxfinite, hyfinite, hle⟩⟩ := h
    · rw [isNegative_of_isPositive hx] at hnegative
      cases hnegative
    · rw [eq_infinity hinfinite hsign, toNat_toMillis_infinity]
      exact Nat.le_sub_one_of_lt x.toMillis.toNat_lt_size
    · have hy : y.isPositive = true :=
        (isPositive_iff hyfinite).2 (lt_of_lt_of_le ((isPositive_iff hxfinite).1 hx) hle)
      rw [toNat_toMillis hx (isInfinite_of_isFinite hxfinite),
        toNat_toMillis hy (isInfinite_of_isFinite hyfinite)]
      have hfloor : ⌊1000 * x.toRat + 1 / 2⌋₊ ≤ ⌊1000 * y.toRat + 1 / 2⌋₊ :=
        Nat.floor_mono (by linarith)
      omega

/-- A delay that lasts comes to a millisecond or more, and any other one to nothing. -/
theorem toMillis_ne_zero_iff : x.toMillis ≠ 0 ↔ x.Lasts := by
  have hcap : 0 < UInt64.size - 1 := by decide
  rw [ne_eq, ← UInt64.toNat_inj, UInt64.toNat_zero]
  cases hpositive : x.isPositive with
  | false => simp [Lasts, toMillis_of_isPositive, hpositive]
  | true =>
    cases hinfinite : x.isInfinite with
    | true =>
      obtain rfl := eq_infinity hinfinite (isNegative_of_isPositive hpositive)
      rw [toNat_toMillis_infinity]
      simp [Lasts, hpositive, hinfinite]
    | false =>
      have hfloor : 0 < ⌊1000 * x.toRat + 1 / 2⌋₊ ↔ 1 / 2000 ≤ x.toRat := by
        rw [Nat.floor_pos]
        constructor <;> intro h <;> linarith
      have hlasts : x.Lasts ↔ 1 / 2000 ≤ x.toRat := by
        simp [Lasts, hpositive, hinfinite]
      rw [hlasts, ← hfloor, toNat_toMillis hpositive hinfinite]
      omega

theorem toMillis_eq_zero_iff : x.toMillis = 0 ↔ ¬x.Lasts := by
  rw [← toMillis_ne_zero_iff, not_not]

theorem not_lasts_of_isPositive (h : x.isPositive = false) : ¬x.Lasts := by
  rintro ⟨hpositive, -⟩
  rw [h] at hpositive
  cases hpositive

end ScriptHost.Single
