import Mathlib.Algebra.Order.Floor.Semifield
import Mathlib.Data.Rat.Floor
import Mathlib.Tactic.FieldSimp
import Mathlib.Tactic.Linarith
import Mathlib.Tactic.NormNum
import Mathlib.Tactic.Positivity
import ScriptHost.Number.Dyadic

/-!
# When a rounding is exact

The last place of a fraction in a format is found from the power of two that the fraction begins
with (`BinaryFormat.exists_lead`).  On the grid of that place no fraction is rounded to more than
the format holds (`BinaryFormat.round_bounds`).  A fraction that is a number of the format lies on
the grid, and so it is rounded to itself (`BinaryFormat.round_exact`).  In particular a product in
double precision is exact as long as its whole number fits (`Dyadic.mul_exact`).
-/

namespace ScriptHost.Number

theorem two_zpow_pos (e : ℤ) : (0 : ℚ) < 2 ^ e :=
  zpow_pos (by norm_num) e

section Quotients

variable {num den k : ℕ}

/-- A whole number is rounded to itself. -/
theorem roundDiv_mul (m : ℕ) (hden : 0 < den) : roundDiv (m * den) den = m := by
  simp [roundDiv, hden]

/-- A quotient is not rounded beyond a whole number. -/
theorem roundDiv_le (hden : 0 < den) (h : num ≤ k * den) : roundDiv num den ≤ k := by
  have hdiv : num / den ≤ k := Nat.div_le_of_le_mul (by rwa [mul_comm])
  unfold roundDiv
  dsimp only
  rcases Nat.lt_or_eq_of_le hdiv with hlt | heq
  · split_ifs <;> omega
  · have hmod : num % den = 0 := by
      have hsplit := Nat.div_add_mod num den
      rw [heq, mul_comm] at hsplit
      omega
    rw [hmod, if_pos (by omega), heq]

end Quotients

section Scaling

variable {num den : ℕ}

/-- How a fraction compares with a power of two, said without fractions. -/
theorem two_zpow_le_div_iff (hden : 0 < den) (e : ℤ) :
    (if 0 ≤ e then den * 2 ^ e.toNat ≤ num else den ≤ num * 2 ^ (-e).toNat) ↔
      (2 : ℚ) ^ e ≤ num / den := by
  have hpos : (0 : ℚ) < den := Nat.cast_pos.2 hden
  rw [le_div_iff₀ hpos]
  split
  · obtain ⟨n, rfl⟩ := Int.eq_ofNat_of_zero_le ‹0 ≤ e›
    rw [Int.toNat_natCast, zpow_natCast, mul_comm]
    norm_cast
  · obtain ⟨n, hn⟩ : ∃ n : ℕ, -e = n := Int.eq_ofNat_of_zero_le (by omega)
    obtain rfl : e = -n := by omega
    rw [neg_neg, Int.toNat_natCast, zpow_neg, zpow_natCast, inv_mul_le_iff₀ (by positivity),
      mul_comm]
    norm_cast

/-- A fraction is rounded on the grid of a power of two by scaling it. -/
theorem exists_scaled (num : ℕ) (hden : 0 < den) (e : ℤ) :
    ∃ n d : ℕ, 0 < d ∧ (n : ℚ) / d * 2 ^ e = num / den ∧
      (if 0 ≤ e then roundDiv num (den * 2 ^ e.toNat)
        else roundDiv (num * 2 ^ (-e).toNat) den) = roundDiv n d := by
  split
  · refine ⟨num, den * 2 ^ e.toNat, by positivity, ?_, rfl⟩
    obtain ⟨n, rfl⟩ := Int.eq_ofNat_of_zero_le ‹0 ≤ e›
    rw [Int.toNat_natCast, zpow_natCast]
    push_cast
    field_simp
  · refine ⟨num * 2 ^ (-e).toNat, den, hden, ?_, rfl⟩
    obtain ⟨n, hn⟩ : ∃ n : ℕ, -e = n := Int.eq_ofNat_of_zero_le (by omega)
    obtain rfl : e = -n := by omega
    rw [neg_neg, Int.toNat_natCast, zpow_neg, zpow_natCast]
    push_cast
    field_simp

/-- A fraction on such a grid is rounded to its place there. -/
theorem roundDiv_of_grid (hden : 0 < den) {m : ℕ} {e : ℤ} (h : (num : ℚ) / den = m * 2 ^ e) :
    (if 0 ≤ e then roundDiv num (den * 2 ^ e.toNat) else roundDiv (num * 2 ^ (-e).toNat) den) =
      m := by
  obtain ⟨n, d, hd, hscaled, hround⟩ := exists_scaled num hden e
  have hn : n = m * d := by
    rw [h, mul_left_inj' (two_zpow_pos e).ne', div_eq_iff (Nat.cast_ne_zero.2 hd.ne')] at hscaled
    exact_mod_cast hscaled
  rw [hround, hn, roundDiv_mul m hd]

/-- A fraction is not rounded beyond a place of the grid. -/
theorem roundDiv_le_of_grid (hden : 0 < den) {m : ℕ} {e : ℤ} (h : (num : ℚ) / den ≤ m * 2 ^ e) :
    (if 0 ≤ e then roundDiv num (den * 2 ^ e.toNat) else roundDiv (num * 2 ^ (-e).toNat) den) ≤
      m := by
  obtain ⟨n, d, hd, hscaled, hround⟩ := exists_scaled num hden e
  have hn : n ≤ m * d := by
    rw [← hscaled, mul_le_mul_iff_left₀ (two_zpow_pos e), div_le_iff₀ (Nat.cast_pos.2 hd)] at h
    exact_mod_cast h
  rw [hround]
  exact roundDiv_le hd hn

end Scaling

namespace BinaryFormat

variable {f : BinaryFormat} {num den m : ℕ} {e : ℤ}

/-- The last place is so many places behind the power of two that the fraction begins with. -/
theorem exists_lead (f : BinaryFormat) (hnum : 0 < num) (hden : 0 < den) :
    ∃ lead : ℤ, f.unitExp num den = max f.minExp (lead - (f.precision - 1)) ∧
      (2 : ℚ) ^ lead ≤ num / den ∧ (num : ℚ) / den < 2 ^ (lead + 1) := by
  have hdenq : (0 : ℚ) < den := Nat.cast_pos.2 hden
  let k : ℤ := (num.log2 : ℤ) - den.log2
  have hhigh : (num : ℚ) / den < 2 ^ (k + 1) := by
    have hn : (num : ℚ) < 2 ^ (num.log2 + 1) := by exact_mod_cast Nat.lt_log2_self
    have hd : (2 : ℚ) ^ den.log2 ≤ den := by exact_mod_cast Nat.log2_self_le hden.ne'
    rw [div_lt_iff₀ hdenq]
    calc (num : ℚ) < 2 ^ (num.log2 + 1) := hn
      _ = 2 ^ (k + 1) * 2 ^ den.log2 := by
        rw [← zpow_natCast, ← zpow_natCast, ← zpow_add₀ two_ne_zero]
        congr 1
        push_cast
        omega
      _ ≤ 2 ^ (k + 1) * den := mul_le_mul_of_nonneg_left hd (two_zpow_pos _).le
  have hlow : (2 : ℚ) ^ (k - 1) ≤ num / den := by
    have hn : (2 : ℚ) ^ num.log2 ≤ num := by exact_mod_cast Nat.log2_self_le hnum.ne'
    have hd : (den : ℚ) ≤ 2 ^ (den.log2 + 1) := by exact_mod_cast Nat.lt_log2_self.le
    rw [le_div_iff₀ hdenq]
    calc (2 : ℚ) ^ (k - 1) * den ≤ 2 ^ (k - 1) * 2 ^ (den.log2 + 1) :=
          mul_le_mul_of_nonneg_left hd (two_zpow_pos _).le
      _ = 2 ^ num.log2 := by
        rw [← zpow_natCast, ← zpow_natCast, ← zpow_add₀ two_ne_zero]
        congr 1
        push_cast
        omega
      _ ≤ num := hn
  by_cases hreached : if 0 ≤ k then den * 2 ^ k.toNat ≤ num else den ≤ num * 2 ^ (-k).toNat
  · refine ⟨k, ?_, (two_zpow_le_div_iff hden k).1 hreached, hhigh⟩
    unfold unitExp
    dsimp only
    rw [if_pos hreached]
  · refine ⟨k - 1, ?_, hlow, ?_⟩
    · unfold unitExp
      dsimp only
      rw [if_neg hreached]
    · rw [sub_add_cancel]
      exact lt_of_not_ge fun h ↦ hreached ((two_zpow_le_div_iff hden k).2 h)

/-- The last place of a number of the format is not beyond the place that it is given to. -/
theorem unitExp_le (hnum : 0 < num) (hden : 0 < den) (h : (num : ℚ) / den = m * 2 ^ e)
    (hm : m < 2 ^ f.precision) (he : f.minExp ≤ e) : f.unitExp num den ≤ e := by
  obtain ⟨lead, heq, hlow, -⟩ := f.exists_lead hnum hden
  have hlt : (2 : ℚ) ^ lead < 2 ^ ((f.precision : ℤ) + e) := by
    calc (2 : ℚ) ^ lead ≤ m * 2 ^ e := h ▸ hlow
      _ < 2 ^ f.precision * 2 ^ e := by
        have hm' : (m : ℚ) < 2 ^ f.precision := by exact_mod_cast hm
        exact mul_lt_mul_of_pos_right hm' (two_zpow_pos e)
      _ = 2 ^ ((f.precision : ℤ) + e) := by rw [zpow_add₀ two_ne_zero, zpow_natCast]
  have hlead : lead < f.precision + e := (zpow_lt_zpow_iff_right₀ (by norm_num)).1 hlt
  rw [heq]
  omega

/-- A number of the format is rounded to itself. -/
theorem round_exact (hden : 0 < den) (h : (num : ℚ) / den = m * 2 ^ e) (hm : m < 2 ^ f.precision)
    (hlow : f.minExp ≤ e) (hhigh : e ≤ f.maxExp) :
    ∃ m' e', f.round num den = some (m', e') ∧ (m' : ℚ) * 2 ^ e' = num / den := by
  unfold round
  by_cases hnum : num = 0
  · exact ⟨0, f.minExp, if_pos hnum, by simp [hnum]⟩
  have hle : f.unitExp num den ≤ e := unitExp_le (Nat.pos_of_ne_zero hnum) hden h hm hlow
  rw [if_neg hnum]
  generalize f.unitExp num den = unit at hle
  -- on the finer grid the number stands for more places
  let n := m * 2 ^ (e - unit).toNat
  have hgrid : (num : ℚ) / den = n * 2 ^ unit := by
    obtain ⟨d, hd⟩ := Int.eq_ofNat_of_zero_le (sub_nonneg.2 hle)
    obtain rfl : e = d + unit := by omega
    rw [h, zpow_add₀ two_ne_zero, zpow_natCast, ← mul_assoc]
    simp [n]
  have hfits : ¬(f.maxExp < unit ∨ unit = f.maxExp ∧ 2 ^ f.precision ≤ n) := by
    rintro (hlt | ⟨heq, hle'⟩)
    · omega
    · obtain rfl : e = unit := by omega
      simp only [n, sub_self, Int.toNat_zero, pow_zero, mul_one] at hle'
      omega
  dsimp only
  rw [roundDiv_of_grid hden hgrid, if_neg hfits]
  exact ⟨n, unit, rfl, hgrid.symm⟩

/-- What a fraction is rounded to fits the format, but for a carry into one place more. -/
theorem round_bounds (hden : 0 < den) (hrange : f.minExp ≤ f.maxExp)
    (h : f.round num den = some (m, e)) :
    f.minExp ≤ e ∧ e ≤ f.maxExp ∧ m ≤ 2 ^ f.precision ∧ (e = f.maxExp → m < 2 ^ f.precision) := by
  unfold round at h
  by_cases hnum : num = 0
  · rw [if_pos hnum] at h
    cases h
    exact ⟨le_rfl, hrange, Nat.zero_le _, fun _ ↦ Nat.two_pow_pos _⟩
  rw [if_neg hnum] at h
  obtain ⟨lead, hunit, -, hhigh⟩ := f.exists_lead (Nat.pos_of_ne_zero hnum) hden
  dsimp only at h
  generalize f.unitExp num den = unit at h hunit
  have hgrid : (num : ℚ) / den ≤ (2 ^ f.precision : ℕ) * 2 ^ unit := by
    calc (num : ℚ) / den ≤ 2 ^ (lead + 1) := hhigh.le
      _ ≤ 2 ^ ((f.precision : ℤ) + unit) := zpow_le_zpow_right₀ (by norm_num) (by omega)
      _ = (2 ^ f.precision : ℕ) * 2 ^ unit := by
        rw [zpow_add₀ two_ne_zero, zpow_natCast]
        norm_cast
  have hle := roundDiv_le_of_grid hden hgrid
  generalize (if 0 ≤ unit then _ else _) = m' at h hle
  split at h
  · cases h
  · rename_i hfits
    cases h
    omega

end BinaryFormat

namespace Dyadic

variable {x y : Number.Dyadic}

/-- The value of a size. -/
def toRat (x : Number.Dyadic) : ℚ :=
  x.m * 2 ^ x.e

/-- A product is exact if its whole number has no more than 53 bits, and its exponent is one of
double precision. -/
theorem mul_exact (hm : x.m * y.m < 2 ^ 53) (hlow : -1074 ≤ x.e + y.e) (hhigh : x.e + y.e ≤ 971) :
    ∃ z, x.mul y = some z ∧ z.toRat = x.toRat * y.toRat := by
  have hvalue : ((x.m * y.m : ℕ) : ℚ) * 2 ^ (x.e + y.e) = x.toRat * y.toRat := by
    rw [zpow_add₀ two_ne_zero, toRat, toRat]
    push_cast
    ring
  have hround : ∀ num den : ℕ, 0 < den →
      (num : ℚ) / den = ((x.m * y.m : ℕ) : ℚ) * 2 ^ (x.e + y.e) →
      ∃ z, ofFraction num den = some z ∧ z.toRat = x.toRat * y.toRat := by
    intro num den hden h
    obtain ⟨m, e, hsome, hexact⟩ := BinaryFormat.round_exact (f := double) hden h hm hlow hhigh
    refine ⟨⟨m, e⟩, ?_, ?_⟩
    · rw [ofFraction, hsome]
      rfl
    · rw [toRat, hexact, h, hvalue]
  unfold mul ofScaled
  split
  · obtain ⟨n, hn⟩ := Int.eq_ofNat_of_zero_le ‹0 ≤ x.e + y.e›
    refine hround _ 1 Nat.one_pos ?_
    rw [hn, Int.toNat_natCast, zpow_natCast]
    push_cast
    ring
  · obtain ⟨n, hn⟩ : ∃ n : ℕ, -(x.e + y.e) = n := Int.eq_ofNat_of_zero_le (by omega)
    have hneg : x.e + y.e = -n := by omega
    refine hround _ _ (by positivity) ?_
    rw [hneg, neg_neg, Int.toNat_natCast, zpow_neg, zpow_natCast]
    push_cast
    rw [one_mul, div_eq_mul_inv]

/-- The nearest whole number, a half going up. -/
theorem nearest_eq_floor (x : Number.Dyadic) : x.nearest = ⌊x.toRat + 1 / 2⌋₊ := by
  unfold nearest toRat
  split
  · obtain ⟨n, hn⟩ := Int.eq_ofNat_of_zero_le ‹0 ≤ x.e›
    rw [hn, Int.toNat_natCast, zpow_natCast, add_comm]
    norm_cast
    rw [Nat.floor_add_natCast (by norm_num)]
    norm_num
  · obtain ⟨n, hn⟩ : ∃ n : ℕ, -x.e = n := Int.eq_ofNat_of_zero_le (by omega)
    have hneg : x.e = -n := by omega
    rw [hn, hneg, Int.toNat_natCast, zpow_neg, zpow_natCast, ← Nat.floor_div_eq_div (K := ℚ)]
    congr 1
    push_cast
    field_simp

end Dyadic

end ScriptHost.Number
