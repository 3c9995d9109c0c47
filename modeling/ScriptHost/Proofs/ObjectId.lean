import ScriptHost.ObjectId

/-!
# The order of object numbers

Numbers are ordered as natural numbers.  The two that name no object of their own are the greatest,
so a number is concrete exactly if it is below `self` (`isConcrete_iff`), and `next` counts up to
there without leaving one out (`toNat_next`).
-/

namespace ScriptHost.ObjectId

variable {a b : ObjectId}

theorem lt_iff : a < b ↔ a.val.toNat < b.val.toNat := UInt32.lt_iff_toNat_lt

theorem le_iff : a ≤ b ↔ a.val.toNat ≤ b.val.toNat := UInt32.le_iff_toNat_le

theorem eq_iff : a = b ↔ a.val.toNat = b.val.toNat := by
  rw [UInt32.toNat_inj]
  exact ⟨congrArg val, fun h ↦ by cases a; cases b; cases h; rfl⟩

theorem lt_irrefl (a : ObjectId) : ¬a < a := UInt32.lt_irrefl a.val

theorem ne_of_lt (h : a < b) : a ≠ b := by
  rintro rfl
  exact lt_irrefl a h

theorem lt_of_lt_of_le {a b c : ObjectId} (hab : a < b) (hbc : b ≤ c) : a < c :=
  UInt32.lt_of_lt_of_le hab hbc

theorem compare_eq_lt_iff : compare a b = .lt ↔ a < b := by
  change compare a.val b.val = .lt ↔ a.val < b.val
  exact Std.compare_eq_lt

theorem isConcrete_iff : a.isConcrete = true ↔ a < .self := by
  have hbound := a.val.toNat_lt
  have hinvalid : invalid.val.toNat = 4294967295 := rfl
  have hself : self.val.toNat = 4294967294 := rfl
  rw [isConcrete, isInvalid, isSelf, Bool.and_eq_true, Bool.not_eq_true', Bool.not_eq_true',
    beq_eq_false_iff_ne, beq_eq_false_iff_ne, ne_eq, ne_eq, eq_iff, eq_iff, lt_iff]
  omega

theorem not_isInvalid_iff : (!a.isInvalid) = true ↔ a ≠ .invalid := by
  rw [isInvalid, Bool.not_eq_true', beq_eq_false_iff_ne]

theorem isInvalid_of_lt_self (h : a < .self) : a.isInvalid = false := by
  have hconcrete := isConcrete_iff.2 h
  rw [isConcrete, Bool.and_eq_true, Bool.not_eq_true'] at hconcrete
  exact hconcrete.1

/-- Only `self` is read as the caller. -/
theorem orCaller_eq (a caller : ObjectId) :
    a.orCaller caller = if a = .self then caller else a := by
  simp [orCaller, isSelf]

/-- The number to give out after a concrete one is one more, and `self` after the last. -/
theorem toNat_next (h : a < .self) : (a.next.getD .self).val.toNat = a.val.toNat + 1 := by
  have hself : self.val.toNat = 4294967294 := rfl
  rw [lt_iff] at h
  unfold next
  split
  · change (a.val + 1).toNat = a.val.toNat + 1
    rw [UInt32.toNat_add]
    change (a.val.toNat + 1) % 2 ^ 32 = a.val.toNat + 1
    omega
  · change self.val.toNat = a.val.toNat + 1
    omega

end ScriptHost.ObjectId
