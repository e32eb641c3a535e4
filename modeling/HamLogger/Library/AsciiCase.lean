import Mathlib

/-! The case of ASCII letters, read off the code points. -/
namespace Char

theorem toNat_toLower (c : Char) :
    c.toLower.toNat = if 65 ≤ c.toNat ∧ c.toNat ≤ 90 then c.toNat + 32 else c.toNat := by
  unfold Char.toLower
  split
  · rename_i h
    have hLow : (65 : Nat) ≤ c.val.toNat := h.1
    have hHigh : c.val.toNat ≤ 90 := h.2
    have hValue : (c.val + ('a'.val - 'A'.val)).toNat = (c.val.toNat + 32) % 4294967296 :=
      UInt32.toNat_add ..
    rw [if_pos ⟨hLow, hHigh⟩]
    change (c.val + ('a'.val - 'A'.val)).toNat = c.val.toNat + 32
    omega
  · rename_i h
    exact (if_neg h).symm

theorem toNat_toUpper (c : Char) :
    c.toUpper.toNat = if 97 ≤ c.toNat ∧ c.toNat ≤ 122 then c.toNat - 32 else c.toNat := by
  unfold Char.toUpper
  split
  · rename_i h
    have hLow : (97 : Nat) ≤ c.val.toNat := h.1
    have hHigh : c.val.toNat ≤ 122 := h.2
    have hValue : (c.val + ('A'.val - 'a'.val)).toNat = (c.val.toNat + 4294967264) % 4294967296 :=
      UInt32.toNat_add ..
    rw [if_pos ⟨hLow, hHigh⟩]
    change (c.val + ('A'.val - 'a'.val)).toNat = c.val.toNat - 32
    omega
  · rename_i h
    exact (if_neg h).symm

theorem isAlpha_iff_between (c : Char) :
    c.isAlpha = true ↔ (65 ≤ c.toNat ∧ c.toNat ≤ 90) ∨ (97 ≤ c.toNat ∧ c.toNat ≤ 122) := by
  simp [Char.isAlpha, Char.isUpper, Char.isLower, UInt32.le_iff_toNat_le]

theorem isDigit_iff_between (c : Char) : c.isDigit = true ↔ 48 ≤ c.toNat ∧ c.toNat ≤ 57 := by
  simp [Char.isDigit, UInt32.le_iff_toNat_le]

theorem toUpper_toLower (c : Char) : c.toLower.toUpper = c.toUpper := by
  rw [← Char.toNat_inj, toNat_toUpper, toNat_toUpper, toNat_toLower]
  split_ifs <;> omega

theorem toLower_toUpper (c : Char) : c.toUpper.toLower = c.toLower := by
  rw [← Char.toNat_inj, toNat_toLower, toNat_toLower, toNat_toUpper]
  split_ifs <;> omega

theorem toUpper_idem (c : Char) : c.toUpper.toUpper = c.toUpper := by
  rw [← Char.toNat_inj, toNat_toUpper, toNat_toUpper]
  split_ifs <;> omega

theorem toLower_idem (c : Char) : c.toLower.toLower = c.toLower := by
  rw [← Char.toNat_inj, toNat_toLower, toNat_toLower]
  split_ifs <;> omega

theorem isAlpha_toLower (c : Char) : c.toLower.isAlpha = c.isAlpha := by
  rw [Bool.eq_iff_iff, isAlpha_iff_between, isAlpha_iff_between, toNat_toLower]
  split_ifs <;> omega

theorem isAlpha_toUpper (c : Char) : c.toUpper.isAlpha = c.isAlpha := by
  rw [Bool.eq_iff_iff, isAlpha_iff_between, isAlpha_iff_between, toNat_toUpper]
  split_ifs <;> omega

theorem isDigit_toLower (c : Char) : c.toLower.isDigit = c.isDigit := by
  rw [Bool.eq_iff_iff, isDigit_iff_between, isDigit_iff_between, toNat_toLower]
  split_ifs <;> omega

/-- A character that is no letter is the only one of its lower case. -/
theorem eq_of_toLower_eq {c d : Char} (h : c.toLower = d.toLower) (hPlain : c.isAlpha = false) :
    c = d := by
  have hOther : d.isAlpha = false := by
    rw [← isAlpha_toLower, ← h, isAlpha_toLower, hPlain]
  rw [← Bool.not_eq_true, isAlpha_iff_between] at hPlain hOther
  rw [← Char.toNat_inj, toNat_toLower, toNat_toLower] at h
  rw [← Char.toNat_inj]
  split_ifs at h <;> omega

/-- A letter or a digit takes one byte. -/
theorem utf8Size_of_isAlphanum {c : Char} (h : c.isAlphanum = true) : c.utf8Size = 1 := by
  rw [Char.isAlphanum, Bool.or_eq_true, isAlpha_iff_between, isDigit_iff_between] at h
  refine Char.utf8Size_eq_one_iff.mpr ?_
  rw [UInt32.le_iff_toNat_le]
  change c.toNat ≤ 127
  omega

end Char
