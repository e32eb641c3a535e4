import Mathlib

/-! Cyclic redundancy checks with reflected registers, as remainders of
polynomials with coefficients 0 and 1. Bit i of a register of m + 1 bits is
the coefficient of X^(m - i). -/
namespace HamLogger.CyclicRedundancy

open Polynomial

/-- The coefficient that a bit stands for. -/
noncomputable def bitPoly (bit : Bool) : (ZMod 2)[X] := if bit then 1 else 0

@[simp] theorem bitPoly_false : bitPoly false = 0 := rfl

@[simp] theorem bitPoly_true : bitPoly true = 1 := rfl

theorem bitPoly_xor (first second : Bool) :
    bitPoly (first ^^ second) = bitPoly first + bitPoly second := by
  cases first <;> cases second <;> simp [CharTwo.add_self_eq_zero]

section Register
variable {m : Nat}

noncomputable def registerPoly (register : BitVec (m + 1)) : (ZMod 2)[X] :=
  ∑ i ∈ Finset.range (m + 1), bitPoly (register.getLsbD i) * X ^ (m - i)

theorem registerPoly_xor (first second : BitVec (m + 1)) :
    registerPoly (first ^^^ second) = registerPoly first + registerPoly second := by
  unfold registerPoly
  rw [← Finset.sum_add_distrib]
  refine Finset.sum_congr rfl fun i _ => ?_
  rw [BitVec.getLsbD_xor, bitPoly_xor, add_mul]

theorem coeff_registerPoly (register : BitVec (m + 1)) {k : Nat} (h : k ≤ m) :
    (registerPoly register).coeff k = if register.getLsbD (m - k) then 1 else 0 := by
  unfold registerPoly
  rw [finsetSum_coeff, Finset.sum_eq_single (m - k)]
  · rw [show m - (m - k) = k by omega]
    cases register.getLsbD (m - k) <;> simp
  · intro i hMem hOther
    have hIndex := Finset.mem_range.mp hMem
    have hPower : k ≠ m - i := by omega
    cases register.getLsbD i <;> simp [coeff_X_pow, hPower]
  · intro hMem
    exact absurd (Finset.mem_range.mpr (by omega)) hMem

theorem degree_registerPoly_lt (register : BitVec (m + 1)) :
    (registerPoly register).degree < (m + 1 : Nat) := by
  rw [degree_lt_iff_coeff_zero]
  intro k hk
  unfold registerPoly
  rw [finsetSum_coeff]
  refine Finset.sum_eq_zero fun i _ => ?_
  have hPower : k ≠ m - i := by omega
  cases register.getLsbD i <;> simp [coeff_X_pow, hPower]

/-- The register that a remainder is kept in. -/
noncomputable def polyRegister (remainder : (ZMod 2)[X]) : BitVec (m + 1) :=
  (BitVec.ofBoolListLE ((List.range (m + 1)).map fun i =>
    decide (remainder.coeff (m - i) = 1))).setWidth (m + 1)

theorem polyRegister_registerPoly (register : BitVec (m + 1)) :
    polyRegister (registerPoly register) = register := by
  refine BitVec.eq_of_getLsbD_eq fun i hi => ?_
  unfold polyRegister
  have hCoeff := coeff_registerPoly register (show m - i ≤ m by omega)
  rw [show m - (m - i) = i by omega] at hCoeff
  rw [BitVec.getLsbD_setWidth, BitVec.getLsbD_ofBoolListLE, decide_eq_true hi, Bool.true_and,
    List.getD_eq_getElem?_getD, List.getElem?_map, List.getElem?_range hi, Option.map_some,
    Option.getD_some, hCoeff]
  cases register.getLsbD i <;> simp

/-- Shifting a register multiplies by X, up to the bit that is shifted out. -/
theorem registerPoly_shift (register : BitVec (m + 1)) :
    registerPoly (register >>> 1) + bitPoly (register.getLsbD 0) * X ^ (m + 1) =
      X * registerPoly register := by
  have hShifted : registerPoly (register >>> 1) =
      ∑ i ∈ Finset.range m, bitPoly (register.getLsbD (i + 1)) * X ^ (m - i) := by
    unfold registerPoly
    rw [Finset.sum_range_succ]
    have hTop : (register >>> 1).getLsbD m = false := by
      rw [BitVec.getLsbD_ushiftRight]
      exact BitVec.getLsbD_of_ge _ _ (by omega)
    rw [hTop, bitPoly_false, zero_mul, add_zero]
    refine Finset.sum_congr rfl fun i _ => ?_
    rw [BitVec.getLsbD_ushiftRight, Nat.add_comm 1 i]
  rw [hShifted]
  unfold registerPoly
  rw [Finset.sum_range_succ', mul_add, Finset.mul_sum]
  refine congrArg₂ (· + ·) ?_ ?_
  · refine Finset.sum_congr rfl fun i hMem => ?_
    have hIndex := Finset.mem_range.mp hMem
    have hPower : m - i = m - (i + 1) + 1 := by omega
    rw [hPower, pow_succ]
    ring
  · rw [Nat.sub_zero, pow_succ]
    ring

/-- The generator with the given low part. -/
noncomputable def generator (low : BitVec (m + 1)) : (ZMod 2)[X] :=
  X ^ (m + 1) + registerPoly low

theorem monic_generator (low : BitVec (m + 1)) : (generator low).Monic :=
  monic_X_pow_add (degree_registerPoly_lt low)

theorem degree_generator (low : BitVec (m + 1)) :
    (generator low).degree = (m + 1 : Nat) := by
  unfold generator
  rw [degree_add_eq_left_of_degree_lt, degree_X_pow]
  rw [degree_X_pow]
  exact degree_registerPoly_lt low

/-- One step: the low part of the generator is added for a bit shifted out. -/
def shiftStep (low register : BitVec (m + 1)) : BitVec (m + 1) :=
  if register &&& 1 = 1 then (register >>> 1) ^^^ low else register >>> 1

theorem and_one_eq_one_iff (register : BitVec (m + 1)) :
    register &&& 1 = 1 ↔ register.getLsbD 0 = true := by
  constructor
  · intro h
    have hBit := congrArg (fun word => BitVec.getLsbD word 0) h
    simpa using hBit
  · intro h
    refine BitVec.eq_of_getLsbD_eq fun i hi => ?_
    cases i with
    | zero => simpa using h
    | succ i => simp

/-- The class of a register's polynomial modulo the generator. -/
noncomputable def residue (low register : BitVec (m + 1)) : AdjoinRoot (generator low) :=
  AdjoinRoot.mk (generator low) (registerPoly register)

/-- Modulo the generator a step multiplies by X. -/
theorem residue_shiftStep (low register : BitVec (m + 1)) :
    residue low (shiftStep low register) =
      AdjoinRoot.root (generator low) * residue low register := by
  have hShift := congrArg (AdjoinRoot.mk (generator low)) (registerPoly_shift register)
  rw [RingHom.map_mul, AdjoinRoot.mk_X] at hShift
  unfold residue
  rw [← hShift]
  unfold shiftStep
  by_cases hBit : register.getLsbD 0 = true
  · have hLow : AdjoinRoot.mk (generator low) (registerPoly low) =
        AdjoinRoot.mk (generator low) (X ^ (m + 1)) := by
      refine AdjoinRoot.mk_eq_mk.mpr ⟨1, ?_⟩
      rw [CharTwo.sub_eq_add, mul_one, add_comm]
      rfl
    rw [if_pos ((and_one_eq_one_iff register).mpr hBit), registerPoly_xor, hBit, bitPoly_true,
      one_mul, RingHom.map_add, RingHom.map_add, hLow]
  · rw [if_neg fun h => hBit ((and_one_eq_one_iff register).mp h),
      Bool.not_eq_true _ |>.mp hBit, bitPoly_false, zero_mul, add_zero]

theorem residue_shiftStep_iterate (low register : BitVec (m + 1)) (count : Nat) :
    residue low ((shiftStep low)^[count] register) =
      AdjoinRoot.root (generator low) ^ count * residue low register := by
  induction count with
  | zero => simp
  | succ count ih =>
      rw [Function.iterate_succ_apply', residue_shiftStep, ih, pow_succ']
      ring

theorem residue_xor (low first second : BitVec (m + 1)) :
    residue low (first ^^^ second) = residue low first + residue low second := by
  rw [residue, registerPoly_xor, RingHom.map_add]
  rfl

/-- A register is the remainder of any polynomial of its class. -/
theorem registerPoly_eq_modByMonic {low register : BitVec (m + 1)} {p : (ZMod 2)[X]}
    (h : residue low register = AdjoinRoot.mk (generator low) p) :
    registerPoly register = p %ₘ generator low := by
  obtain ⟨quotient, hQuotient⟩ := AdjoinRoot.mk_eq_mk.mp h.symm
  refine (div_modByMonic_unique quotient _ (monic_generator low) ⟨?_, ?_⟩).2.symm
  · rw [← hQuotient]
    ring
  · rw [degree_generator]
    exact degree_registerPoly_lt register

/-! ### Messages -/

/-- The polynomial of a message, whose first bit is the leading coefficient. -/
noncomputable def messagePoly : List Bool → (ZMod 2)[X]
  | [] => 0
  | bit :: rest => bitPoly bit * X ^ rest.length + messagePoly rest

theorem messagePoly_append (first second : List Bool) :
    messagePoly (first ++ second) =
      messagePoly first * X ^ second.length + messagePoly second := by
  induction first with
  | nil => simp [messagePoly]
  | cons bit rest ih =>
      rw [List.cons_append, messagePoly, messagePoly, ih, List.length_append, pow_add]
      ring

/-- The bits of a byte, the lowest first. -/
def byteBits (byte : BitVec 8) : List Bool := (List.range 8).map byte.getLsbD

/-- A byte is added to the low end of the register and shifted out. -/
def absorb (low register : BitVec (m + 1)) (byte : BitVec 8) : BitVec (m + 1) :=
  (shiftStep low)^[8] (register ^^^ byte.setWidth (m + 1))

/-- A byte in the register stands 8 places below where the message does. -/
theorem registerPoly_setWidth (hWide : 7 ≤ m) (byte : BitVec 8) :
    X ^ 8 * registerPoly (byte.setWidth (m + 1)) =
      X ^ (m + 1) * messagePoly (byteBits byte) := by
  have hLow : registerPoly (byte.setWidth (m + 1)) =
      ∑ i ∈ Finset.range 8, bitPoly (byte.getLsbD i) * X ^ (m - i) := by
    unfold registerPoly
    rw [← Finset.sum_subset (Finset.range_mono (show 8 ≤ m + 1 by omega))]
    · refine Finset.sum_congr rfl fun i hMem => ?_
      have hIndex := Finset.mem_range.mp hMem
      rw [BitVec.getLsbD_setWidth, decide_eq_true (by omega : i < m + 1), Bool.true_and]
    · intro i _ hHigh
      have hIndex : 8 ≤ i := Nat.le_of_not_lt fun h => hHigh (Finset.mem_range.mpr h)
      rw [BitVec.getLsbD_setWidth, BitVec.getLsbD_of_ge byte i hIndex, Bool.and_false,
        bitPoly_false, zero_mul]
  have hMessage : messagePoly (byteBits byte) =
      ∑ i ∈ Finset.range 8, bitPoly (byte.getLsbD i) * X ^ (7 - i) := by
    simp [byteBits, List.range_succ, messagePoly, Finset.sum_range_succ, add_assoc]
  rw [hLow, hMessage, Finset.mul_sum, Finset.mul_sum]
  refine Finset.sum_congr rfl fun i hMem => ?_
  have hIndex := Finset.mem_range.mp hMem
  have hPower : (X : (ZMod 2)[X]) ^ 8 * X ^ (m - i) = X ^ (m + 1) * X ^ (7 - i) := by
    rw [← pow_add, ← pow_add, show 8 + (m - i) = m + 1 + (7 - i) by omega]
  calc X ^ 8 * (bitPoly (byte.getLsbD i) * X ^ (m - i))
      = bitPoly (byte.getLsbD i) * (X ^ 8 * X ^ (m - i)) := by ring
    _ = bitPoly (byte.getLsbD i) * (X ^ (m + 1) * X ^ (7 - i)) := by rw [hPower]
    _ = X ^ (m + 1) * (bitPoly (byte.getLsbD i) * X ^ (7 - i)) := by ring

/-- The class of a message's polynomial modulo the generator. -/
noncomputable def messageResidue (low : BitVec (m + 1)) (bits : List Bool) :
    AdjoinRoot (generator low) :=
  AdjoinRoot.mk (generator low) (messagePoly bits)

theorem messageResidue_append (low : BitVec (m + 1)) (first second : List Bool) :
    messageResidue low (first ++ second) =
      messageResidue low first * AdjoinRoot.root (generator low) ^ second.length +
        messageResidue low second := by
  rw [messageResidue, messagePoly_append, RingHom.map_add, RingHom.map_mul, RingHom.map_pow,
    AdjoinRoot.mk_X]
  rfl

theorem residue_setWidth (hWide : 7 ≤ m) (low : BitVec (m + 1)) (byte : BitVec 8) :
    AdjoinRoot.root (generator low) ^ 8 * residue low (byte.setWidth (m + 1)) =
      AdjoinRoot.root (generator low) ^ (m + 1) * messageResidue low (byteBits byte) := by
  have hPoly := congrArg (AdjoinRoot.mk (generator low)) (registerPoly_setWidth hWide byte)
  rw [RingHom.map_mul, RingHom.map_mul, RingHom.map_pow, RingHom.map_pow, AdjoinRoot.mk_X] at hPoly
  exact hPoly

theorem residue_absorb (hWide : 7 ≤ m) (low register : BitVec (m + 1)) (byte : BitVec 8) :
    residue low (absorb low register byte) =
      AdjoinRoot.root (generator low) ^ 8 * residue low register +
        AdjoinRoot.root (generator low) ^ (m + 1) * messageResidue low (byteBits byte) := by
  rw [absorb, residue_shiftStep_iterate, residue_xor, mul_add, residue_setWidth hWide]

/-- After all bytes the register holds the remainder of the message, which
stands above the register, plus the shifted initial register. -/
theorem residue_foldl_absorb (hWide : 7 ≤ m) (low register : BitVec (m + 1))
    (bytes : List (BitVec 8)) :
    residue low (bytes.foldl (absorb low) register) =
      AdjoinRoot.root (generator low) ^ (8 * bytes.length) * residue low register +
        AdjoinRoot.root (generator low) ^ (m + 1) *
          messageResidue low (bytes.flatMap byteBits) := by
  induction bytes generalizing register with
  | nil => simp [messagePoly, messageResidue]
  | cons byte rest ih =>
      have hLength : (rest.flatMap byteBits).length = 8 * rest.length := by
        simp [byteBits, Nat.mul_comm]
      rw [List.foldl_cons, ih, residue_absorb hWide, List.flatMap_cons, messageResidue_append,
        hLength, List.length_cons, Nat.mul_succ, pow_add]
      ring

theorem residue_foldl_absorb_eq_mk (hWide : 7 ≤ m) (low register : BitVec (m + 1))
    (bytes : List (BitVec 8)) :
    residue low (bytes.foldl (absorb low) register) = AdjoinRoot.mk (generator low)
      (X ^ (8 * bytes.length) * registerPoly register +
        X ^ (m + 1) * messagePoly (bytes.flatMap byteBits)) := by
  rw [residue_foldl_absorb hWide, RingHom.map_add, RingHom.map_mul, RingHom.map_mul,
    RingHom.map_pow, RingHom.map_pow, AdjoinRoot.mk_X]
  rfl

/-- The register in the end is the remainder by the generator. -/
theorem foldl_absorb_eq (hWide : 7 ≤ m) (low register : BitVec (m + 1))
    (bytes : List (BitVec 8)) :
    bytes.foldl (absorb low) register = polyRegister
      ((X ^ (8 * bytes.length) * registerPoly register +
        X ^ (m + 1) * messagePoly (bytes.flatMap byteBits)) %ₘ generator low) := by
  rw [← registerPoly_eq_modByMonic (residue_foldl_absorb_eq_mk hWide low register bytes),
    polyRegister_registerPoly]

end Register

end HamLogger.CyclicRedundancy
