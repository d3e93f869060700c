import FeatureFlags.Rollout
import Mathlib.Algebra.CharP.Two
import Mathlib.Algebra.Field.ZMod
import Mathlib.Data.List.GetD
import Mathlib.RingTheory.AdjoinRoot
import Mathlib.Tactic.LinearCombination

/-!
The checksum as a division. The bits of a byte string are the coefficients of a polynomial over
the field of two elements, and the register of the checksum keeps the remainder of that polynomial
when it is divided by the generator.
-/

namespace FeatureFlags.Checksum

open Polynomial

/-- The lowest bits of a number, the lowest of all first. -/
def bits (count value : Nat) : List Bool :=
  (List.range count).map value.testBit

/-- The polynomial with given coefficients, that of the highest power first. -/
noncomputable def ofBits : List Bool → (ZMod 2)[X]
  | [] => 0
  | b :: bs => (if b then X ^ bs.length else 0) + ofBits bs

section Bits

theorem bits_succ (count value : Nat) :
    bits (count + 1) value = value.testBit 0 :: bits count (value >>> 1) := by
  rw [bits, List.range_succ_eq_map, List.map_cons, List.map_map, bits]
  congr 1
  refine List.map_congr_left fun i _ => ?_
  rw [Nat.testBit_shiftRight, Nat.add_comm 1 i, Function.comp_apply]

theorem bits_snoc (count value : Nat) :
    bits (count + 1) value = bits count value ++ [value.testBit count] := by
  rw [bits, List.range_succ, List.map_append, List.map_singleton, bits]

theorem bits_add_of_lt {count value : Nat} (h : value < 2 ^ count) (more : Nat) :
    bits (count + more) value = bits count value ++ List.replicate more false := by
  induction more with
  | zero => simp
  | succ more ih =>
      have hhigh : value.testBit (count + more) = false :=
        Nat.testBit_lt_two_pow (Nat.lt_of_lt_of_le h (Nat.pow_le_pow_right (by decide) (by omega)))
      rw [← Nat.add_assoc, bits_snoc, ih, hhigh, List.replicate_succ', List.append_assoc]

theorem ofBits_append (as bs : List Bool) :
    ofBits (as ++ bs) = ofBits as * X ^ bs.length + ofBits bs := by
  induction as with
  | nil => simp [ofBits]
  | cons a as ih =>
      rw [List.cons_append, ofBits, ofBits, ih, List.length_append]
      cases a
      · simp
      · simp only [if_true]
        ring

theorem ofBits_replicate_false (n : Nat) : ofBits (List.replicate n false) = 0 := by
  induction n with
  | zero => rfl
  | succ n ih => rw [List.replicate_succ, ofBits, ih, if_neg Bool.false_ne_true, add_zero]

theorem coeff_ofBits (bs : List Bool) (k : Nat) :
    (ofBits bs).coeff k = if bs.reverse.getD k false then 1 else 0 := by
  induction bs with
  | nil => simp [ofBits]
  | cons b bs ih =>
      have hpower : (if b then X ^ bs.length else 0 : (ZMod 2)[X]).coeff k =
          if b ∧ k = bs.length then 1 else 0 := by
        cases b <;> simp [coeff_X_pow]
      rw [ofBits, coeff_add, ih, hpower, List.reverse_cons]
      rcases Nat.lt_trichotomy k bs.length with hlt | rfl | hgt
      · rw [List.getD_append _ _ _ _ (by simpa using hlt), if_neg (by omega), zero_add]
      · simp
      · rw [List.getD_eq_default _ _ (by simpa using hgt.le),
          List.getD_eq_default _ _ (by simpa using hgt), if_neg (by omega)]
        simp

theorem degree_ofBits_lt (bs : List Bool) : (ofBits bs).degree < bs.length := by
  rw [degree_lt_iff_coeff_zero]
  intro k hk
  rw [coeff_ofBits, List.getD_eq_default, if_neg Bool.false_ne_true]
  rwa [List.length_reverse]

end Bits

/-- The generator of the checksum of IEEE 802.3. -/
noncomputable def generator : (ZMod 2)[X] :=
  X ^ 32 + X ^ 26 + X ^ 23 + X ^ 22 + X ^ 16 + X ^ 12 + X ^ 11 + X ^ 10 + X ^ 8 + X ^ 7 + X ^ 5 +
    X ^ 4 + X ^ 2 + X + 1

/-- The polynomial that a register stands for. Its lowest bit is that of the highest power. -/
noncomputable def toPolynomial (register : UInt32) : (ZMod 2)[X] :=
  ofBits (bits 32 register.toNat)

/-- The register that stands for a polynomial of degree less than 32. -/
noncomputable def ofPolynomial (p : (ZMod 2)[X]) : UInt32 :=
  .ofNat (Nat.ofBits fun i : Fin 32 => p.coeff (31 - i) = 1)

/-- The polynomial of 32 ones. -/
noncomputable def ones : (ZMod 2)[X] :=
  ofBits (List.replicate 32 true)

/-- The polynomial of a byte string, each byte from its lowest bit on. -/
noncomputable def message (bytes : List UInt8) : (ZMod 2)[X] :=
  ofBits (bytes.flatMap fun byte => bits 8 byte.toNat)

/-- The checksum of a byte string by division. The message has 32 zeros put behind it and its
first 32 bits inverted, and the remainder is inverted too. -/
noncomputable def division (bytes : List UInt8) : UInt32 :=
  ofPolynomial ((message bytes * X ^ 32 + ones * X ^ (8 * bytes.length)) %ₘ generator + ones)

section Register

theorem length_bits (count value : Nat) : (bits count value).length = count := by
  simp [bits]

theorem getD_bits {count value i : Nat} (h : i < count) :
    (bits count value).getD i false = value.testBit i := by
  simp [bits, h]

theorem coeff_toPolynomial {k : Nat} (r : UInt32) (h : k < 32) :
    (toPolynomial r).coeff k = if r.toNat.testBit (31 - k) then 1 else 0 := by
  have hlength : (bits 32 r.toNat).length = 32 := length_bits 32 r.toNat
  rw [toPolynomial, coeff_ofBits, List.getD_reverse _ (hlength ▸ h), hlength,
    getD_bits (by omega)]

theorem degree_toPolynomial_lt (r : UInt32) : (toPolynomial r).degree < 32 := by
  have h := degree_ofBits_lt (bits 32 r.toNat)
  rwa [length_bits] at h

theorem ofPolynomial_toPolynomial (r : UInt32) : ofPolynomial (toPolynomial r) = r := by
  have hbits : (fun i : Fin 32 => decide ((toPolynomial r).coeff (31 - i) = 1)) =
      fun i : Fin 32 => r.toNat.testBit i := by
    funext i
    have hplace : 31 - (31 - (i : Nat)) = i := by omega
    rw [coeff_toPolynomial r (by omega), hplace]
    cases r.toNat.testBit i <;> simp
  rw [ofPolynomial, hbits, Nat.ofBits_testBit, Nat.mod_eq_of_lt r.toNat_lt, UInt32.ofNat_toNat]

theorem toPolynomial_xor (r s : UInt32) :
    toPolynomial (r ^^^ s) = toPolynomial r + toPolynomial s := by
  ext k
  rw [coeff_add]
  by_cases hk : k < 32
  · rw [coeff_toPolynomial _ hk, coeff_toPolynomial _ hk, coeff_toPolynomial _ hk,
      UInt32.toNat_xor, Nat.testBit_xor]
    cases r.toNat.testBit (31 - k) <;> cases s.toNat.testBit (31 - k) <;> decide
  · have hzero : ∀ r : UInt32, (toPolynomial r).coeff k = 0 := fun r =>
      (degree_lt_iff_coeff_zero _ 32).mp (degree_toPolynomial_lt r) k (Nat.not_lt.mp hk)
    rw [hzero, hzero, hzero, add_zero]

theorem generator_eq : generator = X ^ 32 + toPolynomial polynomial := by
  have hbits : bits 32 polynomial.toNat =
      [false, false, false, false, false, true, false, false, true, true, false, false, false,
        false, false, true, false, false, false, true, true, true, false, true, true, false, true,
        true, false, true, true, true] := by decide
  rw [toPolynomial, hbits, generator]
  simp only [ofBits, List.length_cons, List.length_nil, Bool.false_eq_true, if_false, if_true]
  ring

theorem monic_generator : generator.Monic := by
  rw [generator_eq]
  exact monic_X_pow_add (degree_toPolynomial_lt polynomial)

theorem degree_generator : generator.degree = 32 := by
  have hless : (toPolynomial polynomial).degree < (X ^ 32 : (ZMod 2)[X]).degree := by
    rw [degree_X_pow]
    exact degree_toPolynomial_lt polynomial
  rw [generator_eq, degree_add_eq_left_of_degree_lt hless, degree_X_pow]
  rfl

theorem X_mul_toPolynomial (r : UInt32) : X * toPolynomial r =
    (if r.toNat.testBit 0 then X ^ 32 else 0) + toPolynomial (r >>> 1) := by
  have hshift : (r >>> 1).toNat = r.toNat >>> 1 := by
    rw [UInt32.toNat_shiftRight]
    rfl
  have hhigh : (r.toNat >>> 1).testBit 31 = false := by
    rw [Nat.testBit_shiftRight]
    exact Nat.testBit_lt_two_pow r.toNat_lt
  have hfirst : toPolynomial r =
      (if r.toNat.testBit 0 then X ^ 31 else 0) + ofBits (bits 31 (r.toNat >>> 1)) := by
    rw [toPolynomial, bits_succ, ofBits, length_bits]
  have hlast : toPolynomial (r >>> 1) = ofBits (bits 31 (r.toNat >>> 1)) * X := by
    rw [toPolynomial, hshift, bits_snoc, hhigh, ofBits_append]
    simp [ofBits]
  rw [hfirst, hlast]
  split <;> ring

/-- A step takes the generator away if the dropped power is there. -/
theorem toPolynomial_step (r : UInt32) : X * toPolynomial r =
    toPolynomial (step r) + if r.toNat.testBit 0 then generator else 0 := by
  have hlow : r &&& 1 = 1 ↔ r.toNat.testBit 0 := by
    rw [← UInt32.toNat_inj, UInt32.toNat_and, Nat.testBit_zero, decide_eq_true_eq]
    exact Iff.of_eq (congrArg (· = 1) (Nat.and_one_is_mod r.toNat))
  rw [X_mul_toPolynomial, step]
  by_cases hbit : r.toNat.testBit 0
  · rw [if_pos hbit, if_pos hbit, if_pos (hlow.mpr hbit), toPolynomial_xor, generator_eq]
    linear_combination -CharTwo.add_self_eq_zero (toPolynomial polynomial)
  · rw [if_neg hbit, if_neg hbit, if_neg (mt hlow.mp hbit), zero_add, add_zero]

end Register

section Division

/-- The residue class of a polynomial, of which the remainder is the only member of degree less
than that of the generator. -/
noncomputable def residue : (ZMod 2)[X] →+* AdjoinRoot generator :=
  AdjoinRoot.mk generator

theorem residue_step (r : UInt32) :
    residue (toPolynomial (step r)) = residue X * residue (toPolynomial r) := by
  have hgenerator : residue (if r.toNat.testBit 0 then generator else 0) = 0 := by
    split
    · exact AdjoinRoot.mk_self
    · exact map_zero residue
  rw [← map_mul, toPolynomial_step, map_add, hgenerator, add_zero]

theorem residue_steps (n : Nat) (r : UInt32) :
    residue (toPolynomial (steps n r)) = residue X ^ n * residue (toPolynomial r) := by
  induction n generalizing r with
  | zero => rw [steps, pow_zero, one_mul]
  | succ n ih => rw [steps, ih, residue_step, pow_succ, mul_assoc]

theorem toPolynomial_toUInt32 (byte : UInt8) :
    toPolynomial byte.toUInt32 = ofBits (bits 8 byte.toNat) * X ^ 24 := by
  rw [toPolynomial, UInt8.toNat_toUInt32, bits_add_of_lt byte.toNat_lt 24, ofBits_append,
    ofBits_replicate_false, add_zero, List.length_replicate]

theorem residue_absorb (r : UInt32) (byte : UInt8) :
    residue (toPolynomial (absorb r byte)) =
      residue (toPolynomial r * X ^ 8 + ofBits (bits 8 byte.toNat) * X ^ 32) := by
  rw [absorb, residue_steps, toPolynomial_xor, toPolynomial_toUInt32, ← map_pow, ← map_mul]
  apply congrArg residue
  ring

theorem message_cons (byte : UInt8) (bytes : List UInt8) : message (byte :: bytes) =
    ofBits (bits 8 byte.toNat) * X ^ (8 * bytes.length) + message bytes := by
  have hlength : (bytes.flatMap fun byte => bits 8 byte.toNat).length = 8 * bytes.length := by
    simp [List.length_flatMap, length_bits, Nat.mul_comm]
  rw [message, List.flatMap_cons, ofBits_append, hlength, message]

/-- The register stands for the bytes that it has seen, behind what it stood for at the start. -/
theorem residue_update (r : UInt32) (bytes : List UInt8) :
    residue (toPolynomial (update r bytes)) =
      residue (message bytes * X ^ 32 + toPolynomial r * X ^ (8 * bytes.length)) := by
  induction bytes generalizing r with
  | nil => simp [update, message, ofBits]
  | cons byte rest ih =>
      have hupdate : update r (byte :: rest) = update (absorb r byte) rest := rfl
      rw [hupdate, ih, map_add, map_mul residue (toPolynomial _), residue_absorb, ← map_mul,
        ← map_add, message_cons, List.length_cons]
      apply congrArg residue
      ring

theorem toPolynomial_update (r : UInt32) (bytes : List UInt8) :
    toPolynomial (update r bytes) =
      (message bytes * X ^ 32 + toPolynomial r * X ^ (8 * bytes.length)) %ₘ generator := by
  have hself : toPolynomial (update r bytes) %ₘ generator = toPolynomial (update r bytes) := by
    rw [modByMonic_eq_self_iff monic_generator, degree_generator]
    exact degree_toPolynomial_lt _
  rw [← hself]
  exact modByMonic_eq_of_dvd_sub monic_generator (AdjoinRoot.mk_eq_mk.mp (residue_update r bytes))

theorem toPolynomial_start : toPolynomial start = ones := by
  have hbits : bits 32 start.toNat = List.replicate 32 true := by decide
  rw [toPolynomial, hbits, ones]

theorem toPolynomial_finish (r : UInt32) : toPolynomial (finish r) = toPolynomial r + ones := by
  have hfinish : finish r = r ^^^ start := rfl
  rw [hfinish, toPolynomial_xor, toPolynomial_start]

theorem crc32_eq_division (bytes : List UInt8) : crc32 bytes = division bytes := by
  rw [← ofPolynomial_toPolynomial (crc32 bytes), crc32, toPolynomial_finish, toPolynomial_update,
    toPolynomial_start, division]

/-- The digits from 1 to 9 have the checksum that the standard gives for them. -/
example : crc32 [0x31, 0x32, 0x33, 0x34, 0x35, 0x36, 0x37, 0x38, 0x39] = 0xCBF43926 := by cbv

theorem foldl_update (r : UInt32) (chunks : List (List UInt8)) :
    chunks.foldl update r = update r chunks.flatten := by
  induction chunks generalizing r with
  | nil => rfl
  | cons chunk rest ih => rw [List.foldl_cons, ih, List.flatten_cons, update_append]

theorem finish_foldl_update (chunks : List (List UInt8)) :
    finish (chunks.foldl update start) = division chunks.flatten := by
  rw [foldl_update]
  exact crc32_eq_division _

end Division

end FeatureFlags.Checksum
