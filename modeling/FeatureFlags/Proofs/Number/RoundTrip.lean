import FeatureFlags.Number.Reading
import FeatureFlags.Proofs.Number.Rounding
import FeatureFlags.Proofs.Text.Blank
import Mathlib.Data.List.TakeDrop

/-!
A number's shortest decimal rounds to the number, and its plain spelling reads back as it.
-/

namespace FeatureFlags

namespace Number

theorem one_pos : 0 < one := by
  decide +kernel

theorem ofUnits?_of_nearest {x : Number} {num den : Nat}
    (h : Rounding.nearest num den = x.units) : ofUnits? x.negative num den = some x := by
  have hlt : Rounding.nearest num den < limit := by
    rw [h]
    exact x.units_lt
  rw [ofUnits?, dif_pos hlt]
  cases x
  simp_all

end Number

namespace Decimal

theorem ratio_of_nonneg {d : Decimal} (h : 0 ≤ d.exponent) :
    d.ratio = (d.digits * 10 ^ d.exponent.toNat * Number.one, 1) := by
  rw [ratio, if_pos h]
  rfl

theorem ratio_of_neg {d : Decimal} (h : d.exponent < 0) :
    d.ratio = (d.digits * Number.one, 10 ^ (-d.exponent).toNat) := by
  rw [ratio, if_neg (by omega)]
  rfl

theorem ratio_pos (d : Decimal) : 0 < d.ratio.2 := by
  unfold ratio
  split
  · exact Nat.one_pos
  · exact Nat.pow_pos (by omega)

theorem nearestUnits_of_onGrid? {tie : Tie} {units : Nat} {exponent : Int} {d : Decimal}
    (h : onGrid? tie units exponent = some d) : d.nearestUnits = units := by
  unfold onGrid? at h
  dsimp only at h
  split at h
  · next hbelow =>
      split at h
      · next habove =>
          cases h
          exact habove.1
      · cases h
        exact hbelow
  · split at h
    · next habove =>
        cases h
        exact habove
    · cases h

theorem ratio_inFull (units : Nat) :
    ∃ den, 0 < den ∧ (inFull units).ratio = (units * den, den) := by
  obtain ⟨n, hpos, hfull, hone⟩ : ∃ n : Nat, 0 < n ∧
      inFull units = ⟨units * Nat.pow 5 n, -(n : Int)⟩ ∧ Number.one = Nat.pow 2 n := by
    refine ⟨1074, by omega, ?_, Number.one.eq_1⟩
    simp only [inFull, Nat.cast_ofNat]
  refine ⟨10 ^ n, Nat.pow_pos (by omega), ?_⟩
  rw [hfull, ratio_of_neg (show -(n : Int) < 0 by omega), hone]
  simp only [Nat.pow_eq, Int.neg_neg, Int.toNat_natCast, Nat.mul_assoc, ← Nat.mul_pow]

theorem nearestUnits_inFull {units : Nat} (h : Rounding.Representable units) :
    (inFull units).nearestUnits = units := by
  obtain ⟨den, hden, hratio⟩ := ratio_inFull units
  rw [nearestUnits, hratio]
  exact Rounding.nearest_mul_self h hden

-- The powers in the grids and in the full decimal are too large for Lean to open the search
-- by its equations.
theorem search_zero (tie : Tie) (units : Nat) (exponent : Int) :
    search tie units 0 exponent = inFull units := by
  delta search
  rfl

theorem search_succ (tie : Tie) (units steps : Nat) (exponent : Int) :
    search tie units (steps + 1) exponent =
      match onGrid? tie units exponent with
      | some d => d
      | none => search tie units steps (exponent - 1) := by
  delta search
  rfl

theorem nearestUnits_search {tie : Tie} {units : Nat} (h : Rounding.Representable units)
    (steps : Nat) (exponent : Int) : (search tie units steps exponent).nearestUnits = units := by
  induction steps generalizing exponent with
  | zero =>
      rw [search_zero]
      exact nearestUnits_inFull h
  | succ steps ih =>
      rw [search_succ]
      split
      · next hgrid => exact nearestUnits_of_onGrid? hgrid
      · exact ih (exponent - 1)

theorem nearestUnits_of_digits_eq_zero {d : Decimal} (h : d.digits = 0) : d.nearestUnits = 0 := by
  have hnum : d.ratio.1 = 0 := by
    unfold ratio
    split <;> simp [h]
  apply Rounding.nearest_eq_zero
  rw [hnum]
  exact d.ratio_pos

/-- The shortest decimal of a magnitude reads back as the magnitude. -/
theorem nearestUnits_shortest {units : Nat} (tie : Tie) (h : Rounding.Representable units) :
    (shortest tie units).nearestUnits = units := by
  unfold shortest
  split
  · next hzero => rw [hzero, nearestUnits_of_digits_eq_zero rfl]
  · exact nearestUnits_search h _ _

section Reading

variable {d : Decimal}

theorem lt_pow_length (n : Nat) : n < 10 ^ (Nat.toDigits 10 n).length :=
  (Nat.length_toDigits_le_iff (by omega) Nat.length_toDigits_pos).mp (Nat.le_refl _)

theorem pow_le_of_lt_length {n k : Nat} (hne : n ≠ 0) (h : k < (Nat.toDigits 10 n).length) :
    10 ^ k ≤ n := by
  cases k with
  | zero => omega
  | succ k =>
      rw [← Nat.not_lt, ← Nat.length_toDigits_le_iff (by omega) (by omega)]
      omega

theorem pow_mul_le_ratio {n : Nat} (hne : d.digits ≠ 0)
    (h : (n : Int) < (Nat.toDigits 10 d.digits).length + d.exponent) :
    10 ^ n * Number.one * d.ratio.2 ≤ d.ratio.1 := by
  rcases lt_or_ge d.exponent 0 with hneg | hnonneg
  · have hdigits : 10 ^ (n + (-d.exponent).toNat) ≤ d.digits :=
      pow_le_of_lt_length hne (by omega)
    rw [ratio_of_neg hneg]
    calc
      10 ^ n * Number.one * 10 ^ (-d.exponent).toNat
          = 10 ^ (n + (-d.exponent).toNat) * Number.one := by ring
      _ ≤ d.digits * Number.one := Nat.mul_le_mul_right _ hdigits
  · have hlength : 0 < (Nat.toDigits 10 d.digits).length := Nat.length_toDigits_pos
    have hdigits : 10 ^ (n - d.exponent.toNat) ≤ d.digits := pow_le_of_lt_length hne (by omega)
    rw [ratio_of_nonneg hnonneg, Nat.mul_one]
    apply Nat.mul_le_mul_right
    calc
      10 ^ n ≤ 10 ^ (n - d.exponent.toNat + d.exponent.toNat) :=
        Nat.pow_le_pow_right (by omega) (by omega)
      _ = 10 ^ (n - d.exponent.toNat) * 10 ^ d.exponent.toNat := Nat.pow_add 10 _ _
      _ ≤ d.digits * 10 ^ d.exponent.toNat := Nat.mul_le_mul_right _ hdigits

theorem ratio_lt {n : Nat} (h : (Nat.toDigits 10 d.digits).length + d.exponent ≤ -(n : Int)) :
    d.ratio.1 * 10 ^ n < Number.one * d.ratio.2 := by
  have hlength : 0 < (Nat.toDigits 10 d.digits).length := Nat.length_toDigits_pos
  rw [ratio_of_neg (by omega)]
  calc
    d.digits * Number.one * 10 ^ n = Number.one * (d.digits * 10 ^ n) := by ring
    _ < Number.one * (10 ^ (Nat.toDigits 10 d.digits).length * 10 ^ n) := by
      apply Nat.mul_lt_mul_of_pos_left _ Number.one_pos
      exact Nat.mul_lt_mul_of_pos_right (lt_pow_length d.digits) (Nat.pow_pos (by omega))
    _ ≤ Number.one * 10 ^ (-d.exponent).toNat := by
      apply Nat.mul_le_mul_left
      rw [← Nat.pow_add]
      exact Nat.pow_le_pow_right (by omega) (by omega)

theorem exists_reach_eq : ∃ n : Nat, reach = n ∧ Number.limit ≤ 10 ^ n * Number.one ∧
    2 * Number.one ≤ 10 ^ n :=
  ⟨400, rfl, by decide +kernel, by decide +kernel⟩

theorem exists_limit_eq : ∃ k, Number.limit = 2 ^ k :=
  ⟨2098, rfl⟩

/-- The number nearest a decimal is the one whose units the decimal rounds to. -/
theorem toNumber?_of_nearestUnits {x : Number} (h : d.nearestUnits = x.units) :
    d.toNumber? x.negative = some x := by
  obtain ⟨n, hreach, hlimit, hone⟩ := exists_reach_eq
  have hzero : x.units = 0 → Number.ofUnits? x.negative 0 1 = some x := by
    intro hunits
    apply Number.ofUnits?_of_nearest
    rw [hunits]
    exact Rounding.nearest_eq_zero (by omega)
  unfold toNumber?
  dsimp only
  rw [hreach]
  split
  · next hdigits =>
      apply hzero
      rw [← h, nearestUnits_of_digits_eq_zero hdigits]
  · next hdigits =>
      split
      · next hlarge =>
          obtain ⟨k, hk⟩ := exists_limit_eq
          have hratio := pow_mul_le_ratio hdigits hlarge
          have hle : 2 ^ k ≤ d.nearestUnits := by
            apply Rounding.pow_le_nearest d.ratio_pos
            rw [← hk]
            exact (Nat.mul_le_mul_right _ hlimit).trans hratio
          have hlt := x.units_lt
          omega
      · split
        · next hsmall =>
            have hratio : d.ratio.1 * 10 ^ n < Number.one * d.ratio.2 := ratio_lt (by omega)
            apply hzero
            rw [← h]
            apply Rounding.nearest_eq_zero
            apply Nat.lt_of_mul_lt_mul_left (a := Number.one)
            calc
              Number.one * (2 * d.ratio.1) = d.ratio.1 * (2 * Number.one) := by ring
              _ ≤ d.ratio.1 * 10 ^ n := Nat.mul_le_mul_left _ hone
              _ < Number.one * d.ratio.2 := hratio
        · exact Number.ofUnits?_of_nearest h

end Reading

theorem isDigit_of_mem_zeros {n : Nat} {c : Char} (h : c ∈ List.replicate n '0') : c.isDigit := by
  rw [List.eq_of_mem_replicate h]
  rfl

theorem isDigit_of_mem_characters {d : Decimal} {c : Char} (h : c ∈ d.characters) : c.isDigit :=
  Nat.isDigit_of_mem_toDigits (by omega) (by omega) h

theorem positional_of_nonneg {d : Decimal} (h : 0 ≤ d.exponent) :
    d.positional ≠ [] ∧ (∀ c ∈ d.positional, c.isDigit) ∧
      Number.digitsValue d.positional = d.digits * 10 ^ d.exponent.toNat := by
  rw [positional, if_pos h]
  refine ⟨?_, ?_, ?_⟩
  · exact List.append_ne_nil_of_left_ne_nil Nat.toDigits_ne_nil _
  · intro c hc
    rcases List.mem_append.mp hc with hc | hc
    · exact isDigit_of_mem_characters hc
    · exact isDigit_of_mem_zeros hc
  · show Nat.ofDigitChars 10 (Nat.toDigits 10 d.digits ++ _) 0 = _
    rw [Nat.ofDigitChars_append, Nat.ofDigitChars_ten_toDigits, Nat.ofDigitChars_replicate_zero,
      Nat.mul_comm]

theorem positional_of_neg {d : Decimal} (h : d.exponent < 0) :
    ∃ whole fraction, d.positional = whole ++ '.' :: fraction ∧ whole ≠ [] ∧
      (∀ c ∈ whole ++ fraction, c.isDigit) ∧
      Number.digitsValue (whole ++ fraction) = d.digits ∧
      (fraction.length : Int) = -d.exponent := by
  obtain ⟨places, hplaces⟩ : ∃ places : Nat, (places : Int) = -d.exponent :=
    ⟨(-d.exponent).toNat, by omega⟩
  obtain ⟨padded, hpadded⟩ : ∃ padded, padded =
      List.replicate (places + 1 - d.characters.length) '0' ++ d.characters := ⟨_, rfl⟩
  have hlength : places < padded.length := by
    rw [hpadded, List.length_append, List.length_replicate]
    omega
  have hpositional : d.positional = padded.take (padded.length - places) ++
      '.' :: padded.drop (padded.length - places) := by
    rw [positional, if_neg (by omega), ← hplaces, Int.toNat_natCast, hpadded]
  refine ⟨_, _, hpositional, ?_, ?_, ?_, ?_⟩
  · apply List.ne_nil_of_length_pos
    rw [List.length_take]
    omega
  · rw [List.take_append_drop, hpadded]
    intro c hc
    rcases List.mem_append.mp hc with hc | hc
    · exact isDigit_of_mem_zeros hc
    · exact isDigit_of_mem_characters hc
  · rw [List.take_append_drop, hpadded]
    show Nat.ofDigitChars 10 (_ ++ Nat.toDigits 10 d.digits) 0 = _
    rw [Nat.ofDigitChars_append, Nat.ofDigitChars_replicate_zero, Nat.mul_zero,
      Nat.ofDigitChars_ten_toDigits]
  · rw [List.length_drop, ← hplaces]
    omega

theorem positional_head (d : Decimal) :
    ∃ c rest, d.positional = c :: rest ∧ c.isDigit := by
  rcases lt_or_ge d.exponent 0 with hneg | hnonneg
  · obtain ⟨whole, fraction, hsplit, hne, hdigits, -, -⟩ := positional_of_neg hneg
    obtain ⟨c, whole, rfl⟩ := List.exists_cons_of_ne_nil hne
    exact ⟨c, _, hsplit, hdigits c (by simp)⟩
  · obtain ⟨hne, hdigits, -⟩ := positional_of_nonneg hnonneg
    obtain ⟨c, rest, hcons⟩ := List.exists_cons_of_ne_nil hne
    exact ⟨c, rest, hcons, hdigits c (by simp [hcons])⟩

theorem mem_positional {d : Decimal} {c : Char} (h : c ∈ d.positional) : c.isDigit ∨ c = '.' := by
  rcases lt_or_ge d.exponent 0 with hneg | hnonneg
  · obtain ⟨whole, fraction, hsplit, -, hdigits, -, -⟩ := positional_of_neg hneg
    rw [hsplit, List.mem_append, List.mem_cons] at h
    rcases h with h | h | h
    · exact .inl (hdigits c (List.mem_append_left _ h))
    · exact .inr h
    · exact .inl (hdigits c (List.mem_append_right _ h))
  · exact .inl ((positional_of_nonneg hnonneg).2.1 c h)

end Decimal

namespace Number

theorem readMagnitude?_digits {whole : List Char} (hne : whole ≠ [])
    (hdigits : ∀ c ∈ whole, c.isDigit) : readMagnitude? whole = some ⟨digitsValue whole, 0⟩ := by
  obtain ⟨htake, hdrop⟩ := Text.takeWhile_dropWhile_iff.mpr
    ⟨(List.append_nil whole).symm, hdigits, by simp⟩
  unfold readMagnitude?
  rw [List.span_eq_takeWhile_dropWhile, htake, hdrop]
  simp [hne, readExponent?]

theorem readMagnitude?_point {whole fraction : List Char} (hne : whole ≠ [])
    (hdigits : ∀ c ∈ whole ++ fraction, c.isDigit) :
    readMagnitude? (whole ++ '.' :: fraction) =
      some ⟨digitsValue (whole ++ fraction), -fraction.length⟩ := by
  have hwhole : ∀ c ∈ whole, c.isDigit := fun c hc => hdigits c (List.mem_append_left _ hc)
  have hfraction : ∀ c ∈ fraction, c.isDigit := fun c hc => hdigits c (List.mem_append_right _ hc)
  have hpoint : ∀ c ∈ ('.' :: fraction).head?, c.isDigit = false := by
    rintro c ⟨⟩
    rfl
  obtain ⟨htake, hdrop⟩ := Text.takeWhile_dropWhile_iff.mpr ⟨rfl, hwhole, hpoint⟩
  obtain ⟨htake', hdrop'⟩ := Text.takeWhile_dropWhile_iff.mpr
    ⟨(List.append_nil fraction).symm, hfraction, by simp⟩
  unfold readMagnitude?
  rw [List.span_eq_takeWhile_dropWhile, htake, hdrop]
  simp [List.span_eq_takeWhile_dropWhile, htake', hdrop', hne, readExponent?]

/-- The decimal read back from a spelling may have another exponent, but it rounds to the
same units. -/
theorem exists_readMagnitude?_positional (d : Decimal) :
    ∃ d', readMagnitude? d.positional = some d' ∧ d'.nearestUnits = d.nearestUnits := by
  rcases lt_or_ge d.exponent 0 with hneg | hnonneg
  · obtain ⟨whole, fraction, hsplit, hne, hdigits, hvalue, hplaces⟩ :=
      Decimal.positional_of_neg hneg
    refine ⟨d, ?_, rfl⟩
    rw [hsplit, readMagnitude?_point hne hdigits, hvalue, hplaces, Int.neg_neg]
  · obtain ⟨hne, hdigits, hvalue⟩ := Decimal.positional_of_nonneg hnonneg
    refine ⟨_, readMagnitude?_digits hne hdigits, ?_⟩
    rw [Decimal.nearestUnits, Decimal.nearestUnits, Decimal.ratio_of_nonneg hnonneg,
      Decimal.ratio_of_nonneg (Int.le_refl 0), hvalue]
    simp

theorem read?_plain (x : Number) : read? x.plain = some x := by
  obtain ⟨d, hread, hunits⟩ := exists_readMagnitude?_positional (Decimal.shortest .up x.units)
  rw [Decimal.nearestUnits_shortest .up x.representable] at hunits
  have hnumber := Decimal.toNumber?_of_nearestUnits hunits
  obtain ⟨c, rest, hcons, hc⟩ := Decimal.positional_head (Decimal.shortest .up x.units)
  unfold plain sign
  cases hsign : x.negative with
  | true =>
      rw [hsign] at hnumber
      rw [if_pos rfl, List.singleton_append, read?, hread]
      exact hnumber
  | false =>
      rw [hsign] at hnumber
      rw [if_neg (by decide), List.nil_append, hcons, read?.eq_3 _ ?_ ?_, ← hcons, hread]
      · exact hnumber
      · rintro rest' ⟨⟩
        exact absurd hc (by decide)
      · rintro rest' ⟨⟩
        exact absurd hc (by decide)

theorem plain_head (x : Number) : ∃ c rest, x.plain = c :: rest ∧ (c.isDigit ∨ c = '-') := by
  obtain ⟨c, rest, hcons, hc⟩ := Decimal.positional_head (Decimal.shortest .up x.units)
  unfold plain sign
  split
  · exact ⟨'-', _, rfl, .inr rfl⟩
  · exact ⟨c, rest, hcons, .inl hc⟩

theorem mem_plain {x : Number} {c : Char} (h : c ∈ x.plain) :
    c.isDigit ∨ c = '.' ∨ c = '-' := by
  rcases List.mem_append.mp h with h | h
  · unfold sign at h
    split at h
    · exact .inr (.inr (List.mem_singleton.mp h))
    · cases h
  · rcases Decimal.mem_positional h with h | h
    · exact .inl h
    · exact .inr (.inl h)

end Number

end FeatureFlags
