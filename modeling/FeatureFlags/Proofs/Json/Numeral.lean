import FeatureFlags.Json.Parser
import FeatureFlags.Json.Printer
import FeatureFlags.Proofs.Number.RoundTrip

namespace FeatureFlags

namespace Document

namespace Exponent

structure WellFormed (e : Exponent) : Prop where
  mark : e.mark = 'e' ∨ e.mark = 'E'
  sign : e.sign = [] ∨ e.sign = ['-'] ∨ e.sign = ['+']
  digits_ne : e.digits ≠ []
  digits : ∀ c ∈ e.digits, c.isDigit

end Exponent

namespace Numeral

structure WellFormed (n : Numeral) : Prop where
  whole_ne : n.whole ≠ []
  whole : ∀ c ∈ n.whole, c.isDigit
  zero : ∀ rest, n.whole = '0' :: rest → rest = []
  fraction : ∀ c ∈ n.fraction, c.isDigit
  exponent : ∀ e, n.exponent = some e → e.WellFormed

end Numeral

namespace Token

/-- What can follow a number: no digit, no point and no mark of an exponent. -/
def EndsNumber (rest : List Char) : Prop :=
  ∀ c ∈ rest.head?, c.isDigit = false ∧ c ≠ '.' ∧ c ≠ 'e' ∧ c ≠ 'E'

section Scanning

variable {rest : List Char}

theorem EndsNumber.isDigit (h : EndsNumber rest) : ∀ c ∈ rest.head?, c.isDigit = false :=
  fun c hc => (h c hc).1

theorem scanDigits_append {digits : List Char} (hne : digits ≠ [])
    (hdigits : ∀ c ∈ digits, c.isDigit) (hrest : ∀ c ∈ rest.head?, c.isDigit = false) :
    scanDigits (digits ++ rest) = some (digits, rest) := by
  obtain ⟨htake, hdrop⟩ := Text.takeWhile_dropWhile_iff.mpr ⟨rfl, hdigits, hrest⟩
  rw [scanDigits, htake, hdrop, if_neg (by simpa using hne)]

theorem scanSigned_append {e : Exponent} (he : e.WellFormed) (hrest : EndsNumber rest) :
    scanSigned e.mark e.sign (e.digits ++ rest) = some (some e, rest) := by
  rw [scanSigned, scanDigits_append he.digits_ne he.digits hrest.isDigit]

theorem scanExponent_append {e : Exponent} (he : e.WellFormed) (hrest : EndsNumber rest) :
    scanExponent (e.characters ++ rest) = some (some e, rest) := by
  have hscan := scanSigned_append he hrest
  obtain ⟨d, digits, hdigits⟩ := List.exists_cons_of_ne_nil he.digits_ne
  have hd : d.isDigit := he.digits d (by simp [hdigits])
  have hsplit : e.characters ++ rest = e.mark :: (e.sign ++ (e.digits ++ rest)) := by
    simp [Exponent.characters]
  rw [hsplit]
  unfold scanExponent
  dsimp only
  rw [if_pos he.mark]
  rcases he.sign with hsign | hsign | hsign <;> rw [hsign] at hscan ⊢
  · -- without a sign the digits come at once, and none of them is a sign
    rw [hdigits] at hscan ⊢
    split
    · next heq =>
        cases heq
        exact absurd hd (by decide)
    · next heq =>
        cases heq
        exact absurd hd (by decide)
    · exact hscan
  · exact hscan
  · exact hscan

theorem scanExponent_of_endsNumber (hrest : EndsNumber rest) :
    scanExponent rest = some (none, rest) := by
  cases rest with
  | nil => rfl
  | cons c rest =>
      obtain ⟨-, -, he, hE⟩ := hrest c rfl
      unfold scanExponent
      dsimp only
      rw [if_neg (by simp [he, hE])]

theorem scanFraction_of_ne {c : Char} (hc : c ≠ '.') (cs : List Char) :
    scanFraction (c :: cs) = some ([], c :: cs) := by
  unfold scanFraction
  split
  · next heq =>
      cases heq
      exact absurd rfl hc
  · rfl

theorem scanWhole_append {whole : List Char} (hne : whole ≠ []) (hdigits : ∀ c ∈ whole, c.isDigit)
    (hzero : ∀ tail, whole = '0' :: tail → tail = [])
    (hrest : ∀ c ∈ rest.head?, c.isDigit = false) :
    scanWhole (whole ++ rest) = some (whole, rest) := by
  obtain ⟨c, tail, rfl⟩ := List.exists_cons_of_ne_nil hne
  obtain ⟨hc, htail⟩ := List.forall_mem_cons.mp hdigits
  obtain ⟨htake, hdrop⟩ := Text.takeWhile_dropWhile_iff.mpr ⟨rfl, htail, hrest⟩
  rw [List.cons_append]
  unfold scanWhole
  split
  · next heq =>
      cases heq
      rw [hzero tail rfl, List.nil_append]
  · next heq =>
      cases heq
      rw [if_pos hc, htake, hdrop]
  · next heq => cases heq

theorem scanExponent_optional {exponent : Option Exponent}
    (he : ∀ e, exponent = some e → e.WellFormed) (hrest : EndsNumber rest) :
    scanExponent (exponent.elim [] Exponent.characters ++ rest) = some (exponent, rest) ∧
      ∀ c ∈ (exponent.elim [] Exponent.characters ++ rest).head?, c.isDigit = false ∧ c ≠ '.' := by
  cases exponent with
  | none =>
      refine ⟨scanExponent_of_endsNumber hrest, ?_⟩
      intro c hc
      exact ⟨(hrest c hc).1, (hrest c hc).2.1⟩
  | some e =>
      refine ⟨scanExponent_append (he e rfl) hrest, ?_⟩
      intro c hc
      obtain rfl : e.mark = c := by simpa [Exponent.characters] using hc
      rcases (he e rfl).mark with hmark | hmark <;> rw [hmark] <;> decide

theorem scanFraction_optional {fraction : List Char} (hfraction : ∀ c ∈ fraction, c.isDigit)
    (hrest : ∀ c ∈ rest.head?, c.isDigit = false ∧ c ≠ '.') :
    scanFraction ((if fraction.isEmpty then [] else '.' :: fraction) ++ rest) =
        some (fraction, rest) ∧
      ∀ c ∈ ((if fraction.isEmpty then [] else '.' :: fraction) ++ rest).head?,
        c.isDigit = false := by
  cases fraction with
  | nil =>
      refine ⟨?_, fun c hc => (hrest c hc).1⟩
      cases rest with
      | nil => rfl
      | cons c rest => exact scanFraction_of_ne (hrest c rfl).2 rest
  | cons d fraction =>
      refine ⟨scanDigits_append (by simp) hfraction fun c hc => (hrest c hc).1, ?_⟩
      rintro c ⟨⟩
      rfl

theorem scanNumeral_append {n : Numeral} (hn : n.WellFormed) (hrest : EndsNumber rest) :
    scanNumeral n.negative (n.whole ++ ((if n.fraction.isEmpty then [] else '.' :: n.fraction) ++
      (n.exponent.elim [] Exponent.characters ++ rest))) = some (.number n, rest) := by
  obtain ⟨hexponent, hends⟩ := scanExponent_optional hn.exponent hrest
  obtain ⟨hfraction, hends⟩ := scanFraction_optional hn.fraction hends
  have hwhole := scanWhole_append hn.whole_ne hn.whole hn.zero hends
  simp only [scanNumeral, hwhole, hfraction, hexponent]

theorem scan_of_isDigit {c : Char} (hc : c.isDigit) (cs : List Char) :
    scan (c :: cs) = scanNumeral false (c :: cs) := by
  unfold scan
  split <;> first
    | rfl
    | next heq =>
        cases heq
        exact absurd hc (by decide)

theorem scan_characters {n : Numeral} (hn : n.WellFormed) (hrest : EndsNumber rest) :
    scan (n.characters ++ rest) = some (.number n, rest) := by
  have hscan := scanNumeral_append hn hrest
  have hsplit : n.characters ++ rest = (if n.negative then ['-'] else []) ++ (n.whole ++
      ((if n.fraction.isEmpty then [] else '.' :: n.fraction) ++
        (n.exponent.elim [] Exponent.characters ++ rest))) := by
    cases h : n.exponent <;> simp [Numeral.characters, h]
  rw [hsplit]
  cases hnegative : n.negative with
  | true =>
      rw [hnegative] at hscan
      exact hscan
  | false =>
      rw [hnegative] at hscan
      obtain ⟨c, tail, hwhole⟩ := List.exists_cons_of_ne_nil hn.whole_ne
      have hc : c.isDigit := hn.whole c (by simp [hwhole])
      rw [hwhole] at hscan ⊢
      exact (scan_of_isDigit hc _).trans hscan

end Scanning

end Token

end Document

theorem eq_nil_of_toDigits_eq_cons {n : Nat} {rest : List Char}
    (h : Nat.toDigits 10 n = '0' :: rest) : rest = [] := by
  induction n using Nat.strongRecOn generalizing rest with
  | ind n ih =>
      rcases Nat.lt_or_ge n 10 with hsmall | hlarge
      · rw [Nat.toDigits_of_lt_base hsmall] at h
        exact (List.cons.inj h).2.symm
      · exfalso
        rw [Nat.toDigits_of_base_le (by omega) hlarge] at h
        obtain ⟨c, tail, hdigits⟩ := List.exists_cons_of_ne_nil
          (Nat.toDigits_ne_nil (n := n / 10) (b := 10))
        rw [hdigits, List.cons_append] at h
        obtain rfl := (List.cons.inj h).1
        obtain rfl := ih (n / 10) (by omega) hdigits
        have hvalue := Nat.ofDigitChars_ten_toDigits (n := n / 10)
        rw [hdigits] at hvalue
        have hzero : Nat.ofDigitChars 10 ['0'] 0 = 0 := by decide
        omega

namespace Decimal

def pointed (d : Decimal) : List Char :=
  List.replicate ((-d.exponent).toNat + 1 - d.characters.length) '0' ++ d.characters

/-- The numeral by which JSON text has a decimal. -/
def numeral (negative : Bool) (d : Decimal) : Document.Numeral :=
  if -5 ≤ d.magnitude ∧ d.magnitude ≤ 15 then
    if 0 ≤ d.exponent then
      ⟨negative, d.characters ++ List.replicate d.exponent.toNat '0', ['0'], none⟩
    else
      ⟨negative, d.pointed.take (d.pointed.length - (-d.exponent).toNat),
        d.pointed.drop (d.pointed.length - (-d.exponent).toNat), none⟩
  else
    ⟨negative, d.characters.take 1, d.characters.drop 1,
      some ⟨'e', [if d.magnitude < 0 then '-' else '+'], Nat.toDigits 10 d.magnitude.natAbs⟩⟩

variable {d : Decimal}

theorem isDigit_of_mem_pointed {c : Char} (h : c ∈ d.pointed) : c.isDigit := by
  rcases List.mem_append.mp h with h | h
  · exact isDigit_of_mem_zeros h
  · exact isDigit_of_mem_characters h

theorem characters_ne_nil (d : Decimal) : d.characters ≠ [] :=
  Nat.toDigits_ne_nil

theorem lt_length_pointed (d : Decimal) : (-d.exponent).toNat < d.pointed.length := by
  rw [pointed, List.length_append, List.length_replicate]
  omega

theorem eq_nil_of_characters_eq_cons {rest : List Char} (h : d.characters = '0' :: rest) :
    rest = [] ∧ d.digits = 0 := by
  obtain rfl := eq_nil_of_toDigits_eq_cons h
  refine ⟨rfl, ?_⟩
  rw [← Nat.ofDigitChars_ten_toDigits (n := d.digits), show Nat.toDigits 10 d.digits = _ from h]
  decide

theorem isEmpty_drop_pointed (h : ¬ 0 ≤ d.exponent) :
    (d.pointed.drop (d.pointed.length - (-d.exponent).toNat)).isEmpty = false := by
  have hlength := lt_length_pointed d
  rw [List.isEmpty_eq_false_iff]
  apply List.ne_nil_of_length_pos
  rw [List.length_drop]
  omega

theorem eq_nil_of_pointed_eq_cons {rest : List Char}
    (h : d.pointed.take (d.pointed.length - (-d.exponent).toNat) = '0' :: rest) : rest = [] := by
  apply List.eq_nil_of_length_eq_zero
  have hlength := congrArg List.length h
  rw [List.length_take, List.length_cons] at hlength
  rcases Nat.lt_or_ge (-d.exponent).toNat d.characters.length with hlong | hshort
  · have hpointed : d.pointed = d.characters := by
      rw [pointed, show (-d.exponent).toNat + 1 - d.characters.length = 0 by omega]
      rfl
    obtain ⟨c, tail, hdigits⟩ := List.exists_cons_of_ne_nil (characters_ne_nil d)
    obtain rfl : c = '0' := by
      have hhead := congrArg List.head? h
      rw [List.head?_take, if_neg (by omega), hpointed, hdigits] at hhead
      exact Option.some.inj hhead
    have hone := congrArg List.length hdigits
    rw [(eq_nil_of_characters_eq_cons hdigits).1, ← hpointed, List.length_singleton] at hone
    omega
  · have hpointed : d.pointed.length = (-d.exponent).toNat + 1 := by
      rw [pointed, List.length_append, List.length_replicate]
      omega
    omega

theorem wellFormed_numeral (negative : Bool) (hzero : d.digits = 0 → d.exponent = 0) :
    (d.numeral negative).WellFormed := by
  have hlength := lt_length_pointed d
  unfold numeral
  split
  · split
    · next hexponent =>
        refine ⟨by simp [characters_ne_nil], ?_, ?_, by simp, by simp⟩
        · intro c hc
          rcases List.mem_append.mp hc with hc | hc
          · exact isDigit_of_mem_characters hc
          · exact isDigit_of_mem_zeros hc
        · intro rest hwhole
          obtain ⟨c, tail, hdigits⟩ := List.exists_cons_of_ne_nil (characters_ne_nil d)
          rw [hdigits] at hwhole
          obtain ⟨rfl, hrest⟩ := List.cons.inj hwhole
          obtain ⟨htail, hvalue⟩ := eq_nil_of_characters_eq_cons hdigits
          rw [← hrest, htail, hzero hvalue]
          rfl
    · next hexponent =>
        refine ⟨?_, ?_, ?_, ?_, by simp⟩
        · apply List.ne_nil_of_length_pos
          rw [List.length_take]
          omega
        · exact fun c hc => isDigit_of_mem_pointed (List.mem_of_mem_take hc)
        · exact fun rest => eq_nil_of_pointed_eq_cons
        · exact fun c hc => isDigit_of_mem_pointed (List.mem_of_mem_drop hc)
  · obtain ⟨c, tail, hdigits⟩ := List.exists_cons_of_ne_nil (characters_ne_nil d)
    have hall : ∀ c ∈ d.characters, c.isDigit := fun c hc => isDigit_of_mem_characters hc
    refine ⟨by simp [hdigits], fun c hc => hall c (List.mem_of_mem_take hc), ?_,
      fun c hc => hall c (List.mem_of_mem_drop hc), ?_⟩
    · rintro rest hrest
      simp only [hdigits, List.take_succ_cons, List.take_zero, List.cons.injEq] at hrest
      exact hrest.2.symm
    · rintro e ⟨⟩
      refine ⟨.inl rfl, ?_, Nat.toDigits_ne_nil, ?_⟩
      · split
        · exact .inr (.inl rfl)
        · exact .inr (.inr rfl)
      · exact fun c hc => Nat.isDigit_of_mem_toDigits (by omega) (by omega) hc

theorem characters_numeral (negative : Bool) (d : Decimal) :
    (d.numeral negative).characters = (if negative then ['-'] else []) ++
      if -5 ≤ d.magnitude ∧ d.magnitude ≤ 15 then
        d.positional ++ if 0 ≤ d.exponent then ['.', '0'] else []
      else d.scientific := by
  have hlength := lt_length_pointed d
  unfold numeral
  split
  · split
    · next hexponent => simp [Document.Numeral.characters, positional, hexponent]
    · next hexponent =>
        have hpositional : d.positional = d.pointed.take (d.pointed.length - (-d.exponent).toNat) ++
            '.' :: d.pointed.drop (d.pointed.length - (-d.exponent).toNat) := by
          rw [positional, if_neg hexponent]
          rfl
        rw [Document.Numeral.characters, hpositional, isEmpty_drop_pointed hexponent]
        simp
  · simp [Document.Numeral.characters, scientific, Document.Exponent.characters]

theorem exponent_of_digits_eq_zero {tie : Tie} {units : Nat}
    (hunits : Rounding.Representable units) (h : (shortest tie units).digits = 0) :
    (shortest tie units).exponent = 0 := by
  have hzero := nearestUnits_shortest tie hunits
  rw [nearestUnits_of_digits_eq_zero h] at hzero
  rw [← hzero]
  rfl

end Decimal

namespace Number

def numeral (x : Number) : Document.Numeral :=
  (Decimal.shortest .even x.units).numeral x.negative

theorem wellFormed_numeral (x : Number) : x.numeral.WellFormed :=
  Decimal.wellFormed_numeral _ (Decimal.exponent_of_digits_eq_zero x.representable)

theorem characters_numeral (x : Number) : x.numeral.characters = x.json :=
  Decimal.characters_numeral _ _

theorem numeric?_numeral (x : Number) :
    x.numeral.numeric? = x.numeral.real?.map .real := by
  have hreal : (x.numeral.fraction.isEmpty && x.numeral.exponent.isNone) = false := by
    unfold numeral Decimal.numeral
    split
    · split
      · rfl
      · next hexponent => simp [Decimal.isEmpty_drop_pointed hexponent]
    · simp
  simp [Document.Numeral.numeric?, hreal]

end Number

namespace Json.Numeric

def numeral : Numeric → Document.Numeral
  | .integer n => ⟨n < 0, Nat.toDigits 10 n.natAbs, [], none⟩
  | .real x => x.numeral

theorem wellFormed_numeral (n : Numeric) : n.numeral.WellFormed := by
  cases n with
  | real x => exact x.wellFormed_numeral
  | integer n =>
      refine ⟨Nat.toDigits_ne_nil, ?_, ?_, by simp [numeral], by simp [numeral]⟩
      · exact fun c hc => Nat.isDigit_of_mem_toDigits (by omega) (by omega) hc
      · exact fun rest => eq_nil_of_toDigits_eq_cons

theorem characters_numeral (n : Numeric) : n.numeral.characters = n.characters := by
  cases n with
  | real x => exact x.characters_numeral
  | integer n => simp [numeral, Document.Numeral.characters, characters]

/-- Integers have 64 bits, signed or not. -/
def Bounded : Numeric → Prop
  | .integer n => -Nat.pow 2 63 ≤ n ∧ n < UInt64.size
  | .real _ => True

/-- What is written for the number is the number again. -/
def ReadsBack : Numeric → Prop
  | .integer n => (integer n).Bounded
  | .real x => x.numeral.real? = some x

theorem numeric?_numeral {n : Numeric} (h : n.ReadsBack) : n.numeral.numeric? = some n := by
  cases n with
  | real x => rw [numeral, Number.numeric?_numeral, h, Option.map_some]
  | integer n =>
      obtain ⟨hlow, hhigh⟩ := h
      have hvalue : Number.digitsValue (Nat.toDigits 10 n.natAbs) = n.natAbs :=
        Nat.ofDigitChars_ten_toDigits
      rcases lt_or_ge n 0 with hneg | hnonneg
      · obtain ⟨m, rfl⟩ : ∃ m : Nat, n = -m := ⟨n.natAbs, by omega⟩
        have hbound : 0 < m ∧ m ≤ Nat.pow 2 63 := by omega
        simp only [Int.natAbs_neg, Int.natAbs_natCast] at hvalue
        simp [numeral, Document.Numeral.numeric?, hvalue, hbound]
      · obtain ⟨m, rfl⟩ : ∃ m : Nat, n = m := ⟨n.natAbs, by omega⟩
        have hbound : m < UInt64.size := by omega
        simp only [Int.natAbs_natCast] at hvalue
        simp [numeral, Document.Numeral.numeric?, hvalue, hbound]

end Json.Numeric

end FeatureFlags
