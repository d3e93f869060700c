import FeatureFlags.Proofs.Text.Blank
import FeatureFlags.Timestamp.Reading

namespace FeatureFlags.Timestamp

/-- A point in time that a clock can show. In a leap second the second is the last one of
its minute. -/
structure Valid (t : Timestamp) : Prop where
  date : t.date.isValid = true
  second : t.second < secondsPerDay
  nanos : t.nanos < nanosPerSecond ∨ (t.nanos < 2 * nanosPerSecond ∧ t.second % 60 = 59)

section Digits

/-- What can follow digits. -/
def EndsDigits (rest : List Char) : Prop :=
  ∀ c ∈ rest.head?, c.isDigit = false

theorem isDigit_of_mem_padded {width n : Nat} {c : Char} (h : c ∈ padded width n) : c.isDigit := by
  rcases List.mem_append.mp h with h | h
  · rw [List.eq_of_mem_replicate h]
    rfl
  · exact Nat.isDigit_of_mem_toDigits (by omega) (by omega) h

theorem padded_ne_nil (width n : Nat) : padded width n ≠ [] :=
  List.append_ne_nil_of_right_ne_nil _ Nat.toDigits_ne_nil

theorem digitsValue_padded (width n : Nat) : Number.digitsValue (padded width n) = n := by
  show Nat.ofDigitChars 10 (_ ++ Nat.toDigits 10 n) 0 = _
  rw [Nat.ofDigitChars_append, Nat.ofDigitChars_replicate_zero, Nat.mul_zero,
    Nat.ofDigitChars_ten_toDigits]

theorem length_padded {width n : Nat} (hpos : 0 < width) (h : n < 10 ^ width) :
    (padded width n).length = width := by
  have hdigits : (Nat.toDigits 10 n).length ≤ width :=
    (Nat.length_toDigits_le_iff (by omega) hpos).mpr h
  rw [padded, List.length_append, List.length_replicate]
  omega

theorem takeDigits_append {most : Nat} {digits rest : List Char} (hne : digits ≠ [])
    (hdigits : ∀ c ∈ digits, c.isDigit) (hmost : digits.length ≤ most) (hrest : EndsDigits rest) :
    takeDigits most (digits ++ rest) = some (digits, rest) := by
  have htake : (digits ++ rest).take most = digits ++ rest.take (most - digits.length) := by
    rw [List.take_append, List.take_of_length_le hmost]
  have hends : EndsDigits (rest.take (most - digits.length)) := by
    intro c hc
    rw [List.head?_take] at hc
    split at hc
    · cases hc
    · exact hrest c hc
  obtain ⟨hdigits, -⟩ := Text.takeWhile_dropWhile_iff.mpr ⟨rfl, hdigits, hends⟩
  rw [takeDigits, htake, hdigits]
  simp [hne]

theorem endsDigits_cons {c : Char} (hc : c.isDigit = false) (rest : List Char) :
    EndsDigits (c :: rest) := by
  rintro d ⟨⟩
  exact hc

theorem skipBlank_cons {c : Char} (hc : Text.isBlank c = false) (rest : List Char) :
    skipBlank (c :: rest) = c :: rest :=
  List.dropWhile_cons_of_neg (by simp [hc])

theorem isBlank_of_isDigit {c : Char} (h : c.isDigit) : Text.isBlank c = false :=
  Text.isBlank_eq_false_of h (by decide +kernel)

theorem skipBlank_padded (width n : Nat) (rest : List Char) :
    skipBlank (padded width n ++ rest) = padded width n ++ rest := by
  obtain ⟨c, digits, hcons⟩ := List.exists_cons_of_ne_nil (padded_ne_nil width n)
  have hc : c.isDigit := isDigit_of_mem_padded (by rw [hcons]; exact List.mem_cons_self)
  rw [hcons, List.cons_append, skipBlank_cons (isBlank_of_isDigit hc)]

theorem takeDigits_padded {most width n : Nat} {rest : List Char}
    (hmost : (padded width n).length ≤ most) (hrest : EndsDigits rest) :
    takeDigits most (padded width n ++ rest) = some (padded width n, rest) :=
  takeDigits_append (padded_ne_nil width n) (fun _ => isDigit_of_mem_padded) hmost hrest

theorem takeNumber_padded (low high n : Nat) {rest : List Char} (hlow : low ≤ n) (hhigh : n ≤ high)
    (hsmall : n < 100) (hrest : EndsDigits rest) :
    takeNumber low high (padded 2 n ++ rest) = some (n, rest) := by
  have hlength : (padded 2 n).length ≤ 2 := (length_padded (by omega) hsmall).le
  rw [takeNumber, skipBlank_padded, takeDigits_padded hlength hrest]
  simp [digitsValue_padded, hlow, hhigh]

theorem takeMark_cons {mark : Char} (h : Text.isBlank mark = false) (rest : List Char) :
    takeMark mark (mark :: rest) = some rest := by
  rw [takeMark, skipBlank_cons h]
  simp

theorem takeYear_padded {n : Nat} (h : n ≤ 9999) {rest : List Char} (hrest : EndsDigits rest) :
    takeYear (padded 4 n ++ rest) = some ((n : Int), rest) := by
  have hlength : (padded 4 n).length ≤ 4 := (length_padded (by omega) (by omega)).le
  obtain ⟨c, digits, hcons⟩ := List.exists_cons_of_ne_nil (padded_ne_nil 4 n)
  have hc : c.isDigit := isDigit_of_mem_padded (by rw [hcons]; exact List.mem_cons_self)
  unfold takeYear
  rw [skipBlank_padded]
  split
  · next heq =>
      rw [hcons] at heq
      cases heq
      exact absurd hc (by decide)
  · next heq =>
      rw [hcons] at heq
      cases heq
      exact absurd hc (by decide)
  · simp [takeDigits_padded hlength hrest, digitsValue_padded]

theorem takeYear_yearText (year : Int) {rest : List Char} (hrest : EndsDigits rest) :
    takeYear (yearText year ++ rest) = some (year, rest) := by
  have hlong : (padded 4 year.natAbs).length ≤ (padded 4 year.natAbs ++ rest).length := by simp
  have htake := takeDigits_padded hlong hrest
  by_cases hshort : 0 ≤ year ∧ year ≤ 9999
  · obtain ⟨n, rfl⟩ : ∃ n : Nat, year = n := ⟨year.toNat, by omega⟩
    rw [yearText, if_pos hshort, Int.toNat_natCast, takeYear_padded (by omega) hrest]
  · rw [yearText, if_neg hshort, List.cons_append, takeYear]
    rcases lt_or_ge year 0 with hneg | hnonneg
    · have habs : -(year.natAbs : Int) = year := by omega
      rw [if_pos hneg, skipBlank_cons (by decide +kernel)]
      simp only [htake, Option.bind_eq_bind, Option.bind_some, digitsValue_padded, habs]
    · have habs : (year.natAbs : Int) = year := by omega
      rw [if_neg (by omega), skipBlank_cons (by decide +kernel)]
      simp only [htake, Option.bind_eq_bind, Option.bind_some, digitsValue_padded, habs]

theorem takeFraction_padded {width n : Nat} (hpos : 0 < width) (hwidth : width ≤ 9)
    (h : n < 10 ^ width) {rest : List Char} (hrest : EndsDigits rest) :
    takeFraction ('.' :: padded width n ++ rest) = some (n * 10 ^ (9 - width), rest) := by
  have hlength := length_padded hpos h
  have htake : takeDigits 9 (padded width n ++ rest) = some (padded width n, rest) :=
    takeDigits_padded (by omega) hrest
  rw [List.cons_append, takeFraction, htake]
  simp [digitsValue_padded, hlength, Text.dropWhile_eq_self hrest]

theorem takeFraction_fractionText {nanos : Nat} (h : nanos < nanosPerSecond) (rest : List Char) :
    takeFraction (fractionText nanos ++ 'Z' :: rest) = some (nanos, 'Z' :: rest) := by
  have hends : EndsDigits ('Z' :: rest) := endsDigits_cons rfl rest
  unfold nanosPerSecond at h
  unfold fractionText
  split
  · next hzero => rw [hzero]; rfl
  · split
    · next hmillis =>
        rw [takeFraction_padded (by omega) (by omega) (by omega) hends]
        congr 2
        omega
    · split
      · next hmicros =>
          rw [takeFraction_padded (by omega) (by omega) (by omega) hends]
          congr 2
          omega
      · rw [takeFraction_padded (by omega) (by omega) (by omega) hends]
        simp

theorem endsDigits_fractionText (nanos : Nat) (rest : List Char) :
    EndsDigits (fractionText nanos ++ 'Z' :: rest) := by
  unfold fractionText
  split
  · exact endsDigits_cons rfl rest
  · split
    · exact endsDigits_cons rfl _
    · split <;> exact endsDigits_cons rfl _

end Digits

/-- The time of day as it is written, before its zone. -/
def timeText (t : Timestamp) : List Char :=
  padded 2 (t.second / 3600) ++ ':' :: (padded 2 (t.second / 60 % 60) ++ ':' ::
    (padded 2 (t.second % 60 + if nanosPerSecond ≤ t.nanos then 1 else 0) ++
      fractionText (t.nanos % nanosPerSecond)))

def dateText (d : Date) : List Char :=
  yearText d.year ++ '-' :: (padded 2 d.month ++ '-' :: padded 2 d.day)

theorem characters_eq (t : Timestamp) :
    t.characters = dateText t.date ++ 'T' :: (timeText t ++ ['Z']) := by
  simp [characters, dateText, timeText]

theorem takeDate_dateText {d : Date} (h : d.isValid = true) {rest : List Char}
    (hrest : EndsDigits rest) : takeDate (dateText d ++ rest) = some (d, rest) := by
  have hbounds := h
  simp only [Date.isValid, Bool.and_eq_true, decide_eq_true_eq] at hbounds
  have hdays : Date.daysInMonth d.year d.month ≤ 31 := by
    unfold Date.daysInMonth
    split
    · split <;> omega
    · omega
    · omega
    · omega
    · omega
    · omega
  have hdash : ∀ rest, EndsDigits ('-' :: rest) := endsDigits_cons rfl
  have hmark : ∀ rest, takeMark '-' ('-' :: rest) = some rest :=
    takeMark_cons (by decide +kernel)
  have hsplit : dateText d ++ rest =
      yearText d.year ++ '-' :: (padded 2 d.month ++ '-' :: (padded 2 d.day ++ rest)) := by
    simp [dateText]
  have hmonth := takeNumber_padded 1 12 d.month (by omega) (by omega)
    (by omega) (hdash (padded 2 d.day ++ rest))
  have hday := takeNumber_padded 1 31 d.day (by omega) (by omega)
    (by omega) hrest
  rw [hsplit, takeDate, takeYear_yearText _ (hdash _)]
  simp [hmark, hmonth, hday, h]

theorem takeTime_timeText {t : Timestamp} (h : t.Valid) (rest : List Char) :
    takeTime (timeText t ++ 'Z' :: rest) = some (t.second, t.nanos, 'Z' :: rest) := by
  obtain ⟨-, hsecond, hnanos⟩ := h
  unfold secondsPerDay at hsecond
  have hcolon : ∀ rest, EndsDigits (':' :: rest) := endsDigits_cons rfl
  have hmark : ∀ rest, takeMark ':' (':' :: rest) = some rest :=
    takeMark_cons (by decide +kernel)
  obtain ⟨leap, hleap⟩ : ∃ leap, leap = if nanosPerSecond ≤ t.nanos then 1 else 0 := ⟨_, rfl⟩
  obtain ⟨tail, htail⟩ : ∃ tail, tail = fractionText (t.nanos % nanosPerSecond) ++ 'Z' :: rest :=
    ⟨_, rfl⟩
  have hfraction : takeFraction tail = some (t.nanos % nanosPerSecond, 'Z' :: rest) := by
    rw [htail]
    exact takeFraction_fractionText (Nat.mod_lt _ (by decide)) rest
  have hends : EndsDigits tail := by
    rw [htail]
    exact endsDigits_fractionText _ rest
  have hsplit : timeText t ++ 'Z' :: rest = padded 2 (t.second / 3600) ++ ':' ::
      (padded 2 (t.second / 60 % 60) ++ ':' :: (padded 2 (t.second % 60 + leap) ++ tail)) := by
    simp [timeText, hleap, htail]
  have hbound : t.second % 60 + leap ≤ 60 := by
    rw [hleap]
    split <;> omega
  have hhour := takeNumber_padded 0 23 (t.second / 3600) (by omega) (by omega) (by omega)
    (hcolon (padded 2 (t.second / 60 % 60) ++ ':' :: (padded 2 (t.second % 60 + leap) ++ tail)))
  have hminute := takeNumber_padded 0 59 (t.second / 60 % 60) (by omega) (by omega) (by omega)
    (hcolon (padded 2 (t.second % 60 + leap) ++ tail))
  have hrest := takeNumber_padded 0 60 (t.second % 60 + leap) (by omega) (by omega) (by omega) hends
  rw [hsplit, takeTime, hhour]
  simp only [hmark, hminute, hrest, hfraction, Option.bind_eq_bind, Option.bind_some]
  -- a leap second is written as the second 60, and is read as the one before it
  rcases Nat.lt_or_ge t.nanos nanosPerSecond with hplain | hleapSecond
  · have hnone : leap = 0 := by rw [hleap, if_neg (by omega)]
    rw [if_neg (by omega), hnone, Nat.mod_eq_of_lt hplain]
    congr 2
    omega
  · have hone : leap = 1 := by rw [hleap, if_pos hleapSecond]
    have hless : t.nanos - nanosPerSecond < nanosPerSecond := by omega
    rw [if_pos (by omega), Nat.mod_eq_sub_mod hleapSecond, Nat.mod_eq_of_lt hless,
      Nat.sub_add_cancel hleapSecond]
    congr 2
    omega

theorem read?_text {t : Timestamp} (h : t.Valid) : read? t.text = some t := by
  have hT : EndsDigits ('T' :: (timeText t ++ ['Z'])) := endsDigits_cons rfl _
  have hzone : takeZone (skipBlank ['Z']) = some (0, []) := by
    rw [skipBlank_cons (by decide +kernel)]
    rfl
  have hend : skipBlank [] = [] := rfl
  have hutc : toUTC? t.date t.second t.nanos 0 = some t := by
    have hsecond : ¬ ((secondsPerDay : Int) ≤ t.second) := by
      have := h.second
      omega
    have hnonneg : ¬ ((t.second : Int) < 0) := by omega
    have hday : (0 : Int).natAbs < secondsPerDay := by decide
    rw [toUTC?, if_pos hday]
    simp only [Int.sub_zero, if_neg hnonneg, if_neg hsecond, Int.toNat_natCast]
    rw [if_pos h.date]
  rw [read?, text, String.toList_ofList, characters_eq, readCharacters?,
    takeDate_dateText h.date hT]
  simp [takeTime_timeText h, hzone, hend, hutc]

end FeatureFlags.Timestamp
