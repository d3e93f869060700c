import FeatureFlags.Proofs.Timestamp.RoundTrip
import Mathlib.Data.List.Induction
import Mathlib.Tactic.Ring

namespace FeatureFlags.Timestamp

variable {cs rest digits : List Char} {n low high : Nat}

theorem digitsValue_lt (hdigits : ∀ c ∈ digits, c.isDigit) :
    Number.digitsValue digits < 10 ^ digits.length := by
  -- the last digit counts least, so the induction is from the end
  induction digits using List.reverseRecOn with
  | nil => exact Nat.one_pos
  | append_singleton digits c ih =>
      have hinit := ih fun d hd => hdigits d (List.mem_append_left _ hd)
      have hlast := hdigits c (List.mem_append_right _ (List.mem_singleton_self c))
      have hvalue : Number.digitsValue (digits ++ [c]) =
          10 * Number.digitsValue digits + (c.toNat - '0'.toNat) := by
        simp [Number.digitsValue]
      have hc : c.toNat - '0'.toNat < 10 := by
        have hle : c.toNat ≤ 57 := (Char.isDigit_iff_toNat.mp hlast).2
        have hzero : '0'.toNat = 48 := rfl
        omega
      rw [hvalue, List.length_append, List.length_singleton, pow_succ]
      omega

theorem takeDigits_spec {most : Nat} (h : takeDigits most cs = some (digits, rest)) :
    digits.length ≤ most ∧ ∀ c ∈ digits, c.isDigit := by
  rw [takeDigits] at h
  split at h <;> cases h
  constructor
  · calc
      _ ≤ (cs.take most).length := (List.takeWhile_prefix _).length_le
      _ ≤ most := List.length_take_le most cs
  · intro c hc
    exact List.mem_takeWhile_imp hc

theorem takeNumber_spec (h : takeNumber low high cs = some (n, rest)) : low ≤ n ∧ n ≤ high := by
  obtain ⟨⟨digits, after⟩, -, h⟩ := Option.bind_eq_some_iff.mp h
  dsimp only at h
  split at h
  · next hbounds =>
      cases h
      exact hbounds
  · cases h

theorem takeFraction_spec {nanos : Nat} (h : takeFraction cs = some (nanos, rest)) :
    nanos < nanosPerSecond := by
  unfold takeFraction at h
  split at h
  · obtain ⟨⟨digits, after⟩, hdigits, h⟩ := Option.bind_eq_some_iff.mp h
    cases h
    obtain ⟨hlength, hall⟩ := takeDigits_spec hdigits
    calc
      _ < 10 ^ digits.length * 10 ^ (9 - digits.length) :=
        Nat.mul_lt_mul_of_pos_right (digitsValue_lt hall) (Nat.pow_pos (by omega))
      _ = nanosPerSecond := by
        rw [← pow_add, Nat.add_sub_cancel' hlength]
        rfl
  · cases h
    decide

theorem takeTime_spec {second nanos : Nat} (h : takeTime cs = some (second, nanos, rest)) :
    second < secondsPerDay ∧
      (nanos < nanosPerSecond ∨ (nanos < 2 * nanosPerSecond ∧ second % 60 = 59)) := by
  obtain ⟨⟨hour, cs1⟩, hhour, h⟩ := Option.bind_eq_some_iff.mp h
  obtain ⟨cs2, -, h⟩ := Option.bind_eq_some_iff.mp h
  obtain ⟨⟨minute, cs3⟩, hminute, h⟩ := Option.bind_eq_some_iff.mp h
  obtain ⟨cs4, -, h⟩ := Option.bind_eq_some_iff.mp h
  obtain ⟨⟨last, cs5⟩, hlast, h⟩ := Option.bind_eq_some_iff.mp h
  obtain ⟨⟨fraction, cs6⟩, hfraction, h⟩ := Option.bind_eq_some_iff.mp h
  have hhour := takeNumber_spec hhour
  have hminute := takeNumber_spec hminute
  have hlast := takeNumber_spec hlast
  have hfraction := takeFraction_spec hfraction
  dsimp only at h
  unfold secondsPerDay
  split at h <;> cases h <;> omega

theorem takeOffset_spec {sign offset : Int} (h : takeOffset sign cs = some (offset, rest)) :
    offset % 60 = 0 := by
  obtain ⟨⟨hours, cs1⟩, -, h⟩ := Option.bind_eq_some_iff.mp h
  obtain ⟨⟨minutes, cs2⟩, -, h⟩ := Option.bind_eq_some_iff.mp h
  cases h
  have hwhole : sign * ((hours : Int) * 3600 + minutes * 60) =
      60 * (sign * (hours * 60 + minutes)) := by ring
  rw [hwhole, Int.mul_emod_right]

theorem takeZone_spec {offset : Int} (h : takeZone cs = some (offset, rest)) : offset % 60 = 0 := by
  unfold takeZone at h
  split at h
  · cases h
    rfl
  · cases h
    rfl
  · exact takeOffset_spec h
  · exact takeOffset_spec h
  · exact takeOffset_spec h
  · split at h <;> cases h
    rfl
  · cases h

theorem valid_of_minutes {date : Date} {second second' nanos : Nat} (hdate : date.isValid = true)
    (hsecond : second' < secondsPerDay) (hminutes : ((second' : Int) - second) % 60 = 0)
    (hnanos : nanos < nanosPerSecond ∨ (nanos < 2 * nanosPerSecond ∧ second % 60 = 59)) :
    Valid ⟨date, second', nanos⟩ := by
  refine ⟨hdate, hsecond, hnanos.imp_right ?_⟩
  rintro ⟨hleap, hlast⟩
  refine ⟨hleap, ?_⟩
  dsimp only
  omega

theorem valid_of_toUTC? {date : Date} {second nanos : Nat} {offset : Int} {t : Timestamp}
    (hsecond : second < secondsPerDay) (hoffset : offset % 60 = 0)
    (hnanos : nanos < nanosPerSecond ∨ (nanos < 2 * nanosPerSecond ∧ second % 60 = 59))
    (h : toUTC? date second nanos offset = some t) : t.Valid := by
  obtain ⟨hday, h⟩ := Option.ite_none_right_eq_some.mp h
  obtain ⟨hvalid, h⟩ := Option.ite_none_right_eq_some.mp h
  unfold secondsPerDay at *
  obtain rfl := Option.some.inj h
  split at hvalid
  · next hbefore =>
      rw [if_pos hbefore]
      exact valid_of_minutes hvalid (by unfold secondsPerDay; omega) (by omega) hnanos
  · next hbefore =>
      rw [if_neg hbefore]
      split at hvalid
      · next hafter =>
          rw [if_pos hafter]
          exact valid_of_minutes hvalid (by unfold secondsPerDay; omega) (by omega) hnanos
      · next hafter =>
          rw [if_neg hafter]
          exact valid_of_minutes hvalid (by unfold secondsPerDay; omega) (by omega) hnanos

theorem valid_of_read? {s : String} {t : Timestamp} (h : read? s = some t) : t.Valid := by
  obtain ⟨⟨date, cs⟩, -, h⟩ := Option.bind_eq_some_iff.mp h
  cases cs with
  | nil => cases h
  | cons separator cs =>
      dsimp only at h
      split at h
      · obtain ⟨⟨second, nanos, cs1⟩, htime, h⟩ := Option.bind_eq_some_iff.mp h
        obtain ⟨⟨offset, cs2⟩, hzone, h⟩ := Option.bind_eq_some_iff.mp h
        dsimp only at h
        split at h
        · obtain ⟨hsecond, hnanos⟩ := takeTime_spec htime
          exact valid_of_toUTC? hsecond (takeZone_spec hzone) hnanos h
        · cases h
      · cases h

end FeatureFlags.Timestamp
