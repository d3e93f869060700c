import FeatureFlags.Json.Parser
import FeatureFlags.Json.Printer

namespace FeatureFlags.Document.Token

open Json (escape hexDigit quoted)

theorem scanPieces_of_plain {c : Char} (hquote : c ≠ '"') (hslash : c ≠ '\\') (hspace : ¬ c < ' ')
    (acc : List Piece) (rest : List Char) :
    scanPieces acc (c :: rest) = scanPieces (.char c :: acc) rest := by
  rw [scanPieces, if_neg hspace]
  · exact hquote
  · intro a b c' d tail hc
    exact absurd hc hslash
  · intro e tail hc
    exact absurd hc hslash

theorem unit?_hexDigit {n : Nat} (h : n < 32) :
    unit? '0' '0' (hexDigit (n / 16)) (hexDigit (n % 16)) = some n := by
  revert n
  decide

theorem joinPieces_unit {n : Nat} (h : n < 0xD800) (acc : List Char) (rest : List Piece) :
    joinPieces acc (.unit n :: rest) = joinPieces (Char.ofNat n :: acc) rest := by
  have hsmall : ¬ (0xD800 ≤ n ∧ n < 0xE000) := by omega
  cases rest with
  | nil =>
      rw [joinPieces.eq_4 _ _ _ (by simp), if_neg hsmall]
  | cons p rest =>
      cases p with
      | char c => rw [joinPieces.eq_4 _ _ _ (by simp), if_neg hsmall]
      | unit low => rw [joinPieces, if_neg (by omega), if_neg hsmall]

theorem exists_piece (c : Char) : ∃ p : Piece,
    (∀ acc rest, scanPieces acc (escape c ++ rest) = scanPieces (p :: acc) rest) ∧
      ∀ acc rest, joinPieces acc (p :: rest) = joinPieces (c :: acc) rest := by
  unfold escape
  split
  case h_8 hquote hslash _ _ _ _ _ =>
    split
    · next hspace =>
        have hsmall : c.toNat < 32 := hspace
        refine ⟨.unit c.toNat, fun acc rest => ?_, fun acc rest => ?_⟩
        · simp [scanPieces, unit?_hexDigit hsmall]
        · rw [joinPieces_unit (by omega), Char.ofNat_toNat]
    · next hspace =>
        refine ⟨.char c, fun acc rest => ?_, fun acc rest => rfl⟩
        exact scanPieces_of_plain (by simpa using hquote) (by simpa using hslash) hspace acc rest
  all_goals exact ⟨.char _, fun acc rest => rfl, fun acc rest => rfl⟩

theorem exists_pieces (cs : List Char) : ∃ pieces : List Piece,
    (∀ acc rest, scanPieces acc (cs.flatMap escape ++ '"' :: rest) =
      some (acc.reverse ++ pieces, rest)) ∧
      ∀ acc, joinPieces acc pieces = some (acc.reverse ++ cs) := by
  induction cs with
  | nil =>
      refine ⟨[], fun acc rest => ?_, fun acc => ?_⟩
      · simp [scanPieces]
      · simp [joinPieces]
  | cons c cs ih =>
      obtain ⟨p, hscan, hjoin⟩ := exists_piece c
      obtain ⟨pieces, hscans, hjoins⟩ := ih
      refine ⟨p :: pieces, fun acc rest => ?_, fun acc => ?_⟩
      · rw [List.flatMap_cons, List.append_assoc, hscan, hscans]
        simp
      · rw [hjoin, hjoins]
        simp

theorem scan_quoted (s : String) (rest : List Char) :
    scan (quoted s ++ rest) = some (.string (some s), rest) := by
  obtain ⟨pieces, hscan, hjoin⟩ := exists_pieces s.toList
  have hstring : scan (quoted s ++ rest) =
      scanString (s.toList.flatMap escape ++ '"' :: rest) := by
    simp [quoted, scan]
  rw [hstring, scanString, hscan]
  simp [hjoin]

end FeatureFlags.Document.Token
