/-!
Finite double-precision numbers, kept as a whole number of `2 ^ -1074`, the
smallest positive double. Order and distance are then exact integer arithmetic,
and every operation is its exact result rounded once.
-/

namespace FeatureFlags

namespace Rounding

def precision : Nat := 53

/-- The whole number nearest `num / den`; of two equally near, the even one. -/
def quotient (num den : Nat) : Nat :=
  let whole := num / den
  let rest := num % den
  if 2 * rest < den then whole
  else if 2 * rest = den then whole + whole % 2
  else whole + 1

/-- The bits of `num / den` that do not fit a significand. -/
def excess (num den : Nat) : Nat :=
  (num / den).log2 + 1 - precision

/-- The magnitude nearest `num / den` whose significand fits, ties to the even
significand. -/
def nearest (num den : Nat) : Nat :=
  let e := excess num den
  quotient num (den * Nat.pow 2 e) * Nat.pow 2 e

/-- Magnitudes with a significand that fits. -/
def Representable (units : Nat) : Prop :=
  ∃ significand exponent, significand < Nat.pow 2 precision ∧
    units = significand * Nat.pow 2 exponent

theorem quotient_le (num den : Nat) : quotient num den ≤ num / den + 1 := by
  unfold quotient
  dsimp only
  split
  · omega
  · split <;> omega

theorem quotient_excess_le (num den : Nat) :
    quotient num (den * Nat.pow 2 (excess num den)) ≤ Nat.pow 2 precision := by
  have hdiv : num / (den * Nat.pow 2 (excess num den)) < Nat.pow 2 precision := by
    simp only [Nat.pow_eq]
    rw [← Nat.div_div_eq_div_mul, Nat.div_lt_iff_lt_mul (Nat.two_pow_pos _), ← Nat.pow_add]
    by_cases h : num / den = 0
    · rw [h]
      exact Nat.two_pow_pos _
    · apply Nat.lt_of_lt_of_le Nat.lt_log2_self
      exact Nat.pow_le_pow_right (by omega) (by unfold excess; omega)
  have := quotient_le num (den * Nat.pow 2 (excess num den))
  omega

theorem nearest_representable (num den : Nat) : Representable (nearest num den) := by
  have hle := quotient_excess_le num den
  by_cases h : quotient num (den * Nat.pow 2 (excess num den)) < Nat.pow 2 precision
  · exact ⟨_, _, h, rfl⟩
  · refine ⟨1, precision + excess num den, by decide, ?_⟩
    have heq : quotient num (den * Nat.pow 2 (excess num den)) = Nat.pow 2 precision := by
      omega
    show quotient num (den * Nat.pow 2 (excess num den)) * Nat.pow 2 (excess num den) = _
    rw [heq, Nat.one_mul]
    exact (Nat.pow_add 2 precision (excess num den)).symm

theorem zero_representable : Representable 0 :=
  ⟨0, 0, Nat.two_pow_pos _, rfl⟩

end Rounding

/-- Every finite double is smaller, in units. -/
def Number.limit : Nat := Nat.pow 2 2098

/-- A finite double: a sign and a magnitude in units of `2 ^ -1074`. Zero has
both signs. -/
structure Number where
  negative : Bool
  units : Nat
  representable : Rounding.Representable units
  units_lt : units < Number.limit

namespace Number

def one : Nat := Nat.pow 2 1074

instance : DecidableEq Number := fun a b =>
  if h : a.negative = b.negative ∧ a.units = b.units then
    .isTrue (by cases a; cases b; simp_all)
  else
    .isFalse (by rintro rfl; exact h ⟨rfl, rfl⟩)

instance : Inhabited Number where
  default := ⟨false, 0, Rounding.zero_representable, by decide +kernel⟩

/-- The number nearest `num / den` units; none when that is no finite double. -/
def ofUnits? (negative : Bool) (num den : Nat) : Option Number :=
  if h : Rounding.nearest num den < limit then
    some ⟨negative, _, Rounding.nearest_representable num den, h⟩
  else none

/-- The value in units, with its sign. Both zeros have the value zero. -/
def toInt (x : Number) : Int :=
  if x.negative then -x.units else x.units

/-- The number nearest a whole number. -/
def ofInt? (n : Int) : Option Number :=
  ofUnits? (n < 0) (n.natAbs * one) 1

def lt (x y : Number) : Bool :=
  x.toInt < y.toInt

/-- The rounded distance of two numbers, in units. -/
def distance (x y : Number) : Nat :=
  Rounding.nearest (x.toInt - y.toInt).natAbs 1

/-- Numbers closer than a millionth count as equal. -/
def tolerance : Nat :=
  Rounding.nearest one 1000000

/-- Whether two numbers are equal up to the tolerance. -/
def near (x y : Number) : Bool :=
  x.distance y < tolerance

def mul? (x y : Number) : Option Number :=
  ofUnits? (x.negative != y.negative) (x.units * y.units) one

def div? (x y : Number) : Option Number :=
  ofUnits? (x.negative != y.negative) (x.units * one) y.units

end Number

end FeatureFlags
