import FeatureFlags.Text.CharSet

namespace FeatureFlags

variable {α : Type} {a : Array α} {test : α → Bool} {low high : Nat} {hhigh : high ≤ a.size}
  {i : Nat} {x : α}

theorem test_firstFailure (hle : low ≤ high)
    (hfails : ∀ x, a[high]? = some x → test x = false)
    (hx : a[firstFailure a test low high hhigh]? = some x) : test x = false := by
  fun_induction firstFailure a test low high hhigh with
  | case1 low high hhigh hlt middle hmiddle htest ih => exact ih (by omega) hfails hx
  | case2 low high hhigh hlt middle hmiddle htest ih =>
      refine ih (by omega) ?_ hx
      intro y hy
      rw [Array.getElem?_eq_getElem hmiddle, Option.some.injEq] at hy
      rw [← hy]
      exact eq_false_of_ne_true htest
  | case3 low high hhigh hnlt =>
      have hends : low = high := by omega
      rw [hends] at hx
      exact hfails x hx

theorem test_before_firstFailure (hholds : ∀ i x, low = i + 1 → a[i]? = some x → test x)
    (hi : firstFailure a test low high hhigh = i + 1) (hx : a[i]? = some x) : test x := by
  fun_induction firstFailure a test low high hhigh with
  | case1 low high hhigh hlt middle hmiddle htest ih =>
      refine ih ?_ hi
      intro j y hj hy
      obtain rfl : middle = j := by omega
      rw [Array.getElem?_eq_getElem hmiddle, Option.some.injEq] at hy
      rw [← hy]
      exact htest
  | case2 low high hhigh hlt middle hmiddle htest ih => exact ih hholds hi
  | case3 low high hhigh hnlt => exact hholds i x hi hx

/-- The search ends where the test fails, or behind the last element. -/
theorem test_partitionPoint (hx : a[partitionPoint a test]? = some x) : test x = false := by
  refine test_firstFailure (Nat.zero_le _) ?_ hx
  intro y hy
  simp at hy

theorem test_before_partitionPoint (hi : partitionPoint a test = i + 1)
    (hx : a[i]? = some x) : test x :=
  test_before_firstFailure (fun _ _ h => absurd h (by omega)) hi hx

theorem firstFailure_le (hle : low ≤ high) : firstFailure a test low high hhigh ≤ high := by
  fun_induction firstFailure a test low high hhigh with
  | case1 low high hhigh hlt middle hmiddle htest ih => exact ih (by omega)
  | case2 low high hhigh hlt middle hmiddle htest ih =>
      have := ih (by omega)
      omega
  | case3 low high hhigh hnlt => exact hle

theorem partitionPoint_le (a : Array α) (test : α → Bool) : partitionPoint a test ≤ a.size :=
  firstFailure_le (Nat.zero_le _)

end FeatureFlags
