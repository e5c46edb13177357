import Mathlib.Analysis.SpecialFunctions.Log.Base

/-!
# Doubling up to a cap

The sequence that starts with a value, doubles it and never exceeds a cap.  It
grows strictly until it reaches the cap, and reaches it after as many steps as
the logarithm of the ratio says.
-/

namespace RmttGo

section Sequence

variable {α : Type*} [CommSemiring α] [LinearOrder α]

def cappedDoubling (first cap : α) (n : Nat) : α :=
  min (first * 2 ^ n) cap

variable {first cap : α} {n : Nat}

theorem cappedDoubling_zero (below : first ≤ cap) :
    cappedDoubling first cap 0 = first := by
  simp [cappedDoubling, below]

theorem cappedDoubling_le : cappedDoubling first cap n ≤ cap :=
  min_le_right _ _

theorem cappedDoubling_eq_of_lt (below : cappedDoubling first cap n < cap) :
    cappedDoubling first cap n = first * 2 ^ n := by
  apply min_eq_left
  rcases min_lt_iff.mp below with below | below
  · exact below.le
  · exact absurd below (lt_irrefl cap)

variable [IsStrictOrderedRing α]

theorem cappedDoubling_pos (positive : 0 < first) (capPositive : 0 < cap) :
    0 < cappedDoubling first cap n :=
  lt_min (mul_pos positive (pow_pos two_pos n)) capPositive

theorem cappedDoubling_succ (nonneg : 0 ≤ cap) :
    cappedDoubling first cap (n + 1) = min (cappedDoubling first cap n * 2) cap := by
  unfold cappedDoubling
  rw [pow_succ, ← mul_assoc]
  rcases le_total (first * 2 ^ n) cap with below | above
  · rw [min_eq_left below]
  · have doubled : cap ≤ cap * 2 := le_mul_of_one_le_right nonneg one_le_two
    have isOver : cap ≤ first * 2 ^ n * 2 :=
      doubled.trans (mul_le_mul_of_nonneg_right above zero_le_two)
    rw [min_eq_right above, min_eq_right isOver, min_eq_right doubled]

theorem cappedDoubling_le_succ (positive : 0 < first) :
    cappedDoubling first cap n ≤ cappedDoubling first cap (n + 1) := by
  apply min_le_min_right
  exact mul_le_mul_of_nonneg_left
    (pow_le_pow_right₀ one_le_two (Nat.le_succ n)) positive.le

theorem cappedDoubling_lt_succ (positive : 0 < first)
    (below : cappedDoubling first cap n < cap) :
    cappedDoubling first cap n < cappedDoubling first cap (n + 1) := by
  refine lt_min ?_ below
  rw [cappedDoubling_eq_of_lt below, pow_succ, ← mul_assoc]
  exact lt_mul_of_one_lt_right (mul_pos positive (pow_pos two_pos n)) one_lt_two

theorem cappedDoubling_lt {i : Nat} (positive : 0 < first)
    (below : ∀ k < n, cappedDoubling first cap k < cap) (earlier : i < n) :
    cappedDoubling first cap i < cappedDoubling first cap n := by
  induction n with
  | zero => omega
  | succ n ih =>
      have grows := cappedDoubling_lt_succ positive (below n (Nat.lt_succ_self n))
      rcases Nat.lt_succ_iff_lt_or_eq.mp earlier with earlier | rfl
      · exact (ih (fun k small => below k (by omega)) earlier).trans grows
      · exact grows

/-- The terms up to the first that reaches the cap are strictly increasing. -/
theorem pairwise_lt_cappedDoubling (positive : 0 < first)
    (below : ∀ k < n, cappedDoubling first cap k < cap) :
    ((List.range (n + 1)).map (cappedDoubling first cap)).Pairwise (· < ·) := by
  rw [List.pairwise_map]
  refine List.pairwise_lt_range.imp_of_mem ?_
  intro i j _ isTerm earlier
  have small := List.mem_range.mp isTerm
  exact cappedDoubling_lt positive (fun k small => below k (by omega)) earlier

end Sequence

section Logarithm

variable {first cap : Int} {n : Nat}

/-- How often a value is doubled until it reaches the cap. -/
noncomputable def doublingsTo (first cap : Int) : Int :=
  ⌈Real.logb 2 (cap / first)⌉

theorem le_mul_two_pow_iff (positive : 0 < first) (room : first ≤ cap) :
    cap ≤ first * 2 ^ n ↔ doublingsTo first cap ≤ n := by
  have realFirst : (0 : ℝ) < first := by exact_mod_cast positive
  have realCap : (0 : ℝ) < cap := by exact_mod_cast positive.trans_le room
  rw [doublingsTo, Int.ceil_le, Int.cast_natCast,
    Real.logb_le_iff_le_rpow one_lt_two (div_pos realCap realFirst),
    Real.rpow_natCast, div_le_iff₀ realFirst, mul_comm]
  exact_mod_cast Iff.rfl

theorem exists_cappedDoubling_eq (positive : 0 < first) (room : first ≤ cap) :
    ∃ n, cappedDoubling first cap n = cap := by
  refine ⟨(doublingsTo first cap).toNat, min_eq_right ?_⟩
  exact (le_mul_two_pow_iff positive room).mpr (Int.self_le_toNat _)

/-- A term is still below the cap only as long as the logarithm allows. -/
theorem le_doublingsTo_of_below (positive : 0 < first) (room : first ≤ cap)
    (below : ∀ k < n, cappedDoubling first cap k < cap) :
    (n : Int) ≤ doublingsTo first cap := by
  by_contra small
  cases n with
  | zero =>
      have ratio : (1 : ℝ) ≤ cap / first := by
        rw [one_le_div (by exact_mod_cast positive)]
        exact_mod_cast room
      have nonneg : 0 ≤ doublingsTo first cap :=
        Int.ceil_nonneg (Real.logb_nonneg one_lt_two ratio)
      omega
  | succ n =>
      have reached : cap ≤ first * 2 ^ n :=
        (le_mul_two_pow_iff positive room).mpr (by omega)
      have last := below n (Nat.lt_succ_self n)
      rw [cappedDoubling, min_eq_right reached] at last
      exact lt_irrefl _ last

/-- The largest doubled value that does not exceed the bound. -/
def largestDoubling (first bound : Int) : Int :=
  first * 2 ^ Nat.log 2 (bound / first).toNat

theorem largestDoubling_eq {bound : Int} (positive : 0 < first)
    (fits : first * 2 ^ n ≤ bound) (tooFar : bound < first * 2 ^ (n + 1)) :
    largestDoubling first bound = first * 2 ^ n := by
  have lower : (2 : Int) ^ n ≤ bound / first :=
    Int.le_ediv_of_mul_le positive (by linarith)
  have upper : bound / first < (2 : Int) ^ (n + 1) :=
    Int.ediv_lt_of_lt_mul positive (by linarith)
  have nonneg : 0 ≤ bound / first := (pow_nonneg zero_le_two n).trans lower
  have power : Nat.log 2 (bound / first).toNat = n := by
    rw [Nat.log_eq_iff (.inr ⟨one_lt_two, ?_⟩)]
    · constructor
      · zify
        rwa [Int.toNat_of_nonneg nonneg]
      · zify
        rwa [Int.toNat_of_nonneg nonneg]
    · have := pow_pos (two_pos : (0 : Int) < 2) n
      omega
  rw [largestDoubling, power]

theorem largestDoubling_le {bound : Int} (positive : 0 < first)
    (room : first ≤ bound) (tooFar : bound < first * 2 ^ (n + 1)) :
    largestDoubling first bound ≤ first * 2 ^ n := by
  have atLeast : 1 ≤ bound / first :=
    Int.le_ediv_of_mul_le positive (by linarith)
  have upper : bound / first < (2 : Int) ^ (n + 1) :=
    Int.ediv_lt_of_lt_mul positive (by linarith)
  have power : Nat.log 2 (bound / first).toNat ≤ n := by
    apply Nat.le_of_lt_succ
    apply Nat.log_lt_of_lt_pow (by omega)
    zify
    rwa [Int.toNat_of_nonneg (by omega)]
  exact mul_le_mul_of_nonneg_left (pow_le_pow_right₀ one_le_two power) positive.le

end Logarithm

end RmttGo
