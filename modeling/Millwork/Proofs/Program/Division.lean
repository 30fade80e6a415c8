import Millwork.Proofs.Number.Nearest
import Millwork.Program.Passes

/-!
# Division of a depth

Over exact numbers a depth is divided into the fewest passes that reach it, where a pass may go a
little deeper than it should, so that a quotient just above a whole number costs no further pass.
All the passes but the last take off the depth of a pass, and the last one takes off what is left.
-/

namespace Millwork

attribute [local instance (high)] instPowNat

/-- Exact lengths, of which every step of a division is taken exactly. -/
@[reducible] def Length.exact : Length ℚ where
  toNeg := inferInstance
  toMin := inferInstance
  Quotient := ℚ
  isStep step := 0 < step
  times n step := n * step
  quotient? total step := .ok (total / step)
  roundPlaces := Decimal.rounded
  ceiling? quotient := .ok ⌈quotient⌉

attribute [local instance] Length.exact

/-! ## Heights -/

/-- Each a step below the one before, the last of them at the bottom. -/
def evenHeights (total step : ℚ) (count : ℕ) : List ℚ :=
  (List.range (count - 1)).map (fun i : ℕ => -((i + 1) * step)) ++ [-total]

/-- What each pass takes off, where the first starts at the surface. -/
def removals (heights : List ℚ) : List ℚ := List.zipWith (· - ·) (0 :: heights) heights

variable {total step : ℚ} {count : ℕ}

theorem length_evenHeights (positive : 0 < count) :
    (evenHeights total step count).length = count := by
  simp [evenHeights]
  omega

theorem getElem_cons_evenHeights {i : ℕ} (within : i < count)
    (inRange : i < (0 :: evenHeights total step count).length) :
    (0 :: evenHeights total step count)[i] = -(i * step) := by
  cases i with
  | zero => simp
  | succ i =>
      have before : i < count - 1 := by omega
      simp [evenHeights, List.getElem_append_left, before]

theorem removals_evenHeights (positive : 0 < count) :
    removals (evenHeights total step count) =
      List.replicate (count - 1) step ++ [total - (count - 1 : ℕ) * step] := by
  have length : (evenHeights total step count).length = count := length_evenHeights positive
  refine List.ext_getElem (by simp [removals, length]; omega) fun i inRange inRange' => ?_
  have within : i < count := by simpa [removals, length] using inRange
  simp only [removals, List.getElem_zipWith, getElem_cons_evenHeights within]
  rcases Nat.lt_or_ge i (count - 1) with early | late
  · simp [evenHeights, List.getElem_append_left, early]
    ring
  · obtain rfl : i = count - 1 := by omega
    simp [evenHeights]
    ring

/-! ## The number of passes -/

theorem passCount_le_iff (positive : 0 < step) {n : ℕ} (pos : 0 < n) :
    max 1 ⌈Decimal.rounded quotientPlaces (total / step)⌉.toNat ≤ n ↔
      total ≤ (n + 5 / 10 ^ 10) * step := by
  have tolerance : (1 / 2 / 10 ^ quotientPlaces : ℚ) = 5 / 10 ^ 10 := by norm_num [quotientPlaces]
  rw [max_le_iff, and_iff_right (show 1 ≤ n from pos), Int.toNat_le, Int.ceil_le,
    Decimal.rounded_le_iff (by decide), tolerance, div_le_iff₀ positive, Int.cast_natCast]

theorem isLeast_passCount (positive : 0 < step) : ∃ count,
    passCount total (some step) true = .ok count ∧
      IsLeast {n : ℕ | 0 < n ∧ total ≤ (n + 5 / 10 ^ 10) * step} count := by
  have isStep : Length.isStep step = true := decide_eq_true positive
  refine ⟨max 1 ⌈Decimal.rounded quotientPlaces (total / step)⌉.toNat, ?_, ⟨?_, ?_⟩, ?_⟩
  · rw [passCount, Bool.true_and, if_pos isStep]
    rfl
  · omega
  · exact (passCount_le_iff positive (by omega)).mp le_rfl
  · rintro n ⟨pos, enough⟩
    exact (passCount_le_iff positive pos).mpr enough

/-! ## The schedule -/

/-- A depth and that of a pass, when the one is divided into so many of the other. -/
structure Divides (total step : ℚ) (count : ℕ) : Prop where
  least : IsLeast {n : ℕ | 0 < n ∧ total ≤ (n + 5 / 10 ^ 10) * step} count
  counted : passCount total (some step) true = .ok count
  heights : passHeights total (some step) true = .ok (evenHeights total step count)
  passes : passes total (some step) true =
    .ok ((evenHeights total step count).zipIdx.map fun (height, index) => ⟨index, count, height⟩)
  length : (evenHeights total step count).length = count
  descending : (evenHeights total step count).Pairwise (· > ·)
  /-- No pass has to be kept from going too deep. -/
  within : ∀ i < count - 1, min (Length.times (i + 1) step) total = (i + 1) * step
  removals : ∃ last, removals (evenHeights total step count) =
      List.replicate (count - 1) step ++ [last] ∧
    (0 < total → 0 < last) ∧ last ≤ step * (1 + 5 / 10 ^ 10)

section Counted

variable (positive : 0 < step)
  (least : IsLeast {n : ℕ | 0 < n ∧ total ≤ (n + 5 / 10 ^ 10) * step} count)

include positive least

theorem mul_lt_of_isLeast {i : ℕ} (pos : 0 < i) (before : i < count) : i * step < total := by
  have short : ¬total ≤ (i + 5 / 10 ^ 10) * step :=
    fun enough => absurd (least.2 ⟨pos, enough⟩) (Nat.not_le.mpr before)
  have slack : 0 < 5 / 10 ^ 10 * step := by positivity
  linarith [not_le.mp short]

theorem min_times_of_isLeast {i : ℕ} (before : i < count - 1) :
    min (Length.times (i + 1) step) total = (i + 1) * step := by
  have short := mul_lt_of_isLeast positive least (Nat.succ_pos i) (by omega)
  have product : Length.times (i + 1) step = (i + 1) * step := by
    change ((i + 1 : ℕ) : ℚ) * step = _
    push_cast
    rfl
  rw [product]
  exact min_eq_left (by exact_mod_cast short.le)

theorem heights_eq_evenHeights : heights total step count = evenHeights total step count := by
  refine congrArg (· ++ [-total]) (List.map_congr_left fun i mem => ?_)
  rw [min_times_of_isLeast positive least (List.mem_range.mp mem)]

theorem pairwise_evenHeights : (evenHeights total step count).Pairwise (· > ·) := by
  rw [evenHeights, List.pairwise_append]
  refine ⟨?_, List.pairwise_singleton _ _, ?_⟩
  · rw [List.pairwise_map]
    refine List.pairwise_lt_range.imp fun {i j} less => ?_
    have less : (i : ℚ) < j := Nat.cast_lt.mpr less
    exact neg_lt_neg (mul_lt_mul_of_pos_right (by linarith) positive)
  · intro height mem bottom last
    obtain ⟨i, inRange, rfl⟩ := List.mem_map.mp mem
    cases List.mem_singleton.mp last
    have before := List.mem_range.mp inRange
    have short := mul_lt_of_isLeast positive least (Nat.succ_pos i) (by omega)
    push_cast at short
    exact neg_lt_neg short

theorem divides_of_isLeast (counted : passCount total (some step) true = .ok count) :
    Divides total step count := by
  have same := heights_eq_evenHeights positive least
  have length : (evenHeights total step count).length = count := length_evenHeights least.1.1
  have planned : passHeights total (some step) true = .ok (evenHeights total step count) := by
    rw [passHeights, counted, ← same]
    rfl
  refine ⟨least, counted, planned, ?_, length, pairwise_evenHeights positive least,
    fun i before => min_times_of_isLeast positive least before,
    total - (count - 1 : ℕ) * step, removals_evenHeights least.1.1, fun deep => ?_, ?_⟩
  · have indexed : Millwork.passes total (some step) true =
        .ok ((evenHeights total step count).zipIdx.map fun (height, index) =>
          ⟨index, (evenHeights total step count).length, height⟩) := by
      rw [Millwork.passes, planned]
      rfl
    rw [indexed, length]
  · rcases Nat.eq_zero_or_pos (count - 1) with single | more
    · simpa [single] using deep
    · linarith [mul_lt_of_isLeast positive least more (by omega)]
  · have enough := least.1.2
    have last : ((count - 1 : ℕ) : ℚ) = count - 1 := Nat.cast_pred least.1.1
    rw [last]
    linarith

end Counted

theorem depth_divided (positive : 0 < step) :
    (∃ count, Divides total step count) ∧
      ∀ (given : Option ℚ) (divided : Bool), divided = false ∨ given = none →
        passCount total given divided = .ok 1 ∧ passHeights total given divided = .ok [-total] ∧
          passes total given divided = .ok [⟨0, 1, -total⟩] := by
  constructor
  · obtain ⟨count, counted, least⟩ := isLeast_passCount positive
    exact ⟨count, divides_of_isLeast positive least counted⟩
  · rintro given divided (rfl | rfl)
    · cases given <;> exact ⟨rfl, rfl, rfl⟩
    · exact ⟨rfl, rfl, rfl⟩

/-- A quotient of half a billionth above three costs no fourth pass. -/
theorem depth_divided_of_tie :
    let total : ℚ := 18 + 3 / 10 ^ 9
    ((0 : ℚ) < 6 ∧ passCount total (some 6) true = .ok 3) ∧
      (∃ count, Divides total 6 count) ∧
      ∀ (given : Option ℚ) (divided : Bool), divided = false ∨ given = none →
        passCount total given divided = .ok 1 ∧ passHeights total given divided = .ok [-total] ∧
          passes total given divided = .ok [⟨0, 1, -total⟩] :=
  ⟨by decide +kernel, depth_divided (by decide)⟩

/-! ## Doubles -/

/-- Doubles are divided in the steps of exact lengths, with each result taken to the nearest
double. -/
theorem Length.count?_near {x y : Double} {n : ℤ} (divisor : y.isFinite = true)
    (counted : Length.count? (Number.double x) (Number.double y) = .ok n) :
    ∃ quotient rounded : Double, quotient.IsNearest (x.value / y.value) ∧
      rounded.IsNearest (Decimal.rounded quotientPlaces quotient.value) ∧
      n = ⌈rounded.value⌉ := by
  have steps : Length.count? (Number.double x) (Number.double y) =
      ((x / y).roundPlaces quotientPlaces).ceiling? := rfl
  rw [steps] at counted
  cases quotient : x / y with
  | nan | infinite negative =>
      rw [quotient] at counted
      cases counted
  | finite negative units fits =>
      have finite : (x / y).isFinite = true := by
        rw [quotient]
        rfl
      have rounded := Double.isNearest_roundPlaces finite quotientPlaces
      rw [Double.ceiling?_eq rounded.finite] at counted
      exact ⟨x / y, _, Double.isNearest_div divisor finite, rounded,
        (Except.ok.inj counted).symm⟩

end Millwork
