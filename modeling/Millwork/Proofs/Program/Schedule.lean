import Millwork.Proofs.Number.Nearest
import Millwork.Proofs.Program.Excursions

namespace Millwork

/-! ## Quotients -/

namespace Number

/-- The place of a number on the line, in units of a double; zero at its ends. -/
def units (a : Number) : Int :=
  match a.place? with
  | some (.units n) => n
  | _ => 0

theorem exists_units_of_nonneg {x : Double} (finite : x.isFinite = true)
    (nonneg : 0 ≤ double x) :
    ∃ negative m fits, x = .finite negative m fits ∧ (double x).units = (m : Int) := by
  cases x with
  | nan => cases finite
  | infinite negative => cases finite
  | finite negative m fits =>
      refine ⟨negative, m, fits, rfl, ?_⟩
      have place : decide (0 * (Double.unitsPerOne : Int) ≤ Double.signed negative m) = true :=
        nonneg
      rw [decide_eq_true_eq, Int.zero_mul] at place
      change Double.signed negative m = m
      cases negative with
      | false => rfl
      | true =>
          change (0 : Int) ≤ -(m : Int) at place
          change -(m : Int) = m
          omega

theorem exists_units_of_pos {x : Double} (finite : x.isFinite = true) (positive : 0 < double x) :
    ∃ m fits, x = .finite false m fits ∧ (double x).units = (m : Int) ∧ 0 < m := by
  cases x with
  | nan => cases finite
  | infinite negative => cases finite
  | finite negative m fits =>
      have place : (!decide (Double.signed negative m ≤ 0 * (Double.unitsPerOne : Int))) = true :=
        positive
      rw [Bool.not_eq_true', decide_eq_false_iff_not, Int.zero_mul] at place
      cases negative with
      | false =>
          change ¬(m : Int) ≤ 0 at place
          exact ⟨m, fits, rfl, rfl, by omega⟩
      | true =>
          change ¬-(m : Int) ≤ 0 at place
          omega

theorem isStep_of_pos {a : Number} (positive : 0 < a) : Length.isStep a = true := by
  have zero : (0 : Number).place? = some (.units 0) :=
    congrArg (fun n => some (Extended.units n)) (Int.zero_mul (Double.unitsPerOne : Int))
  have less : a.le 0 = false := by
    change lt 0 a = true at positive
    rw [lt, zero] at positive
    rw [le, zero]
    cases place : a.place? with
    | none => rfl
    | some y =>
        rw [place] at positive
        exact Bool.not_eq_true' _ ▸ positive
  change (!decide (a.le 0 = true)) = true
  rw [less]
  rfl

end Number

theorem Double.nearest_of_not_isFinite {negative : Bool} {num den : Nat}
    (beyond : ¬(nearest negative num den).isFinite = true) :
    nearest negative num den = .infinite negative := by
  rw [nearest] at beyond ⊢
  split
  · rename_i inRange
    rw [dif_pos inRange] at beyond
    exact absurd rfl beyond
  · rfl

theorem Length.count?_of_doubles {x y : Double} (finite : x.isFinite = true)
    (nonneg : 0 ≤ Number.double x) (finite' : y.isFinite = true) (positive : 0 < Number.double y) :
    (Number.double x).units < Double.threshold * (Number.double y).units ∧
        (∃ n, Length.count? (Number.double x) (Number.double y) = .ok n) ∨
      ¬(Number.double x).units < Double.threshold * (Number.double y).units ∧
        Length.count? (Number.double x) (Number.double y) = .error .infiniteCount := by
  obtain ⟨negative, m, fits, rfl, depth⟩ := Number.exists_units_of_nonneg finite nonneg
  obtain ⟨n, fits', rfl, step, pos⟩ := Number.exists_units_of_pos finite' positive
  have count : Length.count? (Number.double (.finite negative m fits))
      (Number.double (.finite false n fits')) =
      ((Double.nearest (negative != false) (m * Double.unitsPerOne) n).roundPlaces
        quotientPlaces).ceiling? := by
    have quotient : Double.finite negative m fits / Double.finite false n fits' =
        Double.nearest (negative != false) (m * Double.unitsPerOne) n := if_neg (by omega)
    rw [← quotient]
    rfl
  have bound : (m : Int) < Double.threshold * n ↔ m < Double.threshold * n := by
    rw [← Int.natCast_mul, Int.ofNat_lt]
  rw [depth, step, bound, ← Double.isFinite_quotient_iff (negative != false) pos, count]
  -- A finite quotient stays finite when it is rounded to places; an infinite one cannot be counted.
  by_cases within : (Double.nearest (negative != false) (m * Double.unitsPerOne) n).isFinite = true
  · exact .inl ⟨within, _, Double.ceiling?_eq (Double.isFinite_roundPlaces within _)⟩
  · refine .inr ⟨within, ?_⟩
    rw [Double.nearest_of_not_isFinite within]
    rfl

/-! ## Passes -/

/-- The depth is below the depth of a pass times the least quotient that is rounded to infinity. -/
def Stepping.Schedulable (stepping : Stepping) (depth : NonnegNumber) : Prop :=
  stepping.multiPass.isOn = true → ∀ step ∈ stepping.passDepth,
    depth.val.units < Double.threshold * step.val.units

instance (stepping : Stepping) (depth : NonnegNumber) : Decidable (stepping.Schedulable depth) :=
  inferInstanceAs (Decidable (stepping.multiPass.isOn = true → ∀ step ∈ stepping.passDepth,
    depth.val.units < Double.threshold * step.val.units))

theorem Stepping.passes?_of_doubles {stepping : Stepping} {depth : NonnegNumber}
    (double : ∃ x, depth.val = .double x)
    (doubles : ∀ step ∈ stepping.passDepth, ∃ y, step.val = .double y) :
    stepping.Schedulable depth ∧ (∃ passes, stepping.passes? depth = .ok passes) ∨
      ¬stepping.Schedulable depth ∧ stepping.passes? depth = .error .infiniteCount := by
  cases given : stepping.passDepth with
  | none =>
      refine .inl ⟨fun _ step mem => ?_, ?_⟩
      · rw [given] at mem
        cases mem
      · rw [passes?, given]
        exact ⟨_, rfl⟩
  | some step =>
      have isStep := Number.isStep_of_pos step.property.2
      cases divided : stepping.multiPass.isOn with
      | false =>
          refine .inl ⟨fun on => ?_, ?_⟩
          · rw [divided] at on
            cases on
          · rw [passes?, given, divided]
            exact ⟨_, rfl⟩
      | true =>
          obtain ⟨x, total⟩ := double
          obtain ⟨y, value⟩ := doubles step given
          have finite : x.isFinite = true := by
            have own := depth.property.1
            rw [total] at own
            exact own
          have finite' : y.isFinite = true := by
            have own := step.property.1
            rw [value] at own
            exact own
          have schedulable : stepping.Schedulable depth ↔
              depth.val.units < Double.threshold * step.val.units := by
            constructor
            · exact fun all => all divided step given
            · intro within _ other mem
              rw [given] at mem
              cases mem
              exact within
          rw [passes?, given, divided, Option.map_some, passes, passHeights, passCount, isStep,
            schedulable, total, value]
          rcases Length.count?_of_doubles finite (total ▸ depth.property.2) finite'
            (value ▸ step.property.2) with ⟨within, n, count⟩ | ⟨beyond, count⟩
          · refine .inl ⟨within, ?_⟩
            rw [count]
            exact ⟨_, rfl⟩
          · refine .inr ⟨beyond, ?_⟩
            rw [count]
            rfl

theorem one_le_passCount {total : Number} {step : Option Number} {divided : Bool} {count : Nat}
    (counted : passCount total step divided = .ok count) : 1 ≤ count := by
  cases step with
  | none =>
      cases counted
      exact Nat.le_refl 1
  | some step =>
      rw [passCount] at counted
      split at counted
      · obtain ⟨quotient, -, same⟩ := Attempt.bind_eq_ok.mp counted
        cases same
        exact Nat.le_max_left _ _
      · cases counted
        exact Nat.le_refl 1

theorem passHeights_ok {total : Number} {step : Option Number} {divided : Bool}
    {made : List Number} (planned : passHeights total step divided = .ok made) :
    ∃ count, passCount total step divided = .ok count ∧
      (step = none ∧ made = [-total] ∨ ∃ depth ∈ step, made = heights total depth count) := by
  cases step with
  | none =>
      cases planned
      exact ⟨1, rfl, .inl ⟨rfl, rfl⟩⟩
  | some depth =>
      obtain ⟨count, counted, same⟩ := Attempt.bind_eq_ok.mp planned
      exact ⟨count, counted, .inr ⟨depth, rfl, (Attempt.pure_eq_ok.mp same).symm⟩⟩

namespace Stepping

variable {stepping : Stepping} {depth : NonnegNumber} {passes : List (Pass Number)}

theorem passes?_ok (planned : stepping.passes? depth = .ok passes) :
    ∃ made, passHeights depth.val (stepping.passDepth.map (·.val)) stepping.multiPass.isOn =
        .ok made ∧
      passes = made.zipIdx.map fun (height, index) => ⟨index, made.length, height⟩ := by
  obtain ⟨made, all, same⟩ := Attempt.bind_eq_ok.mp planned
  exact ⟨made, all, (Attempt.pure_eq_ok.mp same).symm⟩

theorem forall_height (holds : Number → Prop) (planned : stepping.passes? depth = .ok passes)
    (bottom : holds (-depth.val))
    (above : ∀ i, ∀ step ∈ stepping.passDepth,
      holds (-(min (Length.times (i + 1) step.val) depth.val))) :
    ∀ pass ∈ passes, holds pass.height := by
  obtain ⟨made, all, rfl⟩ := passes?_ok planned
  have each : ∀ height ∈ made, holds height := by
    obtain ⟨count, -, ⟨-, rfl⟩ | ⟨step, given, rfl⟩⟩ := passHeights_ok all
    · simpa using bottom
    · obtain ⟨own, member, rfl⟩ := Option.map_eq_some_iff.mp given
      rw [heights, List.forall_mem_append]
      refine ⟨fun height mem => ?_, by simpa using bottom⟩
      obtain ⟨index, -, rfl⟩ := List.mem_map.mp mem
      exact above index own member
  intro pass mem
  obtain ⟨entry, member, rfl⟩ := List.mem_map.mp mem
  exact each _ (List.fst_mem_of_mem_zipIdx member)

theorem exists_bottom (planned : stepping.passes? depth = .ok passes) :
    ∃ pass ∈ passes, pass.height = -depth.val := by
  obtain ⟨made, all, rfl⟩ := passes?_ok planned
  have last : -depth.val ∈ made.zipIdx.map Prod.fst := by
    rw [List.zipIdx_map_fst]
    obtain ⟨count, -, ⟨-, rfl⟩ | ⟨step, -, rfl⟩⟩ := passHeights_ok all
    · exact List.mem_singleton_self _
    · exact List.mem_append_right _ (List.mem_singleton_self _)
  obtain ⟨entry, member, same⟩ := List.mem_map.mp last
  exact ⟨_, List.mem_map_of_mem member, same⟩

theorem passCount_of_passes (planned : stepping.passes? depth = .ok passes) :
    passCount depth.val (stepping.passDepth.map (·.val)) stepping.multiPass.isOn =
      .ok passes.length := by
  obtain ⟨made, all, rfl⟩ := passes?_ok planned
  rw [List.length_map, List.length_zipIdx]
  obtain ⟨count, counted, ⟨undivided, rfl⟩ | ⟨step, -, rfl⟩⟩ := passHeights_ok all
  · rw [undivided]
    rfl
  · have positive := one_le_passCount counted
    have length : (heights depth.val step count).length = count := by
      simp [heights]
      omega
    rw [counted, length]

end Stepping

/-! ## Operations -/

structure Stepping.OfDoubles (stepping : Stepping) (depth : NonnegNumber) : Prop where
  depth : ∃ x, depth.val = .double x
  passDepth : ∀ step ∈ stepping.passDepth, ∃ y, step.val = .double y

theorem Stepping.excursions?_of_doubles {stepping : Stepping} {depth : NonnegNumber}
    (doubles : stepping.OfDoubles depth) (excursion : Pass Number → Excursion) :
    stepping.Schedulable depth ∧
        (∃ excursions, stepping.excursions? depth excursion = .ok excursions) ∨
      ¬stepping.Schedulable depth ∧
        stepping.excursions? depth excursion = .error (.arithmetic .infiniteCount) := by
  rcases passes?_of_doubles doubles.depth doubles.passDepth with
    ⟨can, passes, all⟩ | ⟨cannot, failed⟩
  · refine .inl ⟨can, ?_⟩
    rw [excursions?, all]
    exact ⟨_, rfl⟩
  · refine .inr ⟨cannot, ?_⟩
    rw [excursions?, failed]
    rfl

namespace Operation

def OfDoubles : Operation → Prop
  | drill task => ∃ x, task.depth.val = .double x
  | contour task => task.toStepping.OfDoubles task.depth
  | closedPocket task => task.toStepping.OfDoubles task.depth
  | openPocket task => task.toStepping.OfDoubles task.depth
  | ofNoKind .. => False

/-- A hole takes no passes; an operation of no kind has no schedule. -/
def Schedulable : Operation → Prop
  | drill _ => True
  | contour task => task.toStepping.Schedulable task.depth
  | closedPocket task => task.toStepping.Schedulable task.depth
  | openPocket task => task.toStepping.Schedulable task.depth
  | ofNoKind .. => False

instance (operation : Operation) : Decidable operation.Schedulable :=
  match operation with
  | .drill _ => inferInstanceAs (Decidable True)
  | .contour task => inferInstanceAs (Decidable (task.toStepping.Schedulable task.depth))
  | .closedPocket task => inferInstanceAs (Decidable (task.toStepping.Schedulable task.depth))
  | .openPocket task => inferInstanceAs (Decidable (task.toStepping.Schedulable task.depth))
  | .ofNoKind .. => inferInstanceAs (Decidable False)

variable {operation : Operation}

theorem excursions?_of_doubles (doubles : operation.OfDoubles) (tool : Tool) (profile : Profile) :
    operation.Schedulable ∧ (∃ excursions, operation.excursions? tool profile = .ok excursions) ∨
      ¬operation.Schedulable ∧
        operation.excursions? tool profile = .error (.arithmetic .infiniteCount) := by
  cases operation with
  | drill task => exact .inl ⟨trivial, _, rfl⟩
  | contour task => exact task.excursions?_of_doubles doubles _
  | closedPocket task => exact task.excursions?_of_doubles doubles _
  | openPocket task => exact task.excursions?_of_doubles doubles _
  | ofNoKind toolId depth comment => exact doubles.elim

theorem lines_of_doubles (doubles : operation.OfDoubles) (tool : Tool) (profile : Profile) :
    operation.Schedulable ∧ (∃ lines, (operation.lines tool profile).outcome = .ok lines) ∨
      ¬operation.Schedulable ∧
        (operation.lines tool profile).outcome = .error (.arithmetic .infiniteCount) := by
  have told := operation.commands_lines tool profile
  rcases excursions?_of_doubles doubles tool profile with ⟨can, excursions, all⟩ | ⟨cannot, failed⟩
  · rw [all] at told
    obtain ⟨lines, cut, -⟩ := Attempt.map_eq_ok.mp told
    exact .inl ⟨can, lines, cut⟩
  · rw [failed] at told
    exact .inr ⟨cannot, Attempt.map_eq_error.mp told⟩

theorem cutDepth?_of_doubles (doubles : operation.OfDoubles) :
    ∃ x, operation.cutDepth? = some (.double x) := by
  cases operation with
  | drill task =>
      obtain ⟨x, depth⟩ := doubles
      rw [cutDepth?, Drill.cutDepth, depth]
      split <;> exact ⟨_, rfl⟩
  | contour task => exact doubles.depth.imp fun _ depth => congrArg some depth
  | closedPocket task => exact doubles.depth.imp fun _ depth => congrArg some depth
  | openPocket task => exact doubles.depth.imp fun _ depth => congrArg some depth
  | ofNoKind toolId depth comment => exact doubles.elim

theorem depthWarning?_of_doubles (doubles : operation.OfDoubles) (number : Number) (tool : Tool) :
    ∃ warning, depthWarning? number operation tool = .ok warning := by
  obtain ⟨x, depth⟩ := cutDepth?_of_doubles doubles
  rw [depthWarning?, depth]
  cases tool.maxDepth with
  | none => exact ⟨_, rfl⟩
  | some limit =>
      by_cases within : Number.double x ≤ limit.val
      · exact ⟨none, if_pos within⟩
      · exact ⟨_, if_neg within⟩

end Operation

/-! ## Programs -/

def Catalog.CanCut (catalog : Catalog) (operation : Operation) : Prop :=
  (catalog.find? operation.toolId).isSome = true → operation.Schedulable

instance (catalog : Catalog) (operation : Operation) : Decidable (catalog.CanCut operation) :=
  inferInstanceAs (Decidable (_ → _))

theorem block_of_doubles {operation : Operation} (doubles : operation.OfDoubles)
    (profile : Profile) (catalog : Catalog) (number : Number) :
    catalog.CanCut operation ∧
        (∃ result, (block profile catalog number operation).outcome = .ok result) ∨
      ¬catalog.CanCut operation ∧
        (block profile catalog number operation).outcome = .error (.arithmetic .infiniteCount) := by
  cases found : catalog.find? operation.toolId with
  | none =>
      refine .inl ⟨fun resolved => ?_, _, block_of_missing found⟩
      rw [found] at resolved
      cases resolved
  | some tool =>
      have canCut : catalog.CanCut operation ↔ operation.Schedulable := by
        simp [Catalog.CanCut, found]
      obtain ⟨warning, warned⟩ := Operation.depthWarning?_of_doubles doubles number tool
      rw [canCut, block_of_found found, warned]
      rcases Operation.lines_of_doubles doubles tool profile with
        ⟨can, lines, cut⟩ | ⟨cannot, failed⟩
      · refine .inl ⟨can, ?_⟩
        rw [cut]
        exact ⟨_, rfl⟩
      · refine .inr ⟨cannot, ?_⟩
        rw [failed]
        rfl

theorem assemble_of_doubles {operations : List Operation}
    (doubles : ∀ operation ∈ operations, operation.OfDoubles) (profile : Profile) (panel : Panel)
    (catalog : Catalog) (stamp : Timestamp) :
    (∀ operation ∈ operations, catalog.CanCut operation) ∧
        (∃ program, (assemble profile panel operations catalog stamp).outcome = .ok program) ∨
      ¬(∀ operation ∈ operations, catalog.CanCut operation) ∧
        (assemble profile panel operations catalog stamp).outcome =
          .error (.arithmetic .infiniteCount) := by
  have member {entry : Operation × Nat} (mem : entry ∈ operations.zipIdx 1) :
      entry.1 ∈ operations := List.fst_mem_of_mem_zipIdx mem
  rw [assemble_outcome]
  cases made : (operations.zipIdx 1).mapM fun entry =>
      (block profile catalog (.whole entry.2) entry.1).outcome with
  | ok blocks =>
      refine .inl ⟨fun operation mem => ?_, _, rfl⟩
      have indexed : operation ∈ (operations.zipIdx 1).map Prod.fst := by
        rwa [List.zipIdx_map_fst]
      obtain ⟨entry, here, rfl⟩ := List.mem_map.mp indexed
      obtain ⟨result, fine⟩ := Attempt.mapM_isOk_iff.mp ⟨blocks, made⟩ entry here
      rcases block_of_doubles (doubles _ mem) profile catalog (.whole entry.2) with
        ⟨can, -⟩ | ⟨-, fault⟩
      · exact can
      · rw [fine] at fault
        cases fault
  | error fault =>
      -- The first block that fails is one of an operation that cannot be scheduled.
      obtain ⟨before, entry, after, split, -, fails⟩ := Attempt.mapM_eq_error.mp made
      have mem : entry.1 ∈ operations := member (by rw [split]; simp)
      rcases block_of_doubles (doubles _ mem) profile catalog (.whole entry.2) with
        ⟨-, result, fine⟩ | ⟨cannot, fault'⟩
      · rw [fine] at fails
        cases fails
      · rw [fault'] at fails
        cases fails
        exact .inr ⟨fun all => cannot (all _ mem), rfl⟩

end Millwork
