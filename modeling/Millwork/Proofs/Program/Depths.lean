import Millwork.Proofs.Number.Nearest
import Millwork.Proofs.Program.Route
import Millwork.Proofs.Program.Warnings

namespace Millwork

attribute [local instance (high)] instPowNat

/-! ## Numbers -/

namespace Number

theorem place_zero : (0 : Number).place? = some (.units 0) :=
  congrArg (fun n => some (Extended.units n)) (Int.zero_mul (Double.unitsPerOne : Int))

theorem nonneg_of_isLength {a : Number} (length : a.IsLength) : 0 ≤ a := by
  change le 0 a = true
  rw [le, place_zero]
  rcases length with top | ⟨n, place, nonneg⟩
  · rw [top]
    rfl
  · rw [place]
    exact decide_eq_true nonneg

theorem toDouble_zero : (0 : Number).toDouble = surface := by decide +kernel

structure Within (depth height : Number) : Prop where
  finite : height.isFinite = true
  bottom : -depth ≤ height
  top : height ≤ 0

variable {a b : Number}

theorem within_neg (finite : b.isFinite = true) (finite' : a.isFinite = true) (nonneg : 0 ≤ a)
    (le : a ≤ b) : Within b (-a) :=
  ⟨(isFinite_neg a).trans finite', (neg_le_iff finite finite').mpr le,
    (neg_le_iff finite' isFinite_zero).mpr nonneg⟩

theorem within_zero (finite : b.isFinite = true) (nonneg : 0 ≤ b) : Within b 0 :=
  within_neg finite isFinite_zero ((le_iff isFinite_zero isFinite_zero).mpr le_rfl) nonneg

theorem within_neg_min (length : a.IsLength) (finite : b.isFinite = true) (nonneg : 0 ≤ b) :
    Within b (-(min a b)) := by
  have finite' := isFinite_min length finite
  change (if b < a then b else a).isFinite = true at finite'
  change Within b (-(if b < a then b else a))
  by_cases less : b < a
  · rw [if_pos less]
    exact within_neg finite finite nonneg ((le_iff finite finite).mpr le_rfl)
  · rw [if_neg less] at finite' ⊢
    refine within_neg finite finite' (nonneg_of_isLength length) ?_
    by_contra more
    exact less ((not_le_iff_lt finite' finite).mp more)

end Number

theorem Double.value_zero (negative : Bool) : (zero negative).value = 0 := by
  have signless : signed negative 0 = 0 := by cases negative <;> rfl
  rw [zero, value, signless, Int.cast_zero, zero_div]

theorem Double.nonneg_nearest (num den : ℕ) : 0 ≤ (nearest false num den).value := by
  rw [nearest]
  split
  · exact div_nonneg (Nat.cast_nonneg _) (Nat.cast_nonneg _)
  · exact le_rfl

theorem Double.nonneg_add {x y : Double} (nonneg : 0 ≤ x.value) (nonneg' : 0 ≤ y.value)
    (finite : x.isFinite = true) (finite' : y.isFinite = true) : 0 ≤ (x + y).value := by
  cases x with
  | nan | infinite negative => cases finite
  | finite a m fits =>
      cases y with
      | nan | infinite negative => cases finite'
      | finite b n fits' =>
          rw [value, le_div_iff₀ unitsPerOne_cast_pos, zero_mul,
            Int.cast_nonneg_iff] at nonneg nonneg'
          have above : ¬signed a m + signed b n < 0 := by omega
          change 0 ≤ (if signed a m + signed b n = 0 then zero (a && b)
            else nearest (signed a m + signed b n < 0) _ 1).value
          rw [decide_eq_false above]
          split
          · exact (value_zero _).ge
          · exact nonneg_nearest _ _

theorem Drill.nonneg_cutDepth (drill : Drill) : 0 ≤ drill.cutDepth := by
  have finite := drill.isFinite_cutDepth
  obtain ⟨own, nonneg⟩ := drill.depth.property
  rw [cutDepth] at finite ⊢
  split
  · rename_i through
    rw [if_pos through] at finite
    have sum : drill.depth.val + overtravel =
        .double (drill.depth.val.toDouble + overtravel.toDouble) := by
      cases drill.depth.val <;> rfl
    rw [sum] at finite ⊢
    have zero : (0 : Number).value = 0 := Int.cast_zero
    have depth := Number.toDouble_mono Number.isFinite_zero own nonneg
    have beyond : 0 ≤ overtravel.toDouble.value := by
      rw [overtravel, Number.toDouble, Double.ofInt]
      exact Double.nonneg_nearest _ _
    rw [Number.toDouble_zero, surface, Double.value_zero] at depth
    rw [Number.le_iff Number.isFinite_zero finite, zero]
    exact Double.nonneg_add depth beyond own (by decide +kernel)
  · exact nonneg

/-! ## Schedules -/

namespace Stepping

variable {stepping : Stepping} {depth : NonnegNumber} {passes : List (Pass Number)}

theorem within_passes (planned : stepping.passes? depth = .ok passes) :
    (∀ pass ∈ passes, Number.Within depth.val pass.height) ∧
      ∃ pass ∈ passes, pass.height = -depth.val := by
  obtain ⟨finite, nonneg⟩ := depth.property
  refine ⟨forall_height _ planned ?_ fun i step _ => ?_, exists_bottom planned⟩
  · exact Number.within_neg finite finite nonneg ((Number.le_iff finite finite).mpr le_rfl)
  · exact Number.within_neg_min (Number.isLength_times _ step) finite nonneg

end Stepping

/-! ## Heights of cuts -/

def Command.height? : Command → Option Double
  | linear target _ => target.z
  | _ => none

def cutHeights (lines : List Line) : List Double := (commands lines).filterMap Command.height?

/-- The heights of a pass; a ramp starts or ends on the surface. -/
def Outline.heights (outline : Outline) (pass : Pass Number) : List Number :=
  (if pass.isFirst && outline.rampIn then [0] else []) ++ pass.height ::
    if pass.isLast && outline.rampOut then [0] else []

def Operation.heights? (operation : Operation) : Attempt (List Number) :=
  match operation, operation.outline? with
  | drill task, _ => .ok [-task.cutDepth]
  | _, some outline => do
    let passes ← (outline.stepping.passes? outline.depth : Attempt _)
    return passes.flatMap outline.heights
  | _, none => .error .notCuttable

theorem cutHeights_append (front back : List Line) :
    cutHeights (front ++ back) = cutHeights front ++ cutHeights back := by
  rw [cutHeights, commands_append, List.filterMap_append, cutHeights, cutHeights]

theorem cutHeights_flatMap {α : Type} (f : α → List Line) (items : List α) :
    cutHeights (items.flatMap f) = items.flatMap fun item => cutHeights (f item) := by
  induction items with
  | nil => rfl
  | cons item items ih => rw [List.flatMap_cons, cutHeights_append, ih, List.flatMap_cons]

theorem cutHeights_ite (given : Bool) (lines : List Line) :
    cutHeights (if given then lines else []) = if given then cutHeights lines else [] := by
  cases given <;> rfl

theorem cutHeights_description (summary : String) (tool : Tool) (comment : Option String) :
    cutHeights (description summary tool comment) = [] := by
  rw [cutHeights, commands_description]
  rfl

theorem cutHeights_traverse (path : Path) (feed : Double) (closed : Bool) :
    cutHeights (path.traverse feed closed) = [] := by
  rw [cutHeights, Path.commands_traverse, List.filterMap_map]
  exact List.filterMap_eq_nil_iff.mpr fun point _ => rfl

theorem cutHeights_entering (entry : Option Entry) (start : Spot) (z rate : Double) :
    cutHeights (Line.entering entry start z rate) =
      (if isRampEntry entry then [surface] else []) ++ [z] := by
  rw [Line.entering]
  split <;> rfl

theorem cutHeights_leaving (exit : Option Exit) (start : Spot) (rate : Double) :
    cutHeights (Line.leaving exit start rate) = if isRampExit exit then [surface] else [] := by
  rw [Line.leaving]
  split <;> rfl

theorem cutHeights_around (profile : Profile) (pass : Pass Number) (start : Spot)
    (lines : List Line) :
    cutHeights (passHeading pass :: profile.approach start ++ lines ++
      [profile.retract "Retract to safe height"]) = cutHeights lines := by
  rw [cutHeights_append, cutHeights_append]
  exact List.append_nil _

theorem Outline.within_heights {outline : Outline} {depth : Number} (finite : depth.isFinite = true)
    (nonneg : 0 ≤ depth) {pass : Pass Number} (within : Number.Within depth pass.height) :
    ∀ height ∈ outline.heights pass, Number.Within depth height := by
  have surface := Number.within_zero finite nonneg
  intro height mem
  simp only [heights, List.mem_append, List.mem_cons, List.mem_ite_nil_right, List.not_mem_nil,
    or_false] at mem
  rcases mem with ⟨-, rfl⟩ | rfl | ⟨-, rfl⟩
  · exact surface
  · exact within
  · exact surface

section Passes

variable {outline : Outline} (tool : Tool) (profile : Profile) (pass : Pass Number)

theorem Outline.map_heights (outline : Outline) (pass : Pass Number) :
    (outline.heights pass).map Number.toDouble =
      (if pass.isFirst && outline.rampIn then [surface] else []) ++ pass.height.toDouble ::
        if pass.isLast && outline.rampOut then [surface] else [] := by
  simp only [heights, List.map_append, List.map_cons, apply_ite (List.map Number.toDouble),
    List.map_nil, Number.toDouble_zero]

theorem cutHeights_pass {contour : Contour}
    (outlined : (Operation.contour contour).outline? = some outline) :
    cutHeights (contour.pass tool profile pass) =
      (outline.heights pass).map Number.toDouble := by
  have entry : isRampEntry (if pass.isFirst then contour.entry else none) =
      (pass.isFirst && isRampEntry contour.entry) := by
    cases pass.isFirst <;> rfl
  have start : cutHeights [Line.startCompensation contour.compensation tool] = [] := rfl
  have back (spot : Spot) (feed : Double) : cutHeights [Line.rampReturn spot feed] = [] := rfl
  have stop : cutHeights [Line.endCompensation] = [] := rfl
  cases outlined
  rw [Outline.map_heights, Contour.pass_eq, cutHeights_around, Contour.cutLines]
  simp only [cutHeights_append, cutHeights_entering, cutHeights_traverse, cutHeights_ite,
    cutHeights_leaving, entry, start, back, stop, ite_self, List.append_nil, List.append_assoc,
    List.nil_append, List.singleton_append, Bool.and_eq_true, ite_and]

theorem cutHeights_pocketPass (straight : outline.rampIn = false)
    (stays : outline.rampOut = false) :
    cutHeights (pocketPass outline.path outline.closed tool profile pass) =
      (outline.heights pass).map Number.toDouble := by
  have lines : pocketPass outline.path outline.closed tool profile pass =
      passHeading pass :: profile.approach outline.spot ++
        pocketLines outline.path outline.closed tool profile pass ++
        [profile.retract "Retract to safe height"] := rfl
  rw [Outline.map_heights, straight, stays, Bool.and_false, Bool.and_false, lines,
    cutHeights_around, pocketLines, ← List.singleton_append, cutHeights_append,
    cutHeights_traverse]
  rfl

theorem cutHeights_passes {front : List Line} (silent : cutHeights front = [])
    {cut : Pass Number → List Line}
    (each : ∀ pass, cutHeights (cut pass) = (outline.heights pass).map Number.toDouble)
    (passes : List (Pass Number)) :
    cutHeights (front ++ passes.flatMap cut) =
      (passes.flatMap outline.heights).map Number.toDouble := by
  rw [cutHeights_append, silent, List.nil_append, cutHeights_flatMap, List.map_flatMap]
  exact congrArg passes.flatMap (funext each)

end Passes

/-! ## Operations -/

namespace Operation

variable {operation : Operation} {outline : Outline} {tool : Tool} {profile : Profile}
  {lines : List Line} {heights : List Number}

theorem heights?_of_outline (outlined : operation.outline? = some outline) :
    operation.cutDepth? = some outline.depth.val ∧
      operation.heights? = do
        let passes ← (outline.stepping.passes? outline.depth : Attempt _)
        return passes.flatMap outline.heights := by
  cases operation with
  | drill task | ofNoKind toolId depth comment => cases outlined
  | contour task | closedPocket task | openPocket task =>
      cases outlined
      exact ⟨rfl, rfl⟩

theorem passes_of_lines (outlined : operation.outline? = some outline)
    (cut : (operation.lines tool profile).outcome = .ok lines) :
    ∃ passes, outline.stepping.passes? outline.depth = .ok passes ∧
      cutHeights lines = (passes.flatMap outline.heights).map Number.toDouble := by
  have pocket (straight : outline.rampIn = false) (stays : outline.rampOut = false)
      (summary word : String) (comment : Option String) (passes : List (Pass Number)) :
      cutHeights (description summary tool comment ++ strategyLine word ::
        passes.flatMap (pocketPass outline.path outline.closed tool profile)) =
          (passes.flatMap outline.heights).map Number.toDouble := by
    rw [List.append_cons]
    refine cutHeights_passes ?_ (fun pass => ?_) passes
    · rw [cutHeights_append, cutHeights_description]
      rfl
    · exact cutHeights_pocketPass tool profile pass straight stays
  cases operation with
  | drill task | ofNoKind toolId depth comment => cases outlined
  | contour task =>
      obtain ⟨passes, planned, rfl⟩ := Contour.lines_ok cut
      have same := cutHeights_passes (cutHeights_description task.summary tool task.comment)
        (fun pass => cutHeights_pass tool profile pass outlined) passes
      cases outlined
      exact ⟨passes, planned, same⟩
  | closedPocket task =>
      obtain ⟨passes, planned, rfl⟩ := ClosedPocket.lines_ok cut
      cases outlined
      exact ⟨passes, planned, pocket rfl rfl _ _ _ passes⟩
  | openPocket task =>
      obtain ⟨passes, planned, rfl⟩ := OpenPocket.lines_ok cut
      cases outlined
      exact ⟨passes, planned, pocket rfl rfl _ _ _ passes⟩

theorem heights_of_lines (cut : (operation.lines tool profile).outcome = .ok lines) :
    ∃ depth heights, operation.cutDepth? = some depth ∧ operation.heights? = .ok heights ∧
      cutHeights lines = heights.map Number.toDouble ∧
      (∀ height ∈ heights, Number.Within depth height) ∧ -depth ∈ heights := by
  cases outlined : operation.outline? with
  | some outline =>
      obtain ⟨passes, planned, same⟩ := passes_of_lines outlined cut
      obtain ⟨measured, all⟩ := heights?_of_outline outlined
      rw [planned] at all
      obtain ⟨within, pass, mem, bottom⟩ := Stepping.within_passes planned
      refine ⟨_, _, measured, all, same, fun height member => ?_, ?_⟩
      · obtain ⟨pass, mem, member⟩ := List.mem_flatMap.mp member
        obtain ⟨finite, nonneg⟩ := outline.depth.property
        exact Outline.within_heights finite nonneg (within pass mem) height member
      · exact List.mem_flatMap.mpr ⟨pass, mem, by simp [Outline.heights, bottom]⟩
  | none =>
      cases operation with
      | drill task =>
          cases cut
          have finite := task.isFinite_cutDepth
          have bottom := Number.within_neg finite finite task.nonneg_cutDepth
            ((Number.le_iff finite finite).mpr le_rfl)
          refine ⟨_, _, rfl, rfl, ?_, by simpa using bottom, List.mem_singleton_self _⟩
          rw [Drill.lines, cutHeights_append, cutHeights_description]
          rfl
      | ofNoKind toolId depth comment => cases cut
      | contour task | closedPocket task | openPocket task => cases outlined

end Operation

/-- Two passes, with a ramp into the first and out of the last. -/
example : (Operation.contour (Sample.outline none)).heights?.toOption.map
    (·.map Number.operand) = some ["0", "-3", "-5", "0"] := by
  decide +kernel

/-! ## Written heights -/

def CommentStyle.linearHeights (style : CommentStyle) (lines : List String) : List String :=
  (style.read lines).filterMap fun instruction =>
    if instruction.isLinear then instruction.operand? 'Z' else none

theorem Command.operand?_height (dialect : Dialect) (command : Command) :
    (if (command.instruction dialect.spelling).isLinear then
      (command.instruction dialect.spelling).operand? 'Z' else none) =
      command.height?.map Double.operand := by
  by_cases moves : (command.instruction dialect.spelling).isLinear = true
  · obtain ⟨target, feed, rfl⟩ := (isLinear_instruction dialect command).mp moves
    rw [if_pos moves]
    exact (operands_linear dialect target feed).2.2
  · rw [if_neg moves]
    rw [isLinear_instruction] at moves
    cases command with
    | linear target feed => exact absurd ⟨target, feed, rfl⟩ moves
    | _ => rfl

theorem linearHeights_render (dialect : Dialect) (lines : List Line) :
    dialect.spelling.comments.linearHeights (lines.map (Line.render dialect.spelling)) =
      (cutHeights lines).map Double.operand := by
  rw [CommentStyle.linearHeights, Dialect.read_render, cutHeights, List.filterMap_map,
    List.map_filterMap]
  exact congrArg (List.filterMap · (commands lines)) (funext (Command.operand?_height dialect))

/-! ## Warnings of depths -/

section Guards

variable {operation : Operation} {tool : Tool} {profile : Profile} {catalog : Catalog}
  {number depth : Number}

theorem Number.lt_iff_exists_height {heights : List Number} {limit : Number}
    (finite : depth.isFinite = true) (finite' : limit.isFinite = true)
    (within : ∀ height ∈ heights, Within depth height) (bottom : -depth ∈ heights) :
    limit < depth ↔ ∃ height ∈ heights, height < -limit := by
  have opposite : (-limit).isFinite = true := (isFinite_neg limit).trans finite'
  rw [lt_iff finite' finite]
  constructor
  · intro less
    refine ⟨-depth, bottom, (lt_iff (within _ bottom).finite opposite).mpr ?_⟩
    rw [value_neg, value_neg]
    exact neg_lt_neg less
  · rintro ⟨height, mem, less⟩
    have between := within height mem
    have less := (lt_iff between.finite opposite).mp less
    have above := (le_iff (within _ bottom).finite between.finite).mp between.bottom
    rw [value_neg] at less above
    linarith

theorem depthWarning?_of_cutDepth (measured : operation.cutDepth? = some depth)
    (finite : depth.isFinite = true) (number : Number) (tool : Tool) :
    ∃ warning, depthWarning? number operation tool = .ok warning ∧
      (∀ told ∈ warning, ∃ limit ∈ tool.maxDepth, told = .tooDeep number depth tool.id limit.val) ∧
      (warning.isSome = true ↔ ∃ limit ∈ tool.maxDepth, limit.val < depth) := by
  rw [depthWarning?, measured]
  cases limited : tool.maxDepth with
  | none => exact ⟨none, rfl, by simp, by simp⟩
  | some limit =>
      have deeper := Number.not_le_iff_lt finite limit.property.1
      by_cases within : depth ≤ limit.val
      · refine ⟨none, by simp [within], by simp, ?_⟩
        simpa using fun less => deeper.mpr less within
      · refine ⟨some (.tooDeep number depth tool.id limit.val), ?_, by simp, ?_⟩
        · simp only [if_neg within, Number.toDouble?_of_isFinite finite]
          rfl
        · simpa using deeper.mp within

theorem block_guarded {lines : List Line} {heights : List Number}
    (cut : (operation.lines tool profile).outcome = .ok lines)
    (measured : operation.cutDepth? = some depth) (finite : depth.isFinite = true)
    (within : ∀ height ∈ heights, Number.Within depth height) (bottom : -depth ∈ heights)
    (found : catalog.find? operation.toolId = some tool) (number : Number) :
    ∃ warning,
      (block profile catalog number operation).outcome =
        .ok (operation.heading number ++ warning.toList.map (.remark ·.message) ++ lines,
          warning) ∧
      (block profile catalog number operation).warnings = warning.toList ∧
      (∀ told ∈ warning, ∃ limit ∈ tool.maxDepth, told = .tooDeep number depth tool.id limit.val) ∧
      (warning.isSome = true ↔
        ∃ limit ∈ tool.maxDepth, ∃ height ∈ heights, height < -limit.val) := by
  obtain ⟨warning, warned, told, deep⟩ := depthWarning?_of_cutDepth measured finite number tool
  have made : (block profile catalog number operation).outcome =
      .ok (operation.heading number ++ warning.toList.map (.remark ·.message) ++ lines,
        warning) := by
    rw [block_of_found found, warned, cut]
    rfl
  refine ⟨warning, made, block_warnings made, told, deep.trans ?_⟩
  refine exists_congr fun limit => and_congr_right fun _ => ?_
  exact Number.lt_iff_exists_height finite limit.property.1 within bottom

end Guards

/-! ## Operations and their blocks -/

namespace Operation

/-- How deep an operation is cut: by its depth, by the heights of its linear moves, and by the
warning of its block. -/
structure Descends (operation : Operation) (tool : Tool) (profile : Profile) (lines : List Line)
    (depth : Number) (heights : List Number) : Prop where
  measured : operation.cutDepth? = some depth
  planned : operation.heights? = .ok heights
  moves : cutHeights lines = heights.map Number.toDouble
  within : ∀ height ∈ heights, Number.Within depth height
  deepest : -depth ∈ heights
  written : profile.dialect.spelling.comments.linearHeights
    (lines.map (Line.render profile.dialect.spelling)) = heights.map Number.operand
  readBack : ∃ least, Decimal.read? (-depth).operand = some least ∧
    ∀ height ∈ heights, ∃ value, Decimal.read? height.operand = some value ∧
      least ≤ value ∧ value ≤ 0
  guarded : ∀ catalog number, catalog.find? operation.toolId = some tool → ∃ warning,
    (block profile catalog number operation).outcome =
      .ok (operation.heading number ++ warning.toList.map (.remark ·.message) ++ lines, warning) ∧
    (block profile catalog number operation).warnings = warning.toList ∧
    (∀ told ∈ warning, ∃ limit ∈ tool.maxDepth, told = .tooDeep number depth tool.id limit.val) ∧
    (warning.isSome = true ↔ ∃ limit ∈ tool.maxDepth, ∃ height ∈ heights, height < -limit.val)

theorem descends {operation : Operation} {tool : Tool} {profile : Profile} {lines : List Line}
    (cut : (operation.lines tool profile).outcome = .ok lines) :
    ∃ depth heights, operation.Descends tool profile lines depth heights := by
  obtain ⟨depth, heights, measured, planned, moves, within, bottom⟩ := heights_of_lines cut
  obtain ⟨kind, known⟩ := kind?_of_lines cut
  have finite := operation.isFinite_cutDepth known measured
  have operand {a : Number} (own : a.isFinite = true) :
      Decimal.read? a.operand = some (Decimal.rounded operandPlaces a.toDouble.value) :=
    Double.read?_fixed_eq own operandPlaces
  refine ⟨depth, heights, measured, planned, moves, within, bottom, ?_, ?_,
    fun catalog number found => block_guarded cut measured finite within bottom found number⟩
  · rw [linearHeights_render, moves, List.map_map]
    rfl
  · refine ⟨_, operand (within _ bottom).finite, fun height mem => ?_⟩
    have between := within height mem
    refine ⟨_, operand between.finite, ?_, ?_⟩
    · exact Decimal.rounded_mono
        (Number.toDouble_mono (within _ bottom).finite between.finite between.bottom)
    · have below := Number.toDouble_mono between.finite Number.isFinite_zero between.top
      rw [Number.toDouble_zero, surface, Double.value_zero] at below
      rw [← Decimal.rounded_zero operandPlaces]
      exact Decimal.rounded_mono below

/-- A contour in two passes, with ramps, and a hole that is too deep as it goes through. -/
theorem descends_of_sample :
    ∃ tool, Catalog.standard.find? "mill_6mm" = some tool ∧
      ∀ operation ∈ [contour (Sample.outline none), drill Sample.deepHole],
        ∃ lines depth heights, (operation.lines tool .standard).outcome = .ok lines ∧
          operation.Descends tool .standard lines depth heights := by
  have found : Catalog.standard.find? "mill_6mm" =
      some (Catalog.standard.tools.get ⟨2, by decide⟩) := by decide +kernel
  refine ⟨_, found, fun operation mem => ?_⟩
  have fine : (operation.lines (Catalog.standard.tools.get ⟨2, by decide⟩)
      .standard).outcome.isOk = true := by
    rcases List.mem_pair.mp mem with rfl | rfl <;> decide +kernel
  obtain ⟨lines, cut⟩ := Attempt.exists_ok fine
  obtain ⟨depth, heights, descends⟩ := descends cut
  exact ⟨lines, depth, heights, cut, descends⟩

end Operation

end Millwork
