import Millwork.Proofs.Number.Decimal
import Millwork.Proofs.Program.Feeds
import Millwork.Proofs.Program.MotionSafety
import Millwork.Proofs.Program.Schedule

namespace Millwork

attribute [local instance (high)] instPowNat

/-! ## Positive numbers -/

theorem Double.unitsPerOne_le_roundUnits {n : Nat} (positive : 0 < n) :
    unitsPerOne ≤ roundUnits (n * unitsPerOne) 1 := by
  have unit := unitsPerOne_pos
  have one : unitsPerOne ≤ n * unitsPerOne / 1 := by
    rw [Nat.div_one]
    exact Nat.le_mul_of_pos_left _ positive
  have large : n * unitsPerOne / 1 ≠ 0 := by omega
  calc unitsPerOne
      ≤ 2 ^ (n * unitsPerOne / 1).log2 :=
        Nat.pow_le_pow_right Nat.two_pos ((Nat.le_log2 large).mpr one)
    _ ≤ roundUnits (n * unitsPerOne) 1 := two_pow_log2_le_roundUnits large

namespace PositiveNumber

theorem lt_value_iff (units : Nat) :
    Double.unitsPerOne < 2000 * units ↔
      (1 : ℚ) / 2000 < (units : ℚ) / (Double.unitsPerOne : ℚ) := by
  rw [div_lt_div_iff₀ (by norm_num) Double.unitsPerOne_cast_pos, one_mul, mul_comm (units : ℚ)]
  exact_mod_cast Iff.rfl

theorem exists_units (a : PositiveNumber) : ∃ units fits,
    a.toDouble = .finite false units fits ∧
      (Double.unitsPerOne < 2000 * units ↔ 1 / 2000 < a.val.value) := by
  obtain ⟨a, finite, positive⟩ := a
  cases a with
  | whole n =>
      -- A whole number may be rounded to be a double, but never to less than one.
      have pos : 0 < n := (Number.whole_lt_whole 0 n).mp positive
      have sign : decide (n < 0) = false := decide_eq_false (by omega)
      have large : Double.unitsPerOne ≤ Double.roundUnits (n.natAbs * Double.unitsPerOne) 1 :=
        Double.unitsPerOne_le_roundUnits (by omega)
      have unit := Double.unitsPerOne_pos
      have one : (1 : ℚ) ≤ n := by exact_mod_cast pos
      change (Double.ofInt n).isFinite = true at finite
      rw [Double.ofInt, sign, Double.nearest] at finite
      split at finite
      · rename_i inRange
        refine ⟨_, Double.representable_roundUnits inRange, ?_, iff_of_true (by omega) ?_⟩
        · rw [toDouble, Number.toDouble, Double.ofInt, sign, Double.nearest, dif_pos inRange]
        · change (1 : ℚ) / 2000 < n
          linarith
      · cases finite
  | double x =>
      obtain ⟨units, fits, rfl, -, -⟩ := Number.exists_units_of_pos finite positive
      exact ⟨units, fits, rfl, lt_value_iff units⟩

theorem read?_operand (a : PositiveNumber) :
    ∃ value, Decimal.read? a.toDouble.operand = some value ∧ 0 ≤ value ∧
      |value - a.toDouble.value| ≤ 1 / 2000 ∧ (0 < value ↔ 1 / 2000 < a.val.value) := by
  obtain ⟨units, fits, same, large⟩ := a.exists_units
  let rounded := nearestQuotient (units * 10 ^ operandPlaces) Double.unitsPerOne
  have read : Decimal.read? a.toDouble.operand =
      some ((rounded : ℚ) / (10 : ℚ) ^ operandPlaces) :=
    same ▸ Double.read?_fixed operandPlaces false units fits
  have near : |(rounded : ℚ) / (10 : ℚ) ^ operandPlaces - a.toDouble.value| ≤
      1 / 2 / (10 : ℚ) ^ operandPlaces :=
    same ▸ Double.abs_fixed_sub_value_le operandPlaces false fits
  have positive : 0 < rounded ↔ Double.unitsPerOne < 2 * (units * 1000) :=
    nearestQuotient_pos_iff Double.unitsPerOne_pos
  clear_value rounded
  refine ⟨_, read, by positivity, near.trans ?_, ?_⟩
  · norm_num [operandPlaces]
  · rw [← large, div_pos_iff_of_pos_right (by positivity), Nat.cast_pos, positive]
    omega

end PositiveNumber

/-! ## Words -/

namespace Instruction

/-- The word is a feed, a speed or a diameter, or the height of a rapid move. -/
def HoldsQuantity (spelling : Spelling) (instruction : Instruction) (word : Char × String) : Prop :=
  word ∈ instruction.words ∧
    (word.1 ∈ ['F', 'S', 'D'] ∨ word.1 = 'Z' ∧ instruction.code = spelling.rapid)

instance (spelling : Spelling) (instruction : Instruction) (word : Char × String) :
    Decidable (instruction.HoldsQuantity spelling word) :=
  inferInstanceAs (Decidable (_ ∧ _))

end Instruction

def Command.Quantified (quantified : Char → PositiveNumber → Prop) (command : Command) : Prop :=
  ∀ (dialect : Dialect) (word : Char × String),
    (command.instruction dialect.spelling).HoldsQuantity dialect.spelling word →
      ∃ quantity, quantified word.1 quantity ∧ word.2 = quantity.toDouble.operand

namespace Command

variable {quantified : Char → PositiveNumber → Prop}

theorem axis_of_mem_operands {target : Target} {word : Char × String}
    (mem : word ∈ target.operands) : word.1 ∈ ['X', 'Y', 'Z'] := by
  simp only [Target.operands, List.mem_append, List.mem_map] at mem
  rcases mem with (⟨a, -, rfl⟩ | ⟨a, -, rfl⟩) | ⟨a, -, rfl⟩ <;> simp

theorem quantified_position (x y : Double) : (rapid (.position x y)).Quantified quantified := by
  rintro dialect word ⟨mem, letter⟩
  have plane : word = ('X', x.operand) ∨ word = ('Y', y.operand) := by
    simpa [instruction, Target.operands, Target.position] using mem
  rcases plane with rfl | rfl <;> simp at letter

theorem quantified_height {safe : PositiveNumber} (own : quantified 'Z' safe) :
    (rapid (.height safe.toDouble)).Quantified quantified := by
  rintro dialect word ⟨mem, -⟩
  cases List.mem_singleton.mp mem
  exact ⟨safe, own, rfl⟩

theorem quantified_startSpindle {speed : PositiveNumber} (own : quantified 'S' speed) :
    (startSpindle speed.toDouble).Quantified quantified := by
  rintro dialect word ⟨mem, -⟩
  cases List.mem_singleton.mp mem
  exact ⟨speed, own, rfl⟩

theorem quantified_setting {command : Command}
    (setting : command ∈ [absolutePositions, millimetres, stopSpindle, endProgram]) :
    command.Quantified quantified := by
  rintro dialect word ⟨mem, -⟩
  simp only [List.mem_cons, List.not_mem_nil, or_false] at setting
  rcases setting with rfl | rfl | rfl | rfl <;> cases mem

theorem quantified_follows {tool : Tool} {profile : Profile} {command : Command}
    (follows : command.Follows (profile.tooling tool))
    (plunge : quantified 'F' (profile.plungeRateFor tool))
    (feed : quantified 'F' (profile.feedRateFor tool)) (diameter : quantified 'D' tool.diameter) :
    command.Quantified quantified := by
  rintro dialect word ⟨mem, letter⟩
  cases command with
  | linear target rate =>
      cases follows
      rcases List.mem_append.mp mem with axis | fed
      · have letters : ∀ letter ∈ ['X', 'Y', 'Z'], letter ∉ ['F', 'S', 'D'] := by simp
        -- A linear move is not spelled as a rapid one.
        have codes : dialect.spelling.linear ≠ dialect.spelling.rapid := by
          cases dialect <;> simp [Dialect.spelling]
        rcases letter with special | ⟨-, rapid⟩
        · exact absurd special (letters _ (axis_of_mem_operands axis))
        · exact absurd rapid codes
      · cases List.mem_singleton.mp fed
        cases target.z.isSome with
        | true => exact ⟨_, plunge, rfl⟩
        | false => exact ⟨_, feed, rfl⟩
  | compensate side own =>
      cases follows
      have same : word = ('D', (PositiveNumber.toDouble tool.diameter).operand) := by
        cases side <;> exact List.mem_singleton.mp mem
      exact same ▸ ⟨_, diameter, rfl⟩
  | cancelCompensation => cases mem
  | _ => exact follows.elim

end Command

/-! ## Programs -/

inductive Quantifies (profile : Profile) (catalog : Catalog) (operations : List Operation) :
    Char → PositiveNumber → Prop
  | height : Quantifies profile catalog operations 'Z' profile.safeHeight
  | speed : Quantifies profile catalog operations 'S' profile.spindleSpeed
  | plunge {operation : Operation} {tool : Tool} : operation ∈ operations →
      catalog.find? operation.toolId = some tool →
      Quantifies profile catalog operations 'F' (profile.plungeRateFor tool)
  | feed {operation : Operation} {tool : Tool} : operation ∈ operations →
      catalog.find? operation.toolId = some tool →
      Quantifies profile catalog operations 'F' (profile.feedRateFor tool)
  | diameter {operation : Operation} {tool : Tool} : operation ∈ operations →
      catalog.find? operation.toolId = some tool →
      Quantifies profile catalog operations 'D' tool.diameter

def Program.Shows (program : Program) (letter : Char) (operand : String) : Prop :=
  ∃ instruction ∈ program.instructions,
    instruction.HoldsQuantity program.dialect.spelling (letter, operand)

theorem Program.shows_iff (program : Program) (letter : Char) (operand : String) :
    program.Shows letter operand ↔ ∃ command ∈ commands program.body,
      (command.instruction program.dialect.spelling).HoldsQuantity program.dialect.spelling
        (letter, operand) := by
  rw [Shows, instructions, lines, read_render]
  constructor
  · rintro ⟨instruction, mem, holds⟩
    obtain ⟨command, among, rfl⟩ := List.mem_map.mp mem
    exact ⟨command, among, holds⟩
  · rintro ⟨command, among, holds⟩
    exact ⟨_, List.mem_map_of_mem among, holds⟩

section Programs

variable {profile : Profile} {panel : Panel} {operations : List Operation} {catalog : Catalog}
  {stamp : Timestamp} {program : Program}

theorem Excursion.quantified_orders {quantified : Char → PositiveNumber → Prop}
    {excursion : Excursion} (height : quantified 'Z' profile.safeHeight)
    (cuts : ∀ command ∈ excursion.cuts, command.Quantified quantified) :
    ∀ command ∈ excursion.orders (PositiveNumber.toDouble profile.safeHeight),
      command.Quantified quantified := by
  have retract := Command.quantified_height height
  simp only [Excursion.orders, List.forall_mem_cons, List.forall_mem_append]
  exact ⟨⟨Command.quantified_position _ _, retract, cuts⟩, retract, List.forall_mem_nil _⟩

theorem exists_tool_of_mem {excursions : List (List Excursion)} {excursion : Excursion}
    (planned : List.Forall₂ (fun operation cuts =>
      catalog.excursions? profile operation = .ok cuts) operations excursions)
    (mem : excursion ∈ excursions.flatten) :
    ∃ operation ∈ operations, ∃ tool, catalog.find? operation.toolId = some tool ∧
      excursion.Follows (profile.tooling tool) := by
  induction planned with
  | nil => cases mem
  | @cons operation cuts operations excursions here _ ih =>
      rcases List.mem_append.mp mem with first | later
      · exact ⟨operation, List.mem_cons_self, Catalog.follows_excursions here excursion first⟩
      · obtain ⟨operation, member, follows⟩ := ih later
        exact ⟨operation, List.mem_cons_of_mem _ member, follows⟩

theorem Program.Carries.quantified {excursions : List (List Excursion)}
    (planned : List.Forall₂ (fun operation cuts =>
      catalog.excursions? profile operation = .ok cuts) operations excursions)
    (carries : program.Carries profile excursions) :
    ∀ command ∈ commands program.body,
      command.Quantified (Quantifies profile catalog operations) := by
  have retract := Command.quantified_height (@Quantifies.height profile catalog operations)
  have start := Command.quantified_startSpindle (@Quantifies.speed profile catalog operations)
  have setting {command : Command} (mem : command ∈
      [.absolutePositions, .millimetres, .stopSpindle, .endProgram]) :
      command.Quantified (Quantifies profile catalog operations) :=
    Command.quantified_setting mem
  rw [carries.body]
  simp only [Profile.opening, Profile.closing, List.forall_mem_append, List.forall_mem_cons]
  refine ⟨⟨⟨setting (by simp), setting (by simp), retract, start, List.forall_mem_nil _⟩, ?_⟩,
    retract, setting (by simp), setting (by simp), List.forall_mem_nil _⟩
  intro command mem
  obtain ⟨excursion, member, own⟩ := List.mem_flatMap.mp mem
  obtain ⟨operation, listed, tool, found, follows⟩ := exists_tool_of_mem planned member
  refine Excursion.quantified_orders .height (fun cut among => ?_) command own
  exact Command.quantified_follows (follows cut among) (.plunge listed found) (.feed listed found)
    (.diameter listed found)

/-- A quantity of at most half a thousandth is shown as zero, and any other as a positive number. -/
theorem assemble_shows
    (made : (assemble profile panel operations catalog stamp).outcome = .ok program)
    (letter : Char) (operand : String) (shown : program.Shows letter operand) :
    ∃ quantity value, Quantifies profile catalog operations letter quantity ∧
      Decimal.read? operand = some value ∧ 0 ≤ value ∧
      |value - quantity.toDouble.value| ≤ 1 / 2000 ∧
      (0 < value ↔ 1 / 2000 < quantity.val.value) := by
  obtain ⟨excursions, planned, carries⟩ := assemble_carries made
  obtain ⟨command, among, holds⟩ := (program.shows_iff letter operand).mp shown
  obtain ⟨quantity, quantifies, written⟩ := carries.quantified planned command among _ _ holds
  obtain ⟨value, read, rest⟩ := quantity.read?_operand
  exact ⟨quantity, value, quantifies, (congrArg _ written).trans read, rest⟩

end Programs

namespace Sample

theorem exists_shown (profile : Profile) (catalog : Catalog) (shown : List (Char × String))
    (computed : ((assemble profile (panel "Shelf") (operations none) catalog stamp).outcome.toOption
      |>.map fun program => decide (∀ word ∈ shown, ∃ command ∈ commands program.body,
        (command.instruction program.dialect.spelling).HoldsQuantity program.dialect.spelling
          word)) = some true) :
    ∃ program, (assemble profile (panel "Shelf") (operations none) catalog stamp).outcome =
      .ok program ∧ ∀ word ∈ shown, program.Shows word.1 word.2 := by
  cases made : (assemble profile (panel "Shelf") (operations none) catalog stamp).outcome with
  | error fault =>
      rw [made] at computed
      cases computed
  | ok program =>
      rw [made] at computed
      have told := of_decide_eq_true (Option.some.inj computed)
      exact ⟨program, rfl, fun word mem => (program.shows_iff _ _).mpr (told word mem)⟩

def faint : PositiveNumber := ⟨.double (.ofDecimal false 1 (-4)), by decide +kernel⟩

def faintTool : Tool where
  id := "mill_6mm"
  kind := .millingBit
  diameter := faint
  spindleSpeed := faint
  feedRate := faint
  plungeRate := some faint
  maxDepth := none
  name := "mill_6mm"
  id_ne := toolId_ne
  name_ne := toolId_ne

def faintCatalog : Catalog where
  tools := [faintTool]
  distinct := by decide

def faintProfile : Profile :=
  { Profile.standard with
    safeHeight := faint
    spindleSpeed := faint
    toolCompensation := true }

end Sample

theorem assemble_shows_of_sample :
    ∃ program, (assemble .standard (Sample.panel "Shelf") (Sample.operations none) .standard
        Sample.stamp).outcome = .ok program ∧
      ∀ word ∈ [('F', "800"), ('F', "300"), ('S', "18000"), ('Z', "10")],
        ∃ quantity value, Quantifies .standard .standard (Sample.operations none) word.1 quantity ∧
          Decimal.read? word.2 = some value ∧ 0 ≤ value ∧
          |value - quantity.toDouble.value| ≤ 1 / 2000 ∧
          (0 < value ↔ 1 / 2000 < quantity.val.value) := by
  obtain ⟨program, made, shown⟩ := Sample.exists_shown .standard .standard
    [('F', "800"), ('F', "300"), ('S', "18000"), ('Z', "10")] (by decide +kernel)
  exact ⟨program, made, fun word mem => assemble_shows made _ _ (shown word mem)⟩

/-- Quantities of a tenth of a thousandth: the tool is fed at zero, starts at zero, has no diameter,
and travels on the surface. -/
theorem assemble_shows_zero :
    ∃ program, (assemble Sample.faintProfile (Sample.panel "Shelf") (Sample.operations none)
        Sample.faintCatalog Sample.stamp).outcome = .ok program ∧
      ∀ letter ∈ ['F', 'S', 'D', 'Z'], ∃ operand value, program.Shows letter operand ∧
        Decimal.read? operand = some value ∧ ¬0 < value := by
  obtain ⟨program, made, shown⟩ := Sample.exists_shown Sample.faintProfile Sample.faintCatalog
    (['F', 'S', 'D', 'Z'].map (·, "0")) (by decide +kernel)
  have zero : Decimal.read? "0" = some 0 := by decide +kernel
  refine ⟨program, made, fun letter mem => ⟨"0", 0, ?_, zero, lt_irrefl 0⟩⟩
  exact shown _ (List.mem_map_of_mem mem)

end Millwork
