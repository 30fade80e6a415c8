import Millwork.Proofs.Controller.Motion

namespace Millwork

/-- An axis that no move has named has no position. -/
structure Position where
  x : Option String
  y : Option String
  z : Option String
  deriving DecidableEq

structure Visit where
  rapid : Bool
  place : Position
  deriving DecidableEq

namespace Position

def step (position : Position) (instruction : Instruction) : Position :=
  if instruction.isMove then
    ⟨(instruction.operand? 'X').or position.x, (instruction.operand? 'Y').or position.y,
      (instruction.operand? 'Z').or position.z⟩
  else position

def run (position : Position) (instructions : List Instruction) : Position :=
  instructions.foldl step position

theorem run_append (position : Position) (front back : List Instruction) :
    position.run (front ++ back) = (position.run front).run back := List.foldl_append

def reach (position : Position) (target : Target) : Position :=
  ⟨(target.x.map Double.operand).or position.x, (target.y.map Double.operand).or position.y,
    (target.z.map Double.operand).or position.z⟩

def of (x y z : Double) : Position := ⟨some x.operand, some y.operand, some z.operand⟩

end Position

def visits : Position → List Instruction → List Visit
  | _, [] => []
  | position, instruction :: rest =>
    let place := position.step instruction
    if instruction.isMove then ⟨instruction.isRapid, place⟩ :: visits place rest
    else visits place rest

theorem visits_append (position : Position) (front back : List Instruction) :
    visits position (front ++ back) =
      visits position front ++ visits (position.run front) back := by
  induction front generalizing position with
  | nil => rfl
  | cons instruction front ih =>
      rw [List.cons_append, visits, visits, ih, Position.run, Position.run, List.foldl_cons]
      split <;> rfl

/-! ## Commands -/

theorem Target.lookup_operands (target : Target) {rest : List (Char × String)}
    (apart : ∀ letter ∈ ['X', 'Y', 'Z'], rest.lookup letter = none) :
    (target.operands ++ rest).lookup 'X' = target.x.map Double.operand ∧
      (target.operands ++ rest).lookup 'Y' = target.y.map Double.operand ∧
      (target.operands ++ rest).lookup 'Z' = target.z.map Double.operand := by
  simp only [List.forall_mem_cons] at apart
  obtain ⟨x, y, z⟩ := target
  cases x <;> cases y <;> cases z <;> simp [operands, List.lookup_cons, apart]

section Commands

variable (dialect : Dialect) (position : Position)

theorem Command.isMove_linear (target : Target) (feed : Option Double) :
    ((linear target feed).instruction dialect.spelling).isMove = true ∧
      ((linear target feed).instruction dialect.spelling).isRapid = false := by
  have moves := (isLinear_instruction dialect (linear target feed)).mpr ⟨_, _, rfl⟩
  have still := mt (isRapid_instruction dialect (linear target feed)).mp (by simp)
  exact ⟨by rw [Instruction.isMove, moves, Bool.or_true], Bool.eq_false_iff.mpr still⟩

theorem Command.isMove_rapid (target : Target) :
    ((rapid target).instruction dialect.spelling).isMove = true ∧
      ((rapid target).instruction dialect.spelling).isRapid = true := by
  have moves := (isRapid_instruction dialect (rapid target)).mpr ⟨_, rfl⟩
  exact ⟨by rw [Instruction.isMove, moves, Bool.true_or], moves⟩

theorem Command.isMove_setting {command : Command} (rapid : ¬∃ target, command = .rapid target)
    (linear : ¬∃ target feed, command = .linear target feed) :
    (command.instruction dialect.spelling).isMove = false := by
  rw [← isRapid_instruction dialect] at rapid
  rw [← isLinear_instruction dialect] at linear
  simp [Instruction.isMove, rapid, linear]

theorem Command.operands_linear (target : Target) (feed : Option Double) :
    ((linear target feed).instruction dialect.spelling).operand? 'X' =
        target.x.map Double.operand ∧
      ((linear target feed).instruction dialect.spelling).operand? 'Y' =
        target.y.map Double.operand ∧
      ((linear target feed).instruction dialect.spelling).operand? 'Z' =
        target.z.map Double.operand := by
  have apart : ∀ letter ∈ ['X', 'Y', 'Z'],
      (feed.toList.map fun rate => ('F', rate.operand)).lookup letter = none := by
    cases feed <;> simp [List.lookup_cons]
  exact target.lookup_operands apart

theorem Position.step_linear (target : Target) (feed : Option Double) :
    position.step ((Command.linear target feed).instruction dialect.spelling) =
      position.reach target := by
  obtain ⟨x, y, z⟩ := Command.operands_linear dialect target feed
  rw [step, if_pos (Command.isMove_linear dialect target feed).1]
  simp only [x, y, z, reach]

theorem Position.step_rapid (target : Target) :
    position.step ((Command.rapid target).instruction dialect.spelling) =
      position.reach target := by
  have apart : ∀ letter ∈ ['X', 'Y', 'Z'], ([] : List (Char × String)).lookup letter = none := by
    simp
  have words := target.lookup_operands apart
  rw [List.append_nil] at words
  obtain ⟨x, y, z⟩ := words
  rw [step, if_pos (Command.isMove_rapid dialect target).1]
  simp only [Instruction.operand?, Command.instruction, x, y, z, reach]

theorem visits_rapid (target : Target) (rest : List Instruction) :
    visits position ((Command.rapid target).instruction dialect.spelling :: rest) =
      ⟨true, position.reach target⟩ :: visits (position.reach target) rest := by
  obtain ⟨moves, rapid⟩ := Command.isMove_rapid dialect target
  rw [visits, if_pos moves, rapid, Position.step_rapid]

theorem Position.run_rapid (target : Target) (rest : List Instruction) :
    position.run ((Command.rapid target).instruction dialect.spelling :: rest) =
      (position.reach target).run rest := by
  rw [run, List.foldl_cons, step_rapid, run]

end Commands

/-! ## Cuts -/

/-- The cuts lead from a position through these places and nowhere else. -/
structure Tours (dialect : Dialect) (cuts : List Command) (start : Position)
    (places : List Position) : Prop where
  visits : visits start (cuts.map (Command.instruction dialect.spelling)) =
    places.map fun place => ⟨false, place⟩
  ends : start.run (cuts.map (Command.instruction dialect.spelling)) = places.getLastD start

namespace Tours

variable (dialect : Dialect) (start : Position)

theorem nil : Tours dialect [] start [] := ⟨rfl, rfl⟩

theorem linear (target : Target) (feed : Option Double) :
    Tours dialect [.linear target feed] start [start.reach target] := by
  obtain ⟨moves, still⟩ := Command.isMove_linear dialect target feed
  have step := Position.step_linear dialect start target feed
  constructor
  · simp only [List.map_cons, List.map_nil, Millwork.visits, step, if_pos moves, still]
  · exact step

theorem setting {command : Command} (rapid : ¬∃ target, command = .rapid target)
    (linear : ¬∃ target feed, command = .linear target feed) :
    Tours dialect [command] start [] := by
  have still := Command.isMove_setting dialect rapid linear
  have step : start.step (command.instruction dialect.spelling) = start := by
    rw [Position.step, still]
    rfl
  constructor
  · simp [Millwork.visits, still]
  · exact step

variable {dialect start}

theorem append {front back : List Command} {places others : List Position}
    (first : Tours dialect front start places)
    (second : Tours dialect back (places.getLastD start) others) :
    Tours dialect (front ++ back) start (places ++ others) where
  visits := by
    rw [List.map_append, visits_append, first.visits, first.ends, second.visits, List.map_append]
  ends := by
    rw [List.map_append, Position.run_append, first.ends, second.ends]
    simp only [List.getLastD_eq_getLast?, List.getLast?_append]
    cases others.getLast? <;> rfl

theorem append_silent {front back : List Command} {places : List Position}
    (first : Tours dialect front start places)
    (second : Tours dialect back (places.getLastD start) []) :
    Tours dialect (front ++ back) start places := by
  have both := first.append second
  rwa [List.append_nil] at both

end Tours

/-! ## Excursions -/

/-- At a height over a spot and then at the safe height, through the places of the cuts, and up to
the safe height again. -/
def route (x y safe : Double) (places : List Position) (height : Option String) : List Visit :=
  let above := Position.of x y safe
  ⟨true, { above with z := height }⟩ :: ⟨true, above⟩ :: places.map (fun place => ⟨false, place⟩) ++
    [⟨true, { places.getLastD above with z := some safe.operand }⟩]

namespace Excursion

variable {dialect : Dialect} {safe : Double} {excursion : Excursion} {places : List Position}

theorem visits_orders
    (tours : Tours dialect excursion.cuts (.of excursion.x excursion.y safe) places)
    (position : Position) :
    visits position ((excursion.orders safe).map (Command.instruction dialect.spelling)) =
        route excursion.x excursion.y safe places position.z ∧
      (position.run ((excursion.orders safe).map
        (Command.instruction dialect.spelling))).z = some safe.operand := by
  have there : (position.reach (.position excursion.x excursion.y)).reach (.height safe) =
      .of excursion.x excursion.y safe := by
    simp [Position.reach, Target.position, Target.height, Position.of]
  have back (last : Position) :
      last.reach (.height safe) = { last with z := some safe.operand } := by
    simp [Position.reach, Target.height]
  have beside : position.reach (.position excursion.x excursion.y) =
      { Position.of excursion.x excursion.y safe with z := position.z } := by
    simp [Position.reach, Target.position, Position.of]
  rw [orders, List.cons_append, List.cons_append, List.map_cons, List.map_cons, List.map_append]
  constructor
  · rw [visits_rapid, visits_rapid, there, visits_append, tours.visits, tours.ends,
      List.map_singleton, visits_rapid, back, beside]
    rfl
  · rw [Position.run_rapid, Position.run_rapid, there, Position.run_append, tours.ends,
      List.map_singleton, Position.run_rapid, back]
    rfl

end Excursion

end Millwork
