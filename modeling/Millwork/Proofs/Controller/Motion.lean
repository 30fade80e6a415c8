import Millwork.Proofs.Controller.Instruction

namespace Millwork

/-! ## Modal states -/

/-- What a controller remembers from one instruction to the next. -/
structure Modal where
  absolute : Bool
  millimetres : Bool
  spindle : Bool
  height : Option String
  deriving DecidableEq

namespace Instruction

def isRapid (instruction : Instruction) : Bool :=
  instruction.code == "G0" || instruction.code == "G00"

def isLinear (instruction : Instruction) : Bool :=
  instruction.code == "G1" || instruction.code == "G01"

def isMove (instruction : Instruction) : Bool := instruction.isRapid || instruction.isLinear

end Instruction

namespace Modal

def start : Modal := ⟨false, false, false, none⟩

def ready (height : String) : Modal := ⟨true, true, true, some height⟩

def step (modal : Modal) (instruction : Instruction) : Modal :=
  match instruction.code with
  | "G90" => { modal with absolute := true }
  | "G91" => { modal with absolute := false }
  | "G21" => { modal with millimetres := true }
  | "G20" => { modal with millimetres := false }
  | "M3" | "M4" => { modal with spindle := true }
  | "M5" | "M2" | "M30" => { modal with spindle := false }
  | _ =>
    if instruction.isMove then
      { modal with height := (instruction.operand? 'Z').or modal.height }
    else modal

def run (modal : Modal) (instructions : List Instruction) : Modal := instructions.foldl step modal

@[simp] theorem run_nil (modal : Modal) : modal.run [] = modal := rfl

@[simp] theorem run_cons (modal : Modal) (instruction : Instruction)
    (rest : List Instruction) :
    modal.run (instruction :: rest) = (modal.step instruction).run rest := rfl

@[simp] theorem run_append (modal : Modal) (front back : List Instruction) :
    modal.run (front ++ back) = (modal.run front).run back := List.foldl_append

/-- Nothing that was set up for cuts is given up, whatever the height. -/
structure Running (modal : Modal) : Prop where
  absolute : modal.absolute = true
  millimetres : modal.millimetres = true
  spindle : modal.spindle = true

theorem ready_running (height : String) : (ready height).Running := ⟨rfl, rfl, rfl⟩

end Modal

/-! ## Guarded runs -/

/-- The instruction does no harm in this state: moves are absolute and in millimetres, a rapid move
to another place happens at the safe height, rapid moves end at no other height, and cuts happen
while the spindle runs. -/
structure Guarded (safe : String) (modal : Modal) (instruction : Instruction) : Prop where
  prepared : instruction.isMove = true → modal.absolute = true ∧ modal.millimetres = true
  clear : instruction.isRapid = true →
    (instruction.operand? 'X').isSome ∨ (instruction.operand? 'Y').isSome →
    modal.height = some safe
  lift : instruction.isRapid = true → ∀ z ∈ instruction.operand? 'Z', z = safe
  cutting : instruction.isLinear = true → modal.spindle = true

def GuardedRun (safe : String) : Modal → List Instruction → Prop
  | _, [] => True
  | modal, instruction :: rest =>
    Guarded safe modal instruction ∧ GuardedRun safe (modal.step instruction) rest

theorem guardedRun_append {safe : String} {modal : Modal} {front back : List Instruction} :
    GuardedRun safe modal (front ++ back) ↔
      GuardedRun safe modal front ∧ GuardedRun safe (modal.run front) back := by
  induction front generalizing modal with
  | nil => exact (iff_of_eq (true_and _)).symm
  | cons instruction front ih =>
      rw [List.cons_append, GuardedRun, ih, GuardedRun, and_assoc]
      rfl

theorem GuardedRun.at_split {safe : String} {modal : Modal} {front back : List Instruction}
    {instruction : Instruction} (guarded : GuardedRun safe modal (front ++ instruction :: back)) :
    Guarded safe (modal.run front) instruction :=
  (guardedRun_append.mp guarded).2.1

/-! ## Steps of commands -/

namespace Command

/-- Moves that cut, and the offset of the tool while it does. -/
def isCut : Command → Bool
  | linear .. | compensate .. | cancelCompensation => true
  | _ => false

def isLinear : Command → Bool
  | linear .. => true
  | _ => false

theorem isCut_of_isLinear {command : Command} (moves : command.isLinear = true) :
    command.isCut = true := by
  cases command with
  | linear target feed => rfl
  | _ => cases moves

variable (dialect : Dialect) (modal : Modal)

theorem isRapid_instruction (command : Command) :
    (command.instruction dialect.spelling).isRapid = true ↔ ∃ target, command = .rapid target := by
  cases command with
  | rapid target => cases dialect <;> simp [instruction, Instruction.isRapid, Dialect.spelling]
  | linear target feed =>
      cases dialect <;> simp [instruction, Instruction.isRapid, Dialect.spelling]
  | compensate side diameter => cases side <;> simp [instruction, Instruction.isRapid]
  | _ => simp [instruction, Instruction.isRapid]

theorem isLinear_instruction (command : Command) :
    (command.instruction dialect.spelling).isLinear = true ↔
      ∃ target feed, command = .linear target feed := by
  cases command with
  | rapid target => cases dialect <;> simp [instruction, Instruction.isLinear, Dialect.spelling]
  | linear target feed =>
      cases dialect <;> simp [instruction, Instruction.isLinear, Dialect.spelling]
  | compensate side diameter => cases side <;> simp [instruction, Instruction.isLinear]
  | _ => simp [instruction, Instruction.isLinear]

theorem step_rapid (target : Target) :
    modal.step ((rapid target).instruction dialect.spelling) =
      { modal with height := (target.operands.lookup 'Z').or modal.height } := by
  cases dialect <;> simp [Modal.step, instruction, Dialect.spelling, Instruction.isMove,
    Instruction.isRapid, Instruction.operand?]

theorem running_step {command : Command} (cut : command.isCut = true) (running : modal.Running) :
    (modal.step (command.instruction dialect.spelling)).Running := by
  obtain ⟨absolute, millimetres, spindle⟩ := running
  cases command with
  | linear target feed =>
      cases dialect <;> constructor <;> simpa [Modal.step, instruction, Dialect.spelling,
        Instruction.isMove, Instruction.isRapid, Instruction.isLinear]
  | compensate side diameter => cases side <;> exact ⟨absolute, millimetres, spindle⟩
  | cancelCompensation => exact ⟨absolute, millimetres, spindle⟩
  | _ => cases cut

theorem guarded_cut {command : Command} (cut : command.isCut = true) (running : modal.Running)
    (safe : String) : Guarded safe modal (command.instruction dialect.spelling) := by
  have still : ¬(command.instruction dialect.spelling).isRapid = true := by
    rw [isRapid_instruction]
    rintro ⟨target, rfl⟩
    cases cut
  exact ⟨fun _ => ⟨running.absolute, running.millimetres⟩, fun moves => absurd moves still,
    fun moves => absurd moves still, fun _ => running.spindle⟩

theorem guarded_retract {modal : Modal} (absolute : modal.absolute = true)
    (millimetres : modal.millimetres = true) (safe : Double) :
    Guarded safe.operand modal ((rapid (.height safe)).instruction dialect.spelling) := by
  have still : ¬((rapid (.height safe)).instruction dialect.spelling).isLinear = true := by
    rw [isLinear_instruction]
    rintro ⟨target, feed, other⟩
    cases other
  refine ⟨fun _ => ⟨absolute, millimetres⟩, fun _ => ?_, fun _ => ?_,
    fun moves => absurd moves still⟩
  · simp [instruction, Instruction.operand?, Target.operands, Target.height]
  · simp [instruction, Instruction.operand?, Target.operands, Target.height]

theorem guarded_position {modal : Modal} {safe : String} (ready : modal = .ready safe)
    (x y : Double) :
    Guarded safe modal ((rapid (.position x y)).instruction dialect.spelling) := by
  subst ready
  refine ⟨fun _ => ⟨rfl, rfl⟩, fun _ _ => rfl, fun _ => ?_, fun _ => rfl⟩
  simp [instruction, Instruction.operand?, Target.operands, Target.position, List.lookup_cons]

theorem guarded_setting {command : Command} (rapid : ¬∃ target, command = .rapid target)
    (linear : ¬∃ target feed, command = .linear target feed) (safe : String) :
    Guarded safe modal (command.instruction dialect.spelling) := by
  rw [← isRapid_instruction dialect] at rapid
  rw [← isLinear_instruction dialect] at linear
  exact ⟨fun moves => absurd moves (by simp [Instruction.isMove, rapid, linear]),
    fun moves => absurd moves rapid, fun moves => absurd moves rapid,
    fun moves => absurd moves linear⟩

end Command

/-! ## Runs that return to the safe height -/

/-- From and to the safe height, with everything guarded in between. -/
structure Returns (dialect : Dialect) (safe : Double) (orders : List Command) : Prop where
  guarded : GuardedRun safe.operand (.ready safe.operand)
    (orders.map (Command.instruction dialect.spelling))
  back : (Modal.ready safe.operand).run (orders.map (Command.instruction dialect.spelling)) =
    .ready safe.operand

namespace Returns

variable {dialect : Dialect} {safe : Double}

theorem nil : Returns dialect safe [] := ⟨trivial, rfl⟩

theorem append {front back : List Command} (first : Returns dialect safe front)
    (second : Returns dialect safe back) : Returns dialect safe (front ++ back) where
  guarded := by
    rw [List.map_append, guardedRun_append, first.back]
    exact ⟨first.guarded, second.guarded⟩
  back := by rw [List.map_append, Modal.run_append, first.back, second.back]

theorem flatMap {α : Type} {items : List α} {orders : α → List Command}
    (each : ∀ item ∈ items, Returns dialect safe (orders item)) :
    Returns dialect safe (items.flatMap orders) := by
  induction items with
  | nil => exact nil
  | cons item items ih =>
      rw [List.forall_mem_cons] at each
      rw [List.flatMap_cons]
      exact each.1.append (ih each.2)

theorem running_cuts (dialect : Dialect) {cuts : List Command}
    (cut : ∀ command ∈ cuts, command.isCut = true) {modal : Modal} (running : modal.Running)
    (height : String) :
    GuardedRun height modal (cuts.map (Command.instruction dialect.spelling)) ∧
      (modal.run (cuts.map (Command.instruction dialect.spelling))).Running := by
  -- Cuts move the tool up and down; what they keep is that the machine is running.
  induction cuts generalizing modal with
  | nil => exact ⟨trivial, running⟩
  | cons command cuts ih =>
      rw [List.forall_mem_cons] at cut
      have next := ih cut.2 (Command.running_step dialect modal cut.1 running)
      exact ⟨⟨Command.guarded_cut dialect modal cut.1 running height, next.1⟩, next.2⟩

end Returns

/-! ## Excursions -/

structure Excursion where
  x : Double
  y : Double
  cuts : List Command
  cut : ∀ command ∈ cuts, command.isCut = true

namespace Excursion

/-- To the place at the safe height, through the cuts, and up to the safe height again. -/
def orders (safe : Double) (excursion : Excursion) : List Command :=
  .rapid (.position excursion.x excursion.y) :: .rapid (.height safe) :: excursion.cuts ++
    [.rapid (.height safe)]

variable (dialect : Dialect) (safe : Double) (excursion : Excursion)

theorem returns : Returns dialect safe (excursion.orders safe) := by
  have position : (Modal.ready safe.operand).step
      ((Command.rapid (.position excursion.x excursion.y)).instruction dialect.spelling) =
        .ready safe.operand := by
    rw [Command.step_rapid]
    simp [Target.operands, Target.position, List.lookup_cons, Modal.ready]
  -- Wherever the cuts leave the tool, the last move takes a running machine to the safe height.
  have retract {modal : Modal} (running : modal.Running) :
      modal.step ((Command.rapid (.height safe)).instruction dialect.spelling) =
        .ready safe.operand := by
    rw [Command.step_rapid]
    simp [Target.operands, Target.height, Modal.ready, running.absolute, running.millimetres,
      running.spindle]
  have ready := Modal.ready_running safe.operand
  obtain ⟨guarded, running⟩ := Returns.running_cuts dialect excursion.cut ready safe.operand
  constructor
  · rw [orders, List.map_append, guardedRun_append]
    refine ⟨⟨Command.guarded_position dialect rfl _ _, ?_⟩, ?_⟩
    · rw [position]
      refine ⟨Command.guarded_retract dialect rfl rfl safe, ?_⟩
      rwa [retract ready]
    · simp only [List.map_cons, Modal.run_cons, position, retract ready]
      exact ⟨Command.guarded_retract dialect running.absolute running.millimetres safe, trivial⟩
  · simp only [orders, List.map_append, List.map_cons, Modal.run_append, Modal.run_cons, position,
      retract ready]
    exact retract running

theorem code_ne {command : Command} (mem : command ∈ excursion.orders safe) :
    (command.instruction dialect.spelling).code ∉ ["M3", "M5", "M30"] := by
  have rapid (target : Target) :
      ((Command.rapid target).instruction dialect.spelling).code ∉ ["M3", "M5", "M30"] := by
    cases dialect <;> simp [Command.instruction, Dialect.spelling]
  simp only [orders, List.cons_append, List.mem_cons, List.mem_append, List.not_mem_nil,
    or_false] at mem
  rcases mem with rfl | rfl | mem | rfl
  · exact rapid _
  · exact rapid _
  · have cut := excursion.cut command mem
    cases command with
    | linear target feed => cases dialect <;> simp [Command.instruction, Dialect.spelling]
    | compensate side diameter => cases side <;> simp [Command.instruction]
    | cancelCompensation => simp [Command.instruction]
    | _ => cases cut
  · exact rapid _

end Excursion

end Millwork
