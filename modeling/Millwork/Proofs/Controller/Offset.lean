import Mathlib.Data.List.Forall2
import Millwork.Proofs.Controller.Motion

namespace Millwork

namespace Instruction

def startsOffset (instruction : Instruction) : Bool :=
  instruction.code == "G41" || instruction.code == "G42"

def endsOffset (instruction : Instruction) : Bool := instruction.code == "G40"

/-- Whether the tool is offset after an instruction. None is the answer to a start while it is on,
to an end while it is off, and to a rapid move while it is on. -/
def offset? (on : Bool) (instruction : Instruction) : Option Bool :=
  if instruction.startsOffset then if on then none else some true
  else if instruction.endsOffset then if on then some false else none
  else if on && instruction.isRapid then none
  else some on

end Instruction

structure OffsetStart where
  previous : Option Instruction
  instruction : Instruction
  deriving DecidableEq

def starts (previous : Option Instruction) : List Instruction → List OffsetStart
  | [] => []
  | instruction :: rest =>
    if instruction.startsOffset then ⟨previous, instruction⟩ :: starts (some instruction) rest
    else starts (some instruction) rest

theorem exists_starts_append (previous : Option Instruction) (front back : List Instruction) :
    ∃ last, starts previous (front ++ back) = starts previous front ++ starts last back := by
  induction front generalizing previous with
  | nil => exact ⟨previous, rfl⟩
  | cons instruction front ih =>
      obtain ⟨last, same⟩ := ih (some instruction)
      refine ⟨last, ?_⟩
      rw [List.cons_append, starts, same, starts]
      split <;> rfl

theorem length_starts (previous : Option Instruction) (instructions : List Instruction) :
    (starts previous instructions).length = instructions.countP Instruction.startsOffset := by
  induction instructions generalizing previous with
  | nil => rfl
  | cons instruction rest ih =>
      rw [starts, List.countP_cons]
      split <;> simp [ih]

/-! ## Stretches of instructions -/

/-- The instructions lead from one state of the offset to another, and start it as given wherever
they stand. -/
structure Spans (before : Bool) (instructions : List Instruction) (given : List OffsetStart)
    (after : Bool) : Prop where
  scan : instructions.foldlM Instruction.offset? before = some after
  starts : ∀ previous, starts previous instructions = given

namespace Spans

theorem nil {on : Bool} : Spans on [] [] on := ⟨rfl, fun _ => rfl⟩

theorem append {first second third : Bool} {front back : List Instruction}
    {given given' : List OffsetStart} (left : Spans first front given second)
    (right : Spans second back given' third) :
    Spans first (front ++ back) (given ++ given') third where
  scan := by
    rw [List.foldlM_append, left.scan]
    exact right.scan
  starts previous := by
    obtain ⟨last, same⟩ := exists_starts_append previous front back
    rw [same, left.starts, right.starts]

theorem flatMap {α : Type} {items : List α} {instructions : α → List Instruction}
    {given : α → List OffsetStart} {on : Bool}
    (each : ∀ item ∈ items, Spans on (instructions item) (given item) on) :
    Spans on (items.flatMap instructions) (items.flatMap given) on := by
  induction items with
  | nil => exact nil
  | cons item items ih =>
      rw [List.forall_mem_cons] at each
      rw [List.flatMap_cons, List.flatMap_cons]
      exact each.1.append (ih each.2)

theorem forall₂ {α : Type} {items : List α} {instructions : α → List Instruction} {on : Bool}
    {holds : α → OffsetStart → Prop}
    (each : ∀ item ∈ items, ∃ start, Spans on (instructions item) [start] on ∧ holds item start) :
    ∃ given, Spans on (items.flatMap instructions) given on ∧ List.Forall₂ holds items given := by
  induction items with
  | nil => exact ⟨[], nil, .nil⟩
  | cons item items ih =>
      rw [List.forall_mem_cons] at each
      obtain ⟨start, here, own⟩ := each.1
      obtain ⟨given, rest, all⟩ := ih each.2
      exact ⟨start :: given, here.append rest, .cons own all⟩

theorem quiet {on : Bool} {instruction : Instruction} (start : instruction.startsOffset = false)
    (finish : instruction.endsOffset = false) (still : on = true → instruction.isRapid = false) :
    Spans on [instruction] [] on where
  scan := by
    cases on with
    | false => simp [Instruction.offset?, start, finish]
    | true => simp [Instruction.offset?, start, finish, still rfl]
  starts previous := by simp [Millwork.starts, start]

theorem countP {before after : Bool} {instructions : List Instruction} {given : List OffsetStart}
    (spans : Spans before instructions given after) :
    instructions.countP Instruction.startsOffset = given.length := by
  rw [← length_starts none, spans.starts]

end Spans

/-! ## Commands -/

namespace Command

def setsOffset : Command → Bool
  | compensate .. | cancelCompensation => true
  | _ => false

variable (dialect : Dialect)

theorem setsOffset_instruction (command : Command) :
    ((command.instruction dialect.spelling).startsOffset ||
      (command.instruction dialect.spelling).endsOffset) = command.setsOffset := by
  cases command with
  | rapid target => cases dialect <;> rfl
  | linear target feed => cases dialect <;> rfl
  | compensate side diameter => cases side <;> rfl
  | _ => rfl

theorem spans {command : Command} {on : Bool} (apart : command.setsOffset = false)
    (moves : on = true → command.isLinear = true) :
    Spans on [command.instruction dialect.spelling] [] on := by
  rw [← setsOffset_instruction dialect, Bool.or_eq_false_iff] at apart
  apply Spans.quiet apart.1 apart.2
  intro offset
  rw [Bool.eq_false_iff]
  intro rapid
  obtain ⟨target, rfl⟩ := (isRapid_instruction dialect command).mp rapid
  cases moves offset

theorem spans_map {commands : List Command} {on : Bool}
    (each : ∀ command ∈ commands, Spans on [command.instruction dialect.spelling] [] on) :
    Spans on (commands.map (instruction dialect.spelling)) [] on := by
  induction commands with
  | nil => exact .nil
  | cons command commands ih =>
      rw [List.forall_mem_cons] at each
      exact each.1.append (ih each.2)

theorem spans_linear {commands : List Command} (on : Bool)
    (moves : ∀ command ∈ commands, command.isLinear = true) :
    Spans on (commands.map (instruction dialect.spelling)) [] on := by
  apply spans_map
  intro command mem
  have linear := moves command mem
  have apart : command.setsOffset = false := by
    cases command with
    | linear target feed => rfl
    | _ => cases linear
  exact spans dialect apart fun _ => linear

theorem spans_compensate (target : Target) (feed : Option Double) (side : Compensation)
    (diameter : Double) :
    Spans false ([linear target feed, compensate side diameter].map (instruction dialect.spelling))
      [⟨some ((linear target feed).instruction dialect.spelling),
        (compensate side diameter).instruction dialect.spelling⟩] true where
  scan := by cases dialect <;> cases side <;> rfl
  starts _ := by cases dialect <;> cases side <;> rfl

theorem spans_cancel : Spans true [cancelCompensation.instruction dialect.spelling] [] false where
  scan := rfl
  starts _ := rfl

end Command

/-! ## Excursions -/

namespace Excursion

variable {dialect : Dialect} {excursion : Excursion} {given : List OffsetStart}

theorem spans (safe : Double)
    (cuts : Spans false (excursion.cuts.map (Command.instruction dialect.spelling)) given false) :
    Spans false ((excursion.orders safe).map (Command.instruction dialect.spelling)) given
      false := by
  have rapid (target : Target) :
      Spans false [(Command.rapid target).instruction dialect.spelling] [] false :=
    Command.spans dialect rfl nofun
  have there := (rapid (.position excursion.x excursion.y)).append (rapid (.height safe))
  have all := (there.append cuts).append (rapid (.height safe))
  simpa [orders] using all

end Excursion

end Millwork
