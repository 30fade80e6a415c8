import Millwork.Proofs.Controller.View
import Millwork.Proofs.Program.Excursions

namespace Millwork

namespace Program

def instructions (program : Program) : List Instruction :=
  program.dialect.spelling.comments.read program.lines

def after (program : Program) (lines : List String) : Modal :=
  Modal.start.run (program.dialect.spelling.comments.read lines)

structure MotionSafe (program : Program) (safe : String) : Prop where
  guarded : ∀ before line rest, program.lines = before ++ line :: rest →
    ∀ instruction ∈ Instruction.read? (program.dialect.spelling.comments.seen line),
      Guarded safe (program.after before) instruction
  cleared : ∀ before block rest, program.blocks = before ++ block :: rest →
    (program.after (program.render (program.header ++ before.flatten ++ block))).height = some safe
  once : ∀ code ∈ ["M3", "M5", "M30"], (program.instructions.map (·.code)).count code = 1
  ending : ∃ before retract stop finish, program.lines = before ++ [retract, stop, finish] ∧
    program.dialect.spelling.comments.read [retract, stop, finish] =
      [⟨program.dialect.spelling.rapid, [('Z', safe)]⟩, ⟨"M5", []⟩, ⟨"M30", []⟩]

end Program

/-! ## Head and foot -/

namespace Profile

variable (profile : Profile)

def read (commands : List Command) : List Instruction :=
  commands.map (Command.instruction profile.dialect.spelling)

theorem read_append (front back : List Command) :
    profile.read (front ++ back) = profile.read front ++ profile.read back := List.map_append

theorem run_opening :
    Modal.start.run (profile.read profile.opening) = .ready profile.safeHeight.val.operand := by
  simp only [read, opening, List.map_cons, Modal.run_cons, Command.step_rapid]
  rfl

theorem guarded_opening :
    GuardedRun profile.safeHeight.val.operand .start (profile.read profile.opening) :=
  ⟨Command.guarded_setting _ _ (by simp) (by simp) _,
    Command.guarded_setting _ _ (by simp) (by simp) _,
    Command.guarded_retract _ rfl rfl _, Command.guarded_setting _ _ (by simp) (by simp) _, trivial⟩

theorem guarded_closing : GuardedRun profile.safeHeight.val.operand
    (.ready profile.safeHeight.val.operand) (profile.read profile.closing) :=
  ⟨Command.guarded_retract _ rfl rfl _, Command.guarded_setting _ _ (by simp) (by simp) _,
    Command.guarded_setting _ _ (by simp) (by simp) _, trivial⟩

theorem orders_returns (excursions : List Excursion) :
    Returns profile.dialect (PositiveNumber.toDouble profile.safeHeight)
      (orders profile excursions) :=
  .flatMap fun excursion _ => excursion.returns _ _

theorem run_orders (excursions : List Excursion) :
    Modal.start.run (profile.read (profile.opening ++ orders profile excursions)) =
      .ready profile.safeHeight.val.operand := by
  rw [read_append, Modal.run_append, run_opening]
  exact (profile.orders_returns excursions).back

theorem count_orders (excursions : List Excursion) {code : String}
    (special : code ∈ ["M3", "M5", "M30"]) :
    ((profile.read (orders profile excursions)).map (·.code)).count code = 0 := by
  rw [List.count_eq_zero]
  intro mem
  obtain ⟨instruction, member, same⟩ := List.mem_map.mp mem
  obtain ⟨command, ordered, rfl⟩ := List.mem_map.mp member
  obtain ⟨excursion, -, own⟩ := List.mem_flatMap.mp ordered
  exact excursion.code_ne profile.dialect _ own (same ▸ special)

end Profile

/-! ## Whole programs -/

namespace Program.Carries

variable {program : Program} {profile : Profile} {excursions : List (List Excursion)}

theorem read_render (carries : program.Carries profile excursions) (lines : List Line) :
    program.dialect.spelling.comments.read (program.render lines) =
      profile.read (commands lines) := by
  rw [Program.read_render, carries.dialect]
  rfl

theorem instructions (carries : program.Carries profile excursions) :
    program.instructions = profile.read
      (profile.opening ++ orders profile excursions.flatten ++ profile.closing) := by
  rw [← carries.body]
  exact carries.read_render program.body

theorem guardedRun (carries : program.Carries profile excursions) :
    GuardedRun profile.safeHeight.val.operand .start program.instructions := by
  rw [carries.instructions, Profile.read_append, guardedRun_append, profile.run_orders,
    Profile.read_append, guardedRun_append, profile.run_opening]
  exact ⟨⟨profile.guarded_opening, (profile.orders_returns _).guarded⟩, profile.guarded_closing⟩

theorem guarded (carries : program.Carries profile excursions) {before rest : List String}
    {line : String} {instruction : Instruction} (split : program.lines = before ++ line :: rest)
    (read : instruction ∈ Instruction.read? (program.dialect.spelling.comments.seen line)) :
    Guarded profile.safeHeight.val.operand (program.after before) instruction := by
  have run := carries.guardedRun
  have here : program.dialect.spelling.comments.read (line :: rest) =
      instruction :: program.dialect.spelling.comments.read rest := List.filterMap_cons_some read
  rw [Program.instructions, split, CommentStyle.read_append, here] at run
  exact run.at_split

theorem once (carries : program.Carries profile excursions) {code : String}
    (special : code ∈ ["M3", "M5", "M30"]) :
    (program.instructions.map (·.code)).count code = 1 := by
  rw [carries.instructions, Profile.read_append, Profile.read_append, List.map_append,
    List.map_append, List.count_append, List.count_append, profile.count_orders _ special]
  simp only [List.mem_cons, List.not_mem_nil, or_false] at special
  rcases special with rfl | rfl | rfl <;> cases h : profile.dialect <;>
    simp [Profile.read, Profile.opening, Profile.closing, Command.instruction, h, Dialect.spelling]

theorem lines (carries : program.Carries profile excursions) :
    ∃ before, program.lines = before ++ program.render profile.footer := by
  refine ⟨program.render (program.header ++ program.blocks.flatten ++ [.blank]), ?_⟩
  rw [Program.lines, Program.body, carries.footer, Program.render, Program.render, Program.render,
    ← List.map_append, List.append_assoc (program.header ++ _)]
  rfl

theorem motionSafe (carries : program.Carries profile excursions) :
    program.MotionSafe profile.safeHeight.val.operand where
  guarded _ _ _ split _ read := carries.guarded split read
  cleared before block rest split := by
    obtain ⟨made, told⟩ := carries.upto split
    rw [Program.after, carries.read_render, told, profile.run_orders]
    rfl
  once _ special := carries.once special
  ending := by
    obtain ⟨before, lines⟩ := carries.lines
    refine ⟨before, _, _, _, lines, ?_⟩
    have footer := carries.read_render profile.footer
    rw [profile.commands_footer, Profile.read, ← carries.dialect] at footer
    exact footer

end Program.Carries

variable {profile : Profile} {panel : Panel} {operations : List Operation} {catalog : Catalog}
  {stamp : Timestamp} {program : Program}

theorem assemble_motionSafe
    (made : (assemble profile panel operations catalog stamp).outcome = .ok program) :
    program.MotionSafe profile.safeHeight.val.operand := by
  obtain ⟨excursions, -, carries⟩ := assemble_carries made
  exact carries.motionSafe

theorem assemble_motionSafe_of_sample :
    ∃ program, (assemble .standard (Sample.panel "Shelf") (Sample.operations none) .standard
        Sample.stamp).outcome = .ok program ∧ program.MotionSafe "10" := by
  obtain ⟨program, made⟩ := Attempt.exists_ok (x := (assemble .standard (Sample.panel "Shelf")
    (Sample.operations none) .standard Sample.stamp).outcome) (by decide +kernel)
  have height : Profile.standard.safeHeight.val.operand = "10" := by decide +kernel
  exact ⟨program, made, height ▸ assemble_motionSafe made⟩

end Millwork
