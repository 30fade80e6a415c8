import Millwork.Proofs.Program.Excursions
import Millwork.Proofs.Text.OneLine

namespace Millwork

/-- A line of words and numbers. -/
inductive Line.Own : Line → Prop
  | drill (task : Drill) : Own (.remark task.summary)
  | contour (task : Contour) : Own (.remark task.summary)
  | closedPocket (task : ClosedPocket) : Own (.remark task.summary)
  | openPocket (task : OpenPocket) : Own (.remark task.summary)
  | strategy {word : String} (one : Text.OneLine word) : Own (strategyLine word)
  | pass (pass : Pass Number) : Own (passHeading pass)
  | command (order : Command) {note : String} (one : Text.OneLine note) :
      Own (.command order (some note))

section Moves

variable (profile : Profile)

theorem Line.own_rapid (target : Target) {note : String} (one : Text.OneLine note) :
    (rapid target note).Own := .command _ one

theorem Line.own_linear (target : Target) (feed : Double) {note : String}
    (one : Text.OneLine note) : (linear target feed note).Own := .command _ one

theorem Path.own_traverse (path : Path) (feed : Double) (closed : Bool) :
    ∀ line ∈ path.traverse feed closed, line.Own := by
  intro line mem
  rw [traverse, List.mem_append, List.mem_map] at mem
  rcases mem with ⟨entry, -, rfl⟩ | mem
  · exact Line.own_linear _ _ (.append (.literal rfl) (oneLine_toString_nat _))
  · cases closed with
    | false => cases mem
    | true =>
        cases List.mem_singleton.mp mem
        exact Line.own_linear _ _ (.literal rfl)

theorem Line.own_entering (entry : Option Entry) (start : Spot) (z rate : Double) :
    ∀ line ∈ entering entry start z rate, line.Own := by
  rw [entering]
  split
  · rw [List.forall_mem_cons, List.forall_mem_singleton]
    exact ⟨own_linear _ _ (.literal rfl), own_linear _ _ (.literal rfl)⟩
  · rw [List.forall_mem_singleton]
    exact own_linear _ _ (.literal rfl)

theorem Line.own_leaving (exit : Option Exit) (start : Spot) (rate : Double) :
    ∀ line ∈ leaving exit start rate, line.Own := by
  rw [leaving]
  split
  · rw [List.forall_mem_singleton]
    exact own_linear _ _ (.literal rfl)
  · exact List.forall_mem_nil _

theorem Contour.own_cutLines (contour : Contour) (tool : Tool) (pass : Pass Number) :
    ∀ line ∈ contour.cutLines tool profile pass, line.Own := by
  intro line mem
  simp only [cutLines, List.mem_append, List.mem_ite_nil_right, List.mem_singleton] at mem
  rcases mem with ((((entering | ⟨-, rfl⟩) | ⟨-, rfl⟩) | path) | ⟨-, leaving⟩) | ⟨-, rfl⟩
  · exact Line.own_entering _ _ _ _ line entering
  · exact .command _ (.literal rfl)
  · exact Line.own_linear _ _ (.literal rfl)
  · exact contour.path.own_traverse _ _ line path
  · exact Line.own_leaving _ _ _ line leaving
  · exact .command _ (.literal rfl)

theorem own_pocketLines (path : Path) (closed : Bool) (tool : Tool) (pass : Pass Number) :
    ∀ line ∈ pocketLines path closed tool profile pass, line.Own := by
  rw [pocketLines, List.forall_mem_cons]
  exact ⟨Line.own_linear _ _ (.literal rfl), path.own_traverse _ closed⟩

theorem own_pass (pass : Pass Number) (start : Spot) {cuts : List Line}
    (own : ∀ line ∈ cuts, line.Own) :
    ∀ line ∈ passHeading pass :: profile.approach start ++ cuts ++
      [profile.retract "Retract to safe height"], line.Own := by
  intro line mem
  simp only [List.cons_append, List.mem_cons, List.mem_append, List.not_mem_nil, or_false,
    false_or, Profile.approach] at mem
  rcases mem with rfl | rfl | rfl | mem | rfl
  · exact .pass pass
  · exact Line.own_rapid _ (.literal rfl)
  · exact Line.own_rapid _ (.literal rfl)
  · exact own line mem
  · exact Line.own_rapid _ (.literal rfl)

end Moves

theorem Operation.lines_parts {operation : Operation} {tool : Tool} {profile : Profile}
    {lines : List Line} (cut : (operation.lines tool profile).outcome = .ok lines) :
    ∃ summary rest, lines = description summary tool operation.comment ++ rest ∧
      (Line.remark summary).Own ∧ ∀ line ∈ rest, line.Own := by
  have passes_own {passes : List (Pass Number)} {cut : Pass Number → List Line}
      (each : ∀ pass, ∀ line ∈ cut pass, line.Own) : ∀ line ∈ passes.flatMap cut, line.Own := by
    intro line mem
    obtain ⟨pass, -, member⟩ := List.mem_flatMap.mp mem
    exact each pass line member
  have pocket (path : Path) (closed : Bool) {word : String} (one : Text.OneLine word)
      (passes : List (Pass Number)) :
      ∀ line ∈ strategyLine word :: passes.flatMap (pocketPass path closed tool profile),
        line.Own := by
    rw [List.forall_mem_cons]
    exact ⟨.strategy one, passes_own fun pass =>
      own_pass profile pass _ (own_pocketLines profile path closed tool pass)⟩
  cases operation with
  | drill task =>
      cases cut
      refine ⟨task.summary, _, rfl, .drill task, ?_⟩
      simp only [List.forall_mem_cons]
      exact ⟨Line.own_rapid _ (.literal rfl), Line.own_rapid _ (.literal rfl),
        Line.own_linear _ _ (.literal rfl), Line.own_rapid _ (.literal rfl), List.forall_mem_nil _⟩
  | contour task =>
      obtain ⟨passes, -, rfl⟩ := Contour.lines_ok cut
      refine ⟨task.summary, _, rfl, .contour task, passes_own fun pass => ?_⟩
      rw [task.pass_eq]
      exact own_pass profile pass _ (task.own_cutLines profile tool pass)
  | closedPocket task =>
      obtain ⟨passes, -, rfl⟩ := ClosedPocket.lines_ok cut
      refine ⟨task.summary, _, rfl, .closedPocket task, pocket _ _ ?_ passes⟩
      cases task.strategy <;> exact .literal rfl
  | openPocket task =>
      obtain ⟨passes, -, rfl⟩ := OpenPocket.lines_ok cut
      refine ⟨task.summary, _, rfl, .openPocket task, pocket _ _ ?_ passes⟩
      cases task.strategy <;> exact .literal rfl
  | ofNoKind toolId depth comment => cases cut

end Millwork
