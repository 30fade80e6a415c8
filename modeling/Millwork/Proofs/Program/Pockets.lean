import Millwork.Proofs.Program.Noninterference

namespace Millwork

structure Contour.AsPocket (contour : Contour) (profile : Profile) (path : Path) (closed : Bool)
    (stepping : Stepping) (depth : NonnegNumber) : Prop where
  path : contour.path = path
  closed : contour.closed.isOn = closed
  depth : contour.depth = depth
  stepping : contour.toStepping.SplitsLike stepping
  entry : ∀ entry ∈ contour.entry, entry.style = .vertical ∨ entry.style = .spiral
  exit : ∀ exit ∈ contour.exit, exit.style = .vertical ∨ exit.style = .straight
  compensation : contour.compensation = .none ∨ profile.toolCompensation.isOn = false

namespace Contour.AsPocket

variable {contour : Contour} {profile : Profile} {path : Path} {closed : Bool}
  {stepping : Stepping} {depth : NonnegNumber}
  (alike : contour.AsPocket profile path closed stepping depth)

include alike

theorem isRampEntry_eq_false (given : Bool) :
    isRampEntry (if given then contour.entry else none) = false := by
  cases given with
  | false => rfl
  | true =>
      rw [if_pos rfl]
      cases style : contour.entry with
      | none => rfl
      | some entry =>
          rcases alike.entry entry style with vertical | spiral
          · simp [isRampEntry, vertical]
          · simp [isRampEntry, spiral]

theorem isRampExit_eq_false : isRampExit contour.exit = false := by
  cases style : contour.exit with
  | none => rfl
  | some exit =>
      rcases alike.exit exit style with vertical | straight
      · simp [isRampExit, vertical]
      · simp [isRampExit, straight]

theorem compensates_eq_false : profile.compensates contour.compensation = false := by
  rcases alike.compensation with onPath | off
  · rw [onPath]
    exact Bool.and_false _
  · rw [Profile.compensates, off]
    rfl

theorem leaving_eq_nil (start : Spot) (rate : Double) (given : Bool) :
    (if given then Line.leaving contour.exit start rate else []) = [] := by
  rw [Line.leaving, alike.isRampExit_eq_false, if_neg Bool.false_ne_true, ite_self]

theorem entering_eq (start : Spot) (z rate : Double) (given : Bool) :
    Line.entering (if given then contour.entry else none) start z rate = [Line.plunge z rate] := by
  rw [Line.entering, alike.isRampEntry_eq_false, if_neg Bool.false_ne_true]

theorem cutLines_eq (tool : Tool) (pass : Pass Number) :
    contour.cutLines tool profile pass = pocketLines path closed tool profile pass := by
  rw [cutLines]
  simp only [alike.entering_eq, alike.isRampEntry_eq_false, alike.compensates_eq_false,
    alike.leaving_eq_nil, alike.path, alike.closed, Bool.false_eq_true, if_false, List.append_nil]
  rfl

theorem pass_eq (tool : Tool) (pass : Pass Number) :
    contour.pass tool profile pass = pocketPass path closed tool profile pass := by
  rw [Contour.pass_eq, alike.cutLines_eq, alike.path]
  rfl

end Contour.AsPocket

/-! ## Operations -/

def Operation.preface (operation : Operation) (tool : Tool) : List Line :=
  match operation with
  | drill task => description task.summary tool task.comment
  | contour task => description task.summary tool task.comment
  | closedPocket task =>
    description task.summary tool task.comment ++ [strategyLine task.strategy.word]
  | openPocket task =>
    description task.summary tool task.comment ++ [strategyLine task.strategy.word]
  | ofNoKind .. => []

/-- Behind what is said in front, the lines of both are the same; there are none of either if the
passes cannot be counted. -/
def Operation.CutAlike (first second : Operation) (tool : Tool) (profile : Profile) : Prop :=
  ∃ cuts : Attempt (List Line),
    (first.lines tool profile).outcome = (first.preface tool ++ ·) <$> cuts ∧
      (second.lines tool profile).outcome = (second.preface tool ++ ·) <$> cuts

theorem Contour.AsPocket.cuts {contour : Contour} {profile : Profile} {path : Path} {closed : Bool}
    {stepping : Stepping} {depth : NonnegNumber}
    (alike : contour.AsPocket profile path closed stepping depth) (tool : Tool) :
    ((Operation.contour contour).lines tool profile).outcome =
      ((Operation.contour contour).preface tool ++ ·) <$>
        (·.flatMap (pocketPass path closed tool profile)) <$>
          (stepping.passes? depth : Attempt (List (Pass Number))) := by
  have passes : contour.pass tool profile = pocketPass path closed tool profile :=
    funext (alike.pass_eq tool)
  rw [Operation.lines, Contour.lines_outcome, alike.depth, alike.stepping.passes?_eq, passes]
  cases stepping.passes? depth <;> rfl

theorem pockets_cut_alike (contour : Contour) (tool : Tool) (profile : Profile) :
    (∀ pocket : ClosedPocket,
      contour.AsPocket profile pocket.path true pocket.toStepping pocket.depth →
      (Operation.closedPocket pocket).CutAlike (.contour contour) tool profile) ∧
    (∀ pocket : OpenPocket,
      contour.AsPocket profile pocket.path false pocket.toStepping pocket.depth →
      (Operation.openPocket pocket).CutAlike (.contour contour) tool profile) := by
  constructor
  · intro pocket alike
    refine ⟨_, ?_, alike.cuts tool⟩
    rw [Operation.lines, Traced.outcome_lift, ClosedPocket.lines, Operation.preface]
    cases pocket.passes? pocket.depth with
    | error fault => rfl
    | ok passes => exact congrArg Except.ok (List.append_assoc _ [_] _).symm
  · intro pocket alike
    refine ⟨_, ?_, alike.cuts tool⟩
    rw [Operation.lines, Traced.outcome_lift, OpenPocket.lines, Operation.preface]
    cases pocket.passes? pocket.depth with
    | error fault => rfl
    | ok passes => exact congrArg Except.ok (List.append_assoc _ [_] _).symm

namespace Sample

def closedPocket : ClosedPocket :=
  { outline none with strategy := .zigzag, entry := some ⟨.ramp, none, none⟩ }

def openPocket : OpenPocket :=
  { outline none with width := ⟨.whole 12, by decide +kernel⟩, strategy := .parallel }

/-- A contour with a side, which the controller does not run the tool on. -/
def plainContour (closed : Switch) : Contour :=
  { outline none with closed, entry := some ⟨.spiral, none, none⟩, exit := some ⟨.straight⟩ }

theorem plainContour_asPocket (closed : Switch) : (plainContour closed).AsPocket .standard
    (outline none).path closed.isOn (outline none).toStepping (outline none).depth :=
  ⟨rfl, rfl, rfl, ⟨rfl, rfl⟩, by simp [plainContour], by simp [plainContour], .inr rfl⟩

end Sample

theorem pockets_cut_alike_of_sample :
    let tool := Catalog.standard.tools.get ⟨2, by decide⟩
    ((Sample.plainContour true).AsPocket .standard Sample.closedPocket.path true
        Sample.closedPocket.toStepping Sample.closedPocket.depth ∧
      (Operation.closedPocket Sample.closedPocket).CutAlike
        (.contour (Sample.plainContour true)) tool .standard) ∧
    ((Sample.plainContour false).AsPocket .standard Sample.openPocket.path false
        Sample.openPocket.toStepping Sample.openPocket.depth ∧
      (Operation.openPocket Sample.openPocket).CutAlike
        (.contour (Sample.plainContour false)) tool .standard) :=
  have closed := Sample.plainContour_asPocket true
  have asOpen := Sample.plainContour_asPocket false
  ⟨⟨closed, (pockets_cut_alike _ _ .standard).1 Sample.closedPocket closed⟩,
    ⟨asOpen, (pockets_cut_alike _ _ .standard).2 Sample.openPocket asOpen⟩⟩

end Millwork
