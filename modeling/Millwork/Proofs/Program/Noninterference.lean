import Millwork.Proofs.Controller.View
import Millwork.Proofs.Program.Feeds

/-!
# What the machine cannot tell apart

Two operations are cut alike when they agree in what is cut; comments, identifiers, the diameter of
a hole, the strategy and the width of a pocket, and the details of leads do not count. Two tools cut
alike when they agree in kind and in the values of their diameter and rates. In operations a whole
number and a double of one value are two numbers, as their multiples can be rounded differently.
-/

namespace Millwork

/-! ## Operations and tools -/

structure Stepping.SplitsLike (first second : Stepping) : Prop where
  multiPass : first.multiPass.isOn = second.multiPass.isOn
  passDepth : first.passDepth = second.passDepth

inductive Operation.CutsLike : Operation → Operation → Prop
  | drill {first second : Drill} (depth : first.depth = second.depth) (x : first.x = second.x)
      (y : first.y = second.y) (through : first.through.isOn = second.through.isOn) :
      CutsLike (.drill first) (.drill second)
  | contour {first second : Contour} (depth : first.depth = second.depth)
      (stepping : first.toStepping.SplitsLike second.toStepping) (path : first.path = second.path)
      (closed : first.closed.isOn = second.closed.isOn)
      (entry : isRampEntry first.entry = isRampEntry second.entry)
      (exit : isRampExit first.exit = isRampExit second.exit)
      (compensation : first.compensation = second.compensation) :
      CutsLike (.contour first) (.contour second)
  | closedPocket {first second : ClosedPocket} (depth : first.depth = second.depth)
      (stepping : first.toStepping.SplitsLike second.toStepping) (path : first.path = second.path) :
      CutsLike (.closedPocket first) (.closedPocket second)
  | openPocket {first second : OpenPocket} (depth : first.depth = second.depth)
      (stepping : first.toStepping.SplitsLike second.toStepping) (path : first.path = second.path) :
      CutsLike (.openPocket first) (.openPocket second)
  | ofNoKind {firstId secondId : String} {depth : Json}
      {firstComment secondComment : Option String} :
      CutsLike (.ofNoKind firstId depth firstComment) (.ofNoKind secondId depth secondComment)

/-- Two operations that either both lack their tool, or are cut alike by tools that cut alike. -/
def MachinedLike (firstCatalog secondCatalog : Catalog) (first second : Operation) : Prop :=
  firstCatalog.find? first.toolId = none ∧ secondCatalog.find? second.toolId = none ∨
    ∃ firstTool secondTool, firstCatalog.find? first.toolId = some firstTool ∧
      secondCatalog.find? second.toolId = some secondTool ∧
      firstTool.CutsLike secondTool ∧ first.CutsLike second

/-! ## The same excursions -/

section Excursions

variable {firstTool secondTool : Tool} {profile : Profile}

theorem Stepping.SplitsLike.passes?_eq {first second : Stepping} (splits : first.SplitsLike second)
    (depth : NonnegNumber) : first.passes? depth = second.passes? depth := by
  rw [passes?, passes?, splits.multiPass, splits.passDepth]

theorem Excursion.along_congr {start start' : Spot} {lines lines' : List Line}
    (cut : ∀ line ∈ lines, line.isCut = true) (cut' : ∀ line ∈ lines', line.isCut = true)
    (starts : start = start') (same : lines = lines') :
    along start lines cut = along start' lines' cut' := by
  subst starts
  subst same
  rfl

theorem Line.entering_congr {first second : Option Entry}
    (same : isRampEntry first = isRampEntry second) (start : Spot) (z rate : Double) :
    entering first start z rate = entering second start z rate := by
  rw [entering, entering, same]

theorem Line.leaving_congr {first second : Option Exit}
    (same : isRampExit first = isRampExit second) (start : Spot) (rate : Double) :
    leaving first start rate = leaving second start rate := by
  rw [leaving, leaving, same]

theorem Contour.excursion_congr {first second : Contour} (path : first.path = second.path)
    (closed : first.closed.isOn = second.closed.isOn)
    (entry : isRampEntry first.entry = isRampEntry second.entry)
    (exit : isRampExit first.exit = isRampExit second.exit)
    (compensation : first.compensation = second.compensation)
    (run : profile.tooling firstTool = profile.tooling secondTool) :
    first.excursion firstTool profile = second.excursion secondTool profile := by
  obtain ⟨plunge, feed, diameter⟩ := Tooling.mk.inj run
  funext pass
  refine Excursion.along_congr _ _ (by rw [path]) ?_
  -- Only the first pass has a lead in, so that of the others is none on both sides.
  have entries : isRampEntry (if pass.isFirst then first.entry else none) =
      isRampEntry (if pass.isFirst then second.entry else none) := by
    cases pass.isFirst with
    | false => rfl
    | true => exact entry
  simp only [cutLines, path, closed, compensation, feed, plunge, Line.startCompensation, diameter,
    Line.leaving_congr exit, Line.entering_congr entries, entries]

theorem pocketExcursion_congr {path path' : Path} (same : path = path') (closed : Bool)
    (run : profile.tooling firstTool = profile.tooling secondTool) :
    pocketExcursion path closed firstTool profile =
      pocketExcursion path' closed secondTool profile := by
  obtain ⟨plunge, feed, -⟩ := Tooling.mk.inj run
  subst same
  funext pass
  refine Excursion.along_congr _ _ rfl ?_
  rw [pocketLines, pocketLines, feed, plunge]

theorem Stepping.SplitsLike.excursions?_eq {first second : Stepping}
    (splits : first.SplitsLike second) {depth depth' : NonnegNumber} (same : depth = depth')
    {excursion excursion' : Pass Number → Excursion} (alike : excursion = excursion') :
    first.excursions? depth excursion = second.excursions? depth' excursion' := by
  rw [excursions?, excursions?, splits.passes?_eq, same, alike]

theorem Operation.CutsLike.excursions?_eq {first second : Operation}
    (alike : first.CutsLike second) (tools : firstTool.CutsLike secondTool) :
    first.excursions? firstTool profile = second.excursions? secondTool profile := by
  have run : profile.tooling firstTool = profile.tooling secondTool :=
    Profile.tooling_of_cutsLike tools
  cases alike with
  | drill depth x y through =>
      obtain ⟨plunge, -, -⟩ := Tooling.mk.inj run
      simp only [excursions?, Drill.excursion, Drill.cutDepth, depth, x, y, through, plunge]
  | contour depth stepping path closed entry exit compensation =>
      exact stepping.excursions?_eq depth
        (Contour.excursion_congr path closed entry exit compensation run)
  | closedPocket depth stepping path =>
      exact stepping.excursions?_eq depth (pocketExcursion_congr path true run)
  | openPocket depth stepping path =>
      exact stepping.excursions?_eq depth (pocketExcursion_congr path false run)
  | ofNoKind => rfl

end Excursions

theorem MachinedLike.excursions?_eq {firstCatalog secondCatalog : Catalog}
    {first second : Operation} (alike : MachinedLike firstCatalog secondCatalog first second)
    (profile : Profile) :
    firstCatalog.excursions? profile first = secondCatalog.excursions? profile second := by
  rcases alike with ⟨missing₁, missing₂⟩ | ⟨tool₁, tool₂, found₁, found₂, tools, operations⟩
  · rw [Catalog.excursions?, Catalog.excursions?, missing₁, missing₂]
  · rw [Catalog.excursions?, Catalog.excursions?, found₁, found₂]
    exact operations.excursions?_eq tools

theorem excursions_eq {firstCatalog secondCatalog : Catalog} {profile : Profile}
    {firsts seconds : List Operation} {cuts cuts' : List (List Excursion)}
    (alike : List.Forall₂ (MachinedLike firstCatalog secondCatalog) firsts seconds)
    (planned : List.Forall₂ (fun operation cuts =>
      firstCatalog.excursions? profile operation = .ok cuts) firsts cuts)
    (planned' : List.Forall₂ (fun operation cuts =>
      secondCatalog.excursions? profile operation = .ok cuts) seconds cuts') :
    cuts = cuts' := by
  -- Along the two lists of operations at once, with the two plans split as they are.
  induction alike generalizing cuts cuts' with
  | nil =>
      cases planned
      cases planned'
      rfl
  | cons here _ ih =>
      cases planned with
      | cons plan planned =>
          cases planned' with
          | cons plan' planned' =>
              rw [here.excursions?_eq, plan'] at plan
              cases plan
              rw [ih planned planned']

/-! ## The same view -/

theorem Program.Carries.view_text {program : Program} {profile : Profile}
    {excursions : List (List Excursion)} (carries : program.Carries profile excursions) :
    profile.dialect.spelling.comments.view program.text =
      (profile.opening ++ orders profile excursions.flatten ++ profile.closing).map
        (Command.text profile.dialect.spelling) := by
  rw [← carries.dialect, program.view_text, carries.body]

theorem Program.view_text_eq {profile : Profile} {firstPanel secondPanel : Panel}
    {firsts seconds : List Operation} {firstCatalog secondCatalog : Catalog}
    {firstStamp secondStamp : Timestamp} {first second : Program}
    (made : (assemble profile firstPanel firsts firstCatalog firstStamp).outcome = .ok first)
    (made' : (assemble profile secondPanel seconds secondCatalog secondStamp).outcome = .ok second)
    (alike : List.Forall₂ (MachinedLike firstCatalog secondCatalog) firsts seconds) :
    profile.dialect.spelling.comments.view first.text =
      profile.dialect.spelling.comments.view second.text := by
  obtain ⟨cuts, planned, carries⟩ := assemble_carries made
  obtain ⟨cuts', planned', carries'⟩ := assemble_carries made'
  rw [carries.view_text, carries'.view_text, excursions_eq alike planned planned']

namespace Sample

/-- A tool of the standard catalog under a name that reads like commands, its diameter a double. -/
def mill : Tool where
  id := "mill_6mm"
  name := "bit)\nG0 Z-99 ; (M5"
  kind := .millingBit
  diameter := PositiveNumber.ofExact (.whole 6) (PositiveNumber.isExact_whole 6)
  spindleSpeed := .whole 1
  feedRate := .whole 800
  plungeRate := some (.whole 300)
  maxDepth := some (.whole 1)
  id_ne := toolId_ne
  name_ne := by decide

def catalog : Catalog := ⟨[mill], by decide⟩

theorem mill_cutsLike : (Catalog.standard.tools.get ⟨2, by decide⟩).CutsLike mill where
  kind := rfl
  diameter := (PositiveNumber.value_ofExact (.whole 6) (PositiveNumber.isExact_whole 6)).symm
  feedRate := rfl
  plungeRate := .some rfl

end Sample

theorem Program.view_text_eq_of_sample :
    ∃ first second,
      (assemble .standard (Sample.panel "Shelf") (Sample.operations none) .standard
        Sample.stamp).outcome = .ok first ∧
      (assemble .standard (Sample.panel "\r\nM30") (Sample.operations (some "\nG0 Z-5"))
        Sample.catalog Sample.stamp).outcome = .ok second ∧
      CommentStyle.semicolon.view first.text = CommentStyle.semicolon.view second.text := by
  obtain ⟨first, made⟩ := Attempt.exists_ok (x := (assemble .standard (Sample.panel "Shelf")
    (Sample.operations none) .standard Sample.stamp).outcome) (by decide +kernel)
  obtain ⟨second, made'⟩ := Attempt.exists_ok (x := (assemble .standard (Sample.panel "\r\nM30")
    (Sample.operations (some "\nG0 Z-5")) Sample.catalog Sample.stamp).outcome) (by decide +kernel)
  have alike : List.Forall₂ (MachinedLike .standard Sample.catalog) (Sample.operations none)
      (Sample.operations (some "\nG0 Z-5")) := by
    refine .cons (.inr ?_) (.cons (.inl ?_) .nil)
    · exact ⟨Catalog.standard.tools.get ⟨2, by decide⟩, Sample.mill, by decide +kernel,
        by decide +kernel, Sample.mill_cutsLike, .contour rfl ⟨rfl, rfl⟩ rfl rfl rfl rfl rfl⟩
    · exact ⟨by decide +kernel, by decide +kernel⟩
  have same := view_text_eq made made' alike
  exact ⟨first, second, made, made', same⟩

end Millwork
