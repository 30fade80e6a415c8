import Millwork.Proofs.Program.Feeds
import Millwork.Proofs.Tool.ReadBack

namespace Millwork

open Attempt

variable {profile : Profile} {first second : Tool}

/-! ## Operations -/

theorem Tool.SameValues.cutsLike (same : first.SameValues second) : first.CutsLike second :=
  ⟨same.kind, same.diameter, same.feedRate, same.plungeRate⟩

theorem Warning.message_tooDeep (number depth : Number) (toolId : String) {limit limit' : Number}
    (same : limit.operand = limit'.operand) :
    (tooDeep number depth toolId limit).message = (tooDeep number depth toolId limit').message := by
  unfold message
  dsimp only
  rw [same]

theorem depthWarning?_told (same : first.SameValues second) (number : Number)
    (operation : Operation) :
    Option.map Warning.message <$> depthWarning? number operation first =
      Option.map Warning.message <$> depthWarning? number operation second := by
  have limits := same.maxDepth
  rw [depthWarning?, depthWarning?, same.id]
  generalize first.maxDepth = limit at limits ⊢
  generalize second.maxDepth = limit' at limits ⊢
  cases limits with
  | none => rfl
  | @some a b own =>
      have place := Number.place?_congr a.property.1 b.property.1 own
      have operand : a.val.operand = b.val.operand :=
        congrArg Double.operand (PositiveNumber.toDouble_congr own)
      cases operation.cutDepth? with
      | none => rfl
      | some depth =>
          simp only [Number.le_congr_right place depth]
          split
          · rfl
          · cases depth.toDouble? with
            | error fault => rfl
            | ok x => exact congrArg (Except.ok ∘ some) (Warning.message_tooDeep _ _ _ operand)

/-! ## Blocks -/

def Block.told (result : Block × Option Warning) : Block × Option String :=
  (result.1, result.2.map Warning.message)

theorem told_block_of_found {catalog : Catalog} {number : Number} {operation : Operation}
    {tool : Tool} (found : catalog.find? operation.toolId = some tool) :
    Block.told <$> (block profile catalog number operation).outcome = do
      let message ← Option.map Warning.message <$> depthWarning? number operation tool
      let lines ← (operation.lines tool profile).outcome
      return (operation.heading number ++ message.toList.map .remark ++ lines, message) := by
  rw [block_of_found found]
  cases depthWarning? number operation tool with
  | error fault => rfl
  | ok warning =>
      cases (operation.lines tool profile).outcome with
      | error fault => rfl
      | ok lines => cases warning <;> rfl

variable {catalog catalog' : Catalog}

theorem block_told (same : List.Forall₂ Tool.SameValues catalog.tools catalog'.tools)
    (number : Number) (operation : Operation) :
    Block.told <$> (block profile catalog number operation).outcome =
      Block.told <$> (block profile catalog' number operation).outcome := by
  have found : Option.Rel Tool.SameValues (catalog.find? operation.toolId)
      (catalog'.find? operation.toolId) := findTool?_rel (fun tools => tools.id) same _
  generalize here : catalog.find? operation.toolId = tool at found
  generalize there : catalog'.find? operation.toolId = tool' at found
  cases found with
  | none => rw [block_of_missing here, block_of_missing there]
  | some own =>
      rw [told_block_of_found here, told_block_of_found there, depthWarning?_told own,
        operation.lines_congr own.name (Profile.tooling_of_cutsLike own.cutsLike)]

/-! ## Programs -/

def Program.output (program : Program) : List String × List String :=
  (program.lines, program.warnings.map Warning.message)

theorem Program.text_of_output {program program' : Program}
    (same : program.output = program'.output) : program.text = program'.text :=
  congrArg (fun output : List String × List String => joinLines output.1) same

theorem Program.output_ofBlocks (panel : Panel) (stamp : Timestamp)
    (blocks blocks' : List (Block × Option Warning))
    (same : blocks.map Block.told = blocks'.map Block.told) :
    (ofBlocks profile panel stamp blocks).output =
      (ofBlocks profile panel stamp blocks').output := by
  have texts (blocks : List (Block × Option Warning)) :
      (blocks.filterMap (·.2)).map Warning.message = (blocks.map Block.told).filterMap (·.2) := by
    rw [List.map_filterMap, List.filterMap_map]
    rfl
  have lines (blocks : List (Block × Option Warning)) :
      blocks.map (·.1) = (blocks.map Block.told).map (·.1) := by
    rw [List.map_map]
    rfl
  rw [output, output, ofBlocks, ofBlocks, texts, texts, lines blocks, lines blocks', same]
  rfl

theorem assemble_output (same : List.Forall₂ Tool.SameValues catalog.tools catalog'.tools)
    (panel : Panel) (operations : List Operation) (stamp : Timestamp) :
    Program.output <$> (assemble profile panel operations catalog stamp).outcome =
      Program.output <$> (assemble profile panel operations catalog' stamp).outcome := by
  have blocks (entry : Operation × Nat) :
      Block.told <$> (block profile catalog (.whole entry.2) entry.1).outcome =
        Block.told <$> (block profile catalog' (.whole entry.2) entry.1).outcome :=
    block_told same _ entry.1
  rw [assemble_outcome, assemble_outcome, ← comp_map, ← comp_map]
  refine map_congr (fun _ _ => Program.output_ofBlocks panel stamp _ _) ?_
  rw [map_mapM, map_mapM]
  exact congrArg (List.mapM · _) (funext blocks)

end Millwork
