import Millwork.Proofs.Machine.Overlay
import Millwork.Proofs.Number.Exact
import Millwork.Proofs.Tool.Lookup

namespace Millwork

open Attempt PositiveNumber

/-! ## Tools of the same values -/

namespace Tool

/-- The two tools agree field by field, numbers in their values. -/
structure SameValues (first second : Tool) : Prop where
  id : first.id = second.id
  kind : first.kind = second.kind
  diameter : first.diameter.SameValue second.diameter
  spindleSpeed : first.spindleSpeed.SameValue second.spindleSpeed
  feedRate : first.feedRate.SameValue second.feedRate
  plungeRate : Option.Rel PositiveNumber.SameValue first.plungeRate second.plungeRate
  maxDepth : Option.Rel PositiveNumber.SameValue first.maxDepth second.maxDepth
  name : first.name = second.name

structure IsExact (tool : Tool) : Prop where
  diameter : tool.diameter.val.IsExact
  spindleSpeed : tool.spindleSpeed.val.IsExact
  feedRate : tool.feedRate.val.IsExact
  plungeRate : ∀ rate, tool.plungeRate = some rate → rate.val.IsExact
  maxDepth : ∀ depth, tool.maxDepth = some depth → depth.val.IsExact

def ofExact (tool : Tool) (representable : tool.IsExact) : Tool :=
  { tool with
    diameter := tool.diameter.ofExact representable.diameter
    spindleSpeed := tool.spindleSpeed.ofExact representable.spindleSpeed
    feedRate := tool.feedRate.ofExact representable.feedRate
    plungeRate := tool.plungeRate.pmap PositiveNumber.ofExact representable.plungeRate
    maxDepth := tool.maxDepth.pmap PositiveNumber.ofExact representable.maxDepth }

end Tool

theorem PositiveNumber.sameValue_pmap (quantity : Option PositiveNumber)
    (representable : ∀ a, quantity = some a → a.val.IsExact) :
    Option.Rel SameValue (quantity.pmap ofExact representable) quantity := by
  cases quantity with
  | none => exact .none
  | some a => exact .some (a.value_ofExact (representable a rfl))

theorem Tool.sameValues_ofExact (tool : Tool) (representable : tool.IsExact) :
    (tool.ofExact representable).SameValues tool where
  id := rfl
  kind := rfl
  diameter := tool.diameter.value_ofExact representable.diameter
  spindleSpeed := tool.spindleSpeed.value_ofExact representable.spindleSpeed
  feedRate := tool.feedRate.value_ofExact representable.feedRate
  plungeRate := PositiveNumber.sameValue_pmap tool.plungeRate representable.plungeRate
  maxDepth := PositiveNumber.sameValue_pmap tool.maxDepth representable.maxDepth
  name := rfl

/-! ## Reading -/

namespace Part

variable {part : Part} {name : String}

theorem number?_of_number {a : PositiveNumber}
    (given : part.members.given? name = some (.number a.val)) :
    part.number? name = .ok (some a.toDouble) := by
  rw [number?, given]
  dsimp only [Json.double?]
  rw [Number.toDouble?_of_isFinite a.property.1]
  rfl

theorem number_of_number {a : PositiveNumber}
    (given : part.members.given? name = some (.number a.val)) :
    part.number name = .ok a.toDouble := by
  rw [number, number?_of_number given]
  rfl

theorem number?_of_optional {quantity : Option PositiveNumber}
    (member : part.members.get? name = some (Tool.optional quantity)) :
    part.number? name = .ok (quantity.map PositiveNumber.toDouble) := by
  cases quantity with
  | none => rw [number?, Json.Members.given?, member]; rfl
  | some a =>
      refine number?_of_number ?_
      rw [Json.Members.given?, member]
      rfl

end Part

section Drafts

variable {quantity : Quantity}

theorem PositiveNumber.positive?_toDouble (a : PositiveNumber) (representable : a.val.IsExact) :
    (Json.ofDouble a.toDouble).positive? quantity = .ok (a.ofExact representable) :=
  Json.positive?_number (a.ofExact representable)

theorem PositiveNumber.positiveOrNone?_toDouble (a : Option PositiveNumber)
    (representable : ∀ number, a = some number → number.val.IsExact) :
    (Json.ofDouble? (a.map toDouble)).positiveOrNone? quantity =
      .ok (a.pmap ofExact representable) := by
  cases a with
  | none => rfl
  | some a => exact congrArg (some <$> ·) (a.positive?_toDouble (representable a rfl))

theorem ToolKind.ofJson?_word (kind : ToolKind) :
    Choice.ofJson? (.text kind.word) = .ok kind := by
  cases kind <;> rfl

end Drafts

namespace Tool

def doubles (tool : Tool) : Draft where
  id := tool.id
  kind := .text tool.kind.word
  diameter := .ofDouble tool.diameter.toDouble
  spindleSpeed := .ofDouble tool.spindleSpeed.toDouble
  feedRate := .ofDouble tool.feedRate.toDouble
  plungeRate := .ofDouble? (tool.plungeRate.map PositiveNumber.toDouble)
  maxDepth := .ofDouble? (tool.maxDepth.map PositiveNumber.toDouble)
  name := tool.name

theorem ofDraft_doubles (tool : Tool) (representable : tool.IsExact) :
    ofDraft tool.doubles = .ok (tool.ofExact representable) := by
  have named : (if tool.name = "" then tool.id else tool.name) = tool.name :=
    if_neg tool.name_ne
  rw [ofDraft, doubles, dif_pos tool.id_ne]
  refine bind_eq_ok.mpr ⟨tool.kind, mapError_eq_ok.mpr tool.kind.ofJson?_word, ?_⟩
  refine bind_eq_ok.mpr ⟨_, tool.diameter.positive?_toDouble representable.diameter, ?_⟩
  refine bind_eq_ok.mpr ⟨_, tool.spindleSpeed.positive?_toDouble representable.spindleSpeed, ?_⟩
  refine bind_eq_ok.mpr ⟨_, tool.feedRate.positive?_toDouble representable.feedRate, ?_⟩
  refine bind_eq_ok.mpr ⟨_, PositiveNumber.positiveOrNone?_toDouble _ representable.plungeRate, ?_⟩
  refine bind_eq_ok.mpr ⟨_, PositiveNumber.positiveOrNone?_toDouble _ representable.maxDepth, ?_⟩
  simp only [pure_eq_ok, ofExact, named]

theorem ofJson_toMembers (tool : Tool) (representable : tool.IsExact) (index : Int) :
    Tool.ofJson index (.object tool.toMembers) = .ok (tool.ofExact representable) := by
  refine mapError_eq_ok.mpr ?_
  refine bind_eq_ok.mpr ⟨tool.id, rfl, ?_⟩
  refine bind_eq_ok.mpr ⟨tool.kind.word, rfl, ?_⟩
  refine bind_eq_ok.mpr ⟨tool.diameter.toDouble, Part.number_of_number rfl, ?_⟩
  refine bind_eq_ok.mpr ⟨tool.spindleSpeed.toDouble, Part.number_of_number rfl, ?_⟩
  refine bind_eq_ok.mpr ⟨tool.feedRate.toDouble, Part.number_of_number rfl, ?_⟩
  refine bind_eq_ok.mpr ⟨_, Part.number?_of_optional rfl, ?_⟩
  refine bind_eq_ok.mpr ⟨_, Part.number?_of_optional rfl, ?_⟩
  exact tool.ofDraft_doubles representable

theorem listOfJson_toMembers {tools : List Tool} (representable : ∀ tool ∈ tools, tool.IsExact) :
    ∃ read, listOfJson (tools.map fun tool => .object tool.toMembers) = .ok read ∧
      List.Forall₂ SameValues read tools := by
  -- The index of a tool is for faults only, so it may be any.
  suffices each : ∀ first, ∃ read,
      ((tools.map fun tool => Json.object tool.toMembers).zipIdx first).mapM
          (fun entry => Tool.ofJson entry.2 entry.1) = .ok read ∧
        List.Forall₂ SameValues read tools from each 0
  induction tools with
  | nil => exact fun _ => ⟨[], rfl, .nil⟩
  | cons tool tools ih =>
      intro first
      obtain ⟨here, rest⟩ := List.forall_mem_cons.mp representable
      obtain ⟨read, made, same⟩ := ih rest (first + 1)
      refine ⟨tool.ofExact here :: read, ?_, .cons (tool.sameValues_ofExact here) same⟩
      rw [List.map_cons, List.zipIdx_cons, List.mapM_cons, tool.ofJson_toMembers here, made]
      rfl

end Tool

/-! ## Catalogs -/

namespace Catalog

def listing (catalog : Catalog) : Json :=
  .list (catalog.tools.map fun tool => .object tool.toMembers)

theorem ofTools?_of_distinct {tools : List Tool} (distinct : (tools.map Tool.id).Nodup) :
    ofTools? tools = .ok ⟨tools, distinct⟩ := by
  rcases ofTools?_cases tools with ⟨id, -, refused⟩ | ⟨-, _, made⟩
  · obtain ⟨catalog, made⟩ := (ofTools?_isOk_iff tools).mpr distinct
    cases refused.symm.trans made
  · exact made

theorem distinct_of_sameValues {tools : List Tool} {catalog : Catalog}
    (same : List.Forall₂ Tool.SameValues tools catalog.tools) : (tools.map Tool.id).Nodup := by
  have ids : tools.map Tool.id = catalog.tools.map Tool.id := by
    rw [← List.forall₂_eq_eq_eq, List.forall₂_map_left_iff, List.forall₂_map_right_iff]
    exact same.imp fun _ _ tools => tools.id
  rw [ids]
  exact catalog.distinct

theorem read_listing {catalog : Catalog} (representable : ∀ tool ∈ catalog.tools, tool.IsExact)
    {members : Json.Members} (given : members.given? "tools" = some catalog.listing) :
    ∃ read, Job.catalog? members = .ok read ∧
      List.Forall₂ Tool.SameValues read.tools catalog.tools := by
  obtain ⟨tools, read, same⟩ := Tool.listOfJson_toMembers representable
  have distinct := distinct_of_sameValues same
  refine ⟨⟨tools, distinct⟩, ?_, same⟩
  rw [Job.catalog?, given]
  refine bind_eq_ok.mpr ⟨tools, read, ?_⟩
  rw [ofTools?_of_distinct distinct]
  rfl

theorem isExact_standard : ∀ tool ∈ standard.tools, tool.IsExact := by
  have missing : ∀ a : PositiveNumber, none = some a → a.val.IsExact := by simp
  have given {a : PositiveNumber} (own : a.val.IsExact) :
      ∀ b, some a = some b → b.val.IsExact := fun _ same => Option.some.inj same ▸ own
  simp only [standard, List.forall_mem_cons]
  refine ⟨?_, ?_, ?_, ?_, List.forall_mem_nil _⟩
  · exact ⟨isExact_whole 5, isExact_whole 18000, isExact_whole 900, missing, missing⟩
  · exact ⟨isExact_whole 8, isExact_whole 16000, isExact_whole 800, missing, missing⟩
  · exact ⟨isExact_whole 6, isExact_whole 16000, isExact_whole 800,
      given (isExact_whole 300), given (isExact_whole 20)⟩
  · exact ⟨isExact_whole 12, isExact_whole 14000, isExact_whole 700,
      given (isExact_whole 250), given (isExact_whole 30)⟩

end Catalog

end Millwork
