import Millwork.Job.Basic
import Millwork.Proofs.Program.Assembly

namespace Millwork

namespace Catalog

theorem ofTools?_cases (tools : List Tool) :
    (∃ id, repeated? [] tools = some id ∧ ofTools? tools = .error (.duplicateTool id)) ∨
      repeated? [] tools = none ∧ ∃ distinct, ofTools? tools = .ok ⟨tools, distinct⟩ := by
  rw [ofTools?]
  split
  · rename_i id found
    exact .inl ⟨id, found, rfl⟩
  · rename_i found
    exact .inr ⟨found, ((repeated?_eq_none_iff [] tools).mp found).1, rfl⟩

end Catalog

/-! ## An index -/

abbrev Index := List (String × Tool)

namespace Index

def add? (index : Index) (tool : Tool) : Except Refusal Index :=
  if (index.lookup tool.id).isSome then .error (.duplicateTool tool.id)
  else .ok (index ++ [(tool.id, tool)])

def ofTools? (tools : List Tool) : Except Refusal Index := tools.foldlM add? []

def entries (tools : List Tool) : Index := tools.map fun tool => (tool.id, tool)

theorem lookup_entries (tools : List Tool) (id : String) :
    (entries tools).lookup id = findTool? tools id := by
  induction tools with
  | nil => rfl
  | cons tool tools ih =>
      rw [entries, List.map_cons, List.lookup_cons, findTool?, List.find?_cons, BEq.comm]
      cases tool.id == id with
      | true => rfl
      | false => exact ih

theorem isSome_lookup_entries (tools : List Tool) (id : String) :
    ((entries tools).lookup id).isSome = true ↔ id ∈ tools.map Tool.id := by
  rw [lookup_entries, findTool?, List.find?_isSome, List.mem_map]
  simp only [beq_iff_eq]

theorem add?_entries (seen : List Tool) (tool : Tool) :
    add? (entries seen) tool =
      if tool.id ∈ seen.map Tool.id then .error (.duplicateTool tool.id)
      else .ok (entries (seen ++ [tool])) := by
  have extended : entries (seen ++ [tool]) = entries seen ++ [(tool.id, tool)] := List.map_append
  rw [add?, extended]
  simp only [isSome_lookup_entries]

theorem foldlM_add? (tools seen : List Tool) {ids : List String}
    (same : ∀ id, id ∈ ids ↔ id ∈ seen.map Tool.id) :
    tools.foldlM add? (entries seen) =
      match Catalog.repeated? ids tools with
      | some id => .error (.duplicateTool id)
      | none => .ok (entries (seen ++ tools)) := by
  induction tools generalizing seen ids with
  | nil =>
      rw [List.append_nil]
      rfl
  | cons tool tools ih =>
      rw [List.foldlM_cons, add?_entries, Catalog.repeated?]
      simp only [same tool.id]
      split
      · rfl
      · have next : ∀ id, id ∈ tool.id :: ids ↔ id ∈ (seen ++ [tool]).map Tool.id := by
          intro id
          rw [List.map_append, List.mem_append, List.mem_cons, same id, or_comm]
          simp
        rw [Attempt.ok_bind, ih (seen ++ [tool]) next, List.append_assoc, List.singleton_append]

theorem ofTools?_eq (tools : List Tool) :
    ofTools? tools = (fun catalog => entries catalog.tools) <$> Catalog.ofTools? tools := by
  have none_seen : ∀ id, id ∈ ([] : List String) ↔ id ∈ ([] : List Tool).map Tool.id :=
    fun _ => Iff.rfl
  have run : ofTools? tools = _ := foldlM_add? tools [] none_seen
  rcases Catalog.ofTools?_cases tools with ⟨id, found, refused⟩ | ⟨fresh, distinct, made⟩
  · rw [run, refused, found]
    rfl
  · rw [run, made, fresh]
    rfl

end Index

/-! ## Distinct identifiers -/

def SharesId (tools : List Tool) : Prop :=
  ∃ (i j : Nat) (_ : i < tools.length) (_ : j < tools.length),
    i < j ∧ tools[i].id = tools[j].id

theorem sharesId_iff {tools : List Tool} : SharesId tools ↔ ¬ (tools.map Tool.id).Nodup := by
  rw [List.Nodup, List.pairwise_map, List.pairwise_iff_getElem]
  simp only [SharesId, not_forall, not_not, exists_prop]

theorem Index.ofTools?_isOk_iff {tools : List Tool} :
    (∃ index, ofTools? tools = .ok index) ↔ (tools.map Tool.id).Nodup := by
  rw [ofTools?_eq, ← Catalog.ofTools?_isOk_iff]
  simp [Attempt.map_eq_ok]

theorem findTool?_eq_some_iff {tools : List Tool} (distinct : (tools.map Tool.id).Nodup)
    {id : String} {tool : Tool} :
    findTool? tools id = some tool ↔ tool ∈ tools ∧ tool.id = id := by
  induction tools with
  | nil => simp [findTool?]
  | cons first tools ih =>
      rw [List.map_cons, List.nodup_cons] at distinct
      rw [findTool?, List.find?_cons, List.mem_cons]
      by_cases here : first.id = id
      · rw [beq_iff_eq.mpr here]
        constructor
        · rintro ⟨⟩
          exact ⟨.inl rfl, here⟩
        · rintro ⟨rfl | mem, same⟩
          · rfl
          · -- Another tool of that identifier would repeat the first.
            exact absurd (here.trans same.symm ▸ List.mem_map_of_mem mem) distinct.1
      · rw [beq_false_of_ne here]
        refine (ih distinct.2).trans ⟨?_, ?_⟩
        · rintro ⟨mem, same⟩
          exact ⟨.inr mem, same⟩
        · rintro ⟨rfl | mem, same⟩
          · exact absurd same here
          · exact ⟨mem, same⟩

theorem findTool?_congr {tools others : List Tool} (distinct : (tools.map Tool.id).Nodup)
    (distinct' : (others.map Tool.id).Nodup) {id : String}
    (same : ∀ tool, tool.id = id → (tool ∈ others ↔ tool ∈ tools)) :
    findTool? others id = findTool? tools id := by
  refine Option.ext fun tool => ?_
  rw [findTool?_eq_some_iff distinct, findTool?_eq_some_iff distinct']
  exact and_congr_left (same tool)

theorem findTool?_perm {tools permuted : List Tool} (distinct : (tools.map Tool.id).Nodup)
    (perm : tools.Perm permuted) (id : String) :
    findTool? permuted id = findTool? tools id :=
  findTool?_congr distinct ((perm.map Tool.id).nodup_iff.mp distinct)
    fun _ _ => perm.mem_iff.symm

/-! ## Programs -/

section Generate

variable (profile : Profile) (panel : Panel) (operations : List Operation) (stamp : Timestamp)

def generate (tools : List Tool) : Traced Program := do
  let catalog ← (Catalog.ofTools? tools : Attempt _)
  assemble profile panel operations catalog stamp

variable {profile panel operations stamp}

theorem generate_of_distinct {tools : List Tool} (distinct : (tools.map Tool.id).Nodup) :
    generate profile panel operations stamp tools =
      assemble profile panel operations ⟨tools, distinct⟩ stamp := by
  obtain ⟨catalog, made⟩ := (Catalog.ofTools?_isOk_iff tools).mpr distinct
  rcases Catalog.ofTools?_cases tools with ⟨id, -, refused⟩ | ⟨-, _, made⟩
  · cases made.symm.trans refused
  · rw [generate, made]
    exact pure_bind _ _

theorem block_of_find? {catalog catalog' : Catalog} {operation : Operation}
    (same : catalog.find? operation.toolId = catalog'.find? operation.toolId) (number : Number) :
    block profile catalog number operation = block profile catalog' number operation := by
  rw [block, block, same]

theorem generate_congr {tools others : List Tool} (distinct : (tools.map Tool.id).Nodup)
    (distinct' : (others.map Tool.id).Nodup)
    (same : ∀ tool, (tool ∈ others ↔ tool ∈ tools) ∨ tool.id ∉ operations.map Operation.toolId) :
    generate profile panel operations stamp others =
      generate profile panel operations stamp tools := by
  rw [generate_of_distinct distinct, generate_of_distinct distinct']
  refine assemble_congr fun operation mem number => block_of_find? ?_ number
  refine findTool?_congr distinct distinct' fun tool named => (same tool).resolve_right ?_
  exact not_not.mpr (named ▸ List.mem_map_of_mem mem)

theorem Job.program_eq_generate (job : Job) (stamp : Timestamp) : job.program stamp =
    generate job.profile job.panel job.operations stamp job.catalog.tools :=
  (generate_of_distinct job.catalog.distinct).symm

end Generate

/-! ## One list of tools -/

namespace Index

/-- The index answers as the tools do in whatever order. So neither the program of some tools nor
that of a job depends on that order or on tools that no operation refers to. -/
structure Settles (index : Index) (tools : List Tool) : Prop where
  lookup : ∀ id, index.lookup id = findTool? tools id
  order : ∀ permuted, tools.Perm permuted →
    (∀ id, findTool? permuted id = findTool? tools id) ∧
      ∃ index', ofTools? permuted = .ok index' ∧ ∀ id, index'.lookup id = index.lookup id
  reordered : ∀ profile panel operations stamp permuted, tools.Perm permuted →
    generate profile panel operations stamp permuted =
      generate profile panel operations stamp tools
  unreferenced : ∀ profile panel operations stamp others, ¬ SharesId others →
    (∀ tool, (tool ∈ others ↔ tool ∈ tools) ∨ tool.id ∉ operations.map Operation.toolId) →
    generate profile panel operations stamp others =
      generate profile panel operations stamp tools
  jobs : ∀ (job : Job) (catalog : Catalog) stamp, job.catalog.tools = tools →
    (∀ tool, (tool ∈ catalog.tools ↔ tool ∈ tools) ∨
      tool.id ∉ job.operations.map Operation.toolId) →
    ({ job with catalog } : Job).program stamp = job.program stamp

theorem ofTools?_ok {tools : List Tool} {index : Index} (made : ofTools? tools = .ok index) :
    (tools.map Tool.id).Nodup ∧ index = entries tools := by
  rw [ofTools?_eq] at made
  obtain ⟨catalog, settled, same⟩ := Attempt.map_eq_ok.mp made
  rcases Catalog.ofTools?_cases tools with ⟨id, -, refused⟩ | ⟨-, distinct, made⟩
  · cases settled.symm.trans refused
  · cases settled.symm.trans made
    exact ⟨distinct, same.symm⟩

theorem settles {tools : List Tool} {index : Index} (made : ofTools? tools = .ok index) :
    index.Settles tools := by
  obtain ⟨distinct, rfl⟩ := ofTools?_ok made
  have permutes {permuted : List Tool} (perm : tools.Perm permuted) :
      (permuted.map Tool.id).Nodup := (perm.map Tool.id).nodup_iff.mp distinct
  constructor
  case lookup => exact lookup_entries tools
  case order =>
    intro permuted perm
    have found := findTool?_perm distinct perm
    obtain ⟨index', made'⟩ := ofTools?_isOk_iff.mpr (permutes perm)
    refine ⟨found, index', made', fun id => ?_⟩
    rw [(ofTools?_ok made').2, lookup_entries, lookup_entries, found]
  case reordered =>
    intro profile panel operations stamp permuted perm
    exact generate_congr distinct (permutes perm) fun tool => .inl perm.mem_iff.symm
  case unreferenced =>
    intro profile panel operations stamp others apart same
    exact generate_congr distinct (not_not.mp (sharesId_iff.not.mp apart)) same
  case jobs =>
    rintro job catalog stamp rfl same
    rw [Job.program_eq_generate, Job.program_eq_generate]
    exact generate_congr job.catalog.distinct catalog.distinct same

theorem lookup_settled (tools : List Tool) :
    ofTools? tools = (fun catalog => entries catalog.tools) <$> Catalog.ofTools? tools ∧
      ((∃ refusal, ofTools? tools = .error refusal) ↔ SharesId tools) ∧
      (∀ refusal, ofTools? tools = .error refusal → refusal.subject = .tool) ∧
      ∀ index, ofTools? tools = .ok index → index.Settles tools := by
  refine ⟨ofTools?_eq tools, ?_, ?_, fun index => settles⟩
  · rw [sharesId_iff, ← ofTools?_isOk_iff]
    cases ofTools? tools <;> simp
  · intro refusal refused
    rw [ofTools?_eq] at refused
    rcases Catalog.ofTools?_cases tools with ⟨id, -, made⟩ | ⟨-, _, made⟩
    · rw [made] at refused
      cases refused
      rfl
    · rw [made] at refused
      cases refused

end Index

/-- The standard tools in another order, only those that are referred to, and each of them twice. -/
theorem Index.lookup_settled_of_sample :
    let tools := Catalog.standard.tools
    let operations := Sample.operations none
    let referred := tools.filter (·.id ∈ operations.map Operation.toolId)
    let program := generate .standard (Sample.panel "Shelf") operations Sample.stamp
    (∃ index, ofTools? tools = .ok index ∧ index.lookup "mill_6mm" = findTool? tools "mill_6mm" ∧
      findTool? tools.reverse "mill_6mm" = findTool? tools "mill_6mm" ∧
      program tools.reverse = program tools ∧
      program referred = program tools) ∧
      SharesId (tools ++ tools) ∧
      ∃ refusal, ofTools? (tools ++ tools) = .error refusal ∧ refusal.subject = .tool := by
  intro tools operations referred program
  obtain ⟨index, made⟩ := Attempt.exists_ok (x := ofTools? tools) (by decide +kernel)
  have settled := (lookup_settled tools).2.2.2 index made
  have reversed : tools.Perm tools.reverse := (List.reverse_perm tools).symm
  have apart : ¬ SharesId referred :=
    sharesId_iff.not.mpr (not_not.mpr (by decide +kernel))
  have shares : SharesId (tools ++ tools) := sharesId_iff.mpr (by decide +kernel)
  obtain ⟨refusal, refused⟩ := (lookup_settled (tools ++ tools)).2.1.mpr shares
  refine ⟨⟨index, made, settled.lookup _, (settled.order _ reversed).1 _, ?_, ?_⟩, shares,
    refusal, refused, (lookup_settled _).2.2.1 refusal refused⟩
  · exact settled.reordered _ _ _ _ _ reversed
  · refine settled.unreferenced _ _ _ _ _ apart fun tool => ?_
    by_cases used : tool.id ∈ operations.map Operation.toolId
    · exact .inl (by simp only [referred, List.mem_filter, used, decide_true, and_true])
    · exact .inr used

end Millwork
