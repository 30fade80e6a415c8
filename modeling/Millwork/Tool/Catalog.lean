import Millwork.Tool.Basic

namespace Millwork

def findTool? (tools : List Tool) (id : String) : Option Tool := tools.find? (·.id == id)

structure Catalog where
  tools : List Tool
  distinct : (tools.map Tool.id).Nodup

namespace Catalog

def empty : Catalog := ⟨[], List.nodup_nil⟩

def find? (catalog : Catalog) (id : String) : Option Tool := findTool? catalog.tools id

def repeated? : (seen : List String) → List Tool → Option String
  | _, [] => none
  | seen, tool :: tools =>
    if tool.id ∈ seen then some tool.id else repeated? (tool.id :: seen) tools

theorem repeated?_eq_none_iff (seen : List String) (tools : List Tool) :
    repeated? seen tools = none ↔
      (tools.map Tool.id).Nodup ∧ ∀ tool ∈ tools, tool.id ∉ seen := by
  induction tools generalizing seen with
  | nil => simp [repeated?]
  | cons tool tools ih =>
    by_cases here : tool.id ∈ seen
    · simp [repeated?, here]
    · simp only [repeated?, here, if_false, ih, List.map_cons, List.nodup_cons, List.mem_cons,
        not_or, List.mem_map, forall_eq_or_imp, not_false_eq_true, true_and]
      constructor
      · rintro ⟨apart, unseen⟩
        refine ⟨⟨?_, apart⟩, fun other mem => (unseen other mem).2⟩
        rintro ⟨other, mem, same⟩
        exact (unseen other mem).1 same
      · rintro ⟨⟨fresh, apart⟩, unseen⟩
        exact ⟨apart, fun other mem => ⟨fun same => fresh ⟨other, mem, same⟩, unseen other mem⟩⟩

def ofTools? (tools : List Tool) : Except Refusal Catalog :=
  match found : repeated? [] tools with
  | some id => .error (.duplicateTool id)
  | none => .ok ⟨tools, ((repeated?_eq_none_iff [] tools).1 found).1⟩

theorem ofTools?_isOk_iff (tools : List Tool) :
    (∃ catalog, ofTools? tools = .ok catalog) ↔ (tools.map Tool.id).Nodup := by
  have none_iff := repeated?_eq_none_iff [] tools
  simp only [List.not_mem_nil, not_false_eq_true, implies_true, and_true] at none_iff
  rw [← none_iff]
  unfold ofTools?
  split
  · rename_i id found
    simp [found]
  · rename_i found
    simp [found]

/-- The catalog of a job that brings no tools. -/
def standard : Catalog where
  tools :=
    [{ id := "drill_5mm", name := "Drill 5mm", kind := .drillBit
       diameter := .whole 5, spindleSpeed := .whole 18000
       feedRate := .whole 900, plungeRate := none, maxDepth := none
       id_ne := by decide, name_ne := by decide },
     { id := "drill_8mm", name := "Drill 8mm", kind := .drillBit
       diameter := .whole 8, spindleSpeed := .whole 16000
       feedRate := .whole 800, plungeRate := none, maxDepth := none
       id_ne := by decide, name_ne := by decide },
     { id := "mill_6mm", name := "Straight bit 6mm", kind := .millingBit
       diameter := .whole 6, spindleSpeed := .whole 16000
       feedRate := .whole 800, plungeRate := some (.whole 300)
       maxDepth := some (.whole 20)
       id_ne := by decide, name_ne := by decide },
     { id := "mill_12mm", name := "Straight bit 12mm", kind := .millingBit
       diameter := .whole 12, spindleSpeed := .whole 14000
       feedRate := .whole 700, plungeRate := some (.whole 250)
       maxDepth := some (.whole 30)
       id_ne := by decide, name_ne := by decide }]
  distinct := by decide +kernel

end Catalog

end Millwork
