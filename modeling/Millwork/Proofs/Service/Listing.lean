import Millwork.Proofs.Program.ToolValues
import Millwork.Proofs.Service.Agreement

namespace Millwork

open Attempt

/-! ## Jobs -/

def Json.Members.withTools (members : Members) : Json :=
  .object (members.set "tools" Catalog.standard.listing)

namespace Job

/-- The two jobs agree but for the numbers of their tools, which agree in their values. -/
structure SameValues (first second : Job) : Prop where
  panel : first.panel = second.panel
  operations : first.operations = second.operations
  tools : List.Forall₂ Tool.SameValues first.catalog.tools second.catalog.tools
  profile : first.profile = second.profile

theorem program_output {first second : Job} (same : first.SameValues second) (stamp : Timestamp) :
    Program.output <$> (first.program stamp).outcome =
      Program.output <$> (second.program stamp).outcome := by
  rw [program, program, same.panel, same.operations, same.profile]
  exact assemble_output same.tools second.panel second.operations stamp

variable {members : Json.Members} {default : Profile} {catalog catalog' : Catalog}

def readWith (catalog : Catalog) (members : Json.Members) (default : Profile) : Attempt Job := do
  let panel ← Panel.ofJson (.ofOption (members.get? "panel"))
  let operations ← operations? members
  let profile ← (profile? members default).outcome
  return ⟨panel, operations, catalog, profile⟩

theorem ofJson_of_catalog (read : catalog? members = .ok catalog) :
    (ofJson (.object members) default).outcome = readWith catalog members default := by
  simp only [ofJson, Traced.outcome_bind, Traced.outcome_lift, Traced.outcome_pure, read, ok_bind]
  rfl

theorem readWith_set (tools : Json) :
    readWith catalog (members.set "tools" tools) default = readWith catalog members default := by
  have other {name : String} (apart : "tools" ≠ name) :
      (members.set "tools" tools).get? name = members.get? name := by
    rw [Json.Members.get?_set, if_neg apart]
  rw [readWith, readWith, operations?, operations?, profile?, profile?, Json.Members.given?,
    Json.Members.given?, other (by decide), other (by decide), other (by decide)]

section Steps

variable {α : Type} {next : Job → Attempt α}
  (same : ∀ first second : Job, first.SameValues second → next first = next second)
include same

theorem readWith_bind_congr (values : List.Forall₂ Tool.SameValues catalog.tools catalog'.tools) :
    readWith catalog members default >>= next = readWith catalog' members default >>= next := by
  have step (panel : Panel) (operations : List Operation) (profile : Profile) :
      next ⟨panel, operations, catalog, profile⟩ = next ⟨panel, operations, catalog', profile⟩ :=
    same _ _ ⟨rfl, rfl, values, rfl⟩
  simp only [readWith, bind_assoc, pure_bind, step]

theorem bind_listed (missing : members.given? "tools" = none) :
    (ofJson members.withTools default).outcome >>= next =
      (ofJson (.object members) default).outcome >>= next := by
  have given : (members.set "tools" Catalog.standard.listing).given? "tools" =
      some Catalog.standard.listing := by
    rw [Json.Members.given?, Json.Members.get?_set, if_pos rfl]
    rfl
  have standard : catalog? members = .ok .standard := by
    rw [catalog?, missing]
    rfl
  obtain ⟨catalog, read, values⟩ := Catalog.read_listing Catalog.isExact_standard given
  rw [Json.Members.withTools, ofJson_of_catalog read, ofJson_of_catalog standard, readWith_set]
  exact readWith_bind_congr same values

end Steps

def output (given : Json) (default : Profile) (stamp : Timestamp) :
    Attempt (String × List String) := do
  let job ← (ofJson given default).outcome
  let program ← (job.program stamp).outcome
  return (program.text, program.warnings.map Warning.message)

theorem output_listed (missing : members.given? "tools" = none) (stamp : Timestamp) :
    output members.withTools default stamp =
      output (.object members) default stamp := by
  refine bind_listed (fun first second same => ?_) missing
  rw [← map_eq_pure_bind, ← map_eq_pure_bind]
  refine map_congr (fun program program' alike => ?_) (program_output same stamp)
  exact Prod.ext (Program.text_of_output alike) (Prod.mk.inj alike).2

end Job

/-! ## Replies -/

namespace Api

theorem remarks_congr {first second : Job} (same : first.SameValues second) :
    remarks first = remarks second := by
  have missing (id : String) :
      (first.catalog.find? id).isNone = (second.catalog.find? id).isNone := by
    have found : Option.Rel Tool.SameValues (first.catalog.find? id) (second.catalog.find? id) :=
      findTool?_rel (fun tools => tools.id) same.tools id
    generalize first.catalog.find? id = tool at found ⊢
    generalize second.catalog.find? id = tool' at found ⊢
    cases found <;> rfl
  rw [remarks_eq, remarks_eq, same.operations]
  simp only [missing]

theorem reply_congr {α : Type} {x y : Attempt α} {done : α → Reply} (told : String → Reply)
    (same : done <$> x = done <$> y) : reply x told done = reply y told done := by
  cases x with
  | error fault =>
      cases y with
      | error fault' =>
          cases same
          rfl
      | ok b => cases same
  | ok a =>
      cases y with
      | error fault' => cases same
      | ok b => exact Except.ok.inj same

variable {α : Type} {members : Json.Members} (missing : members.given? "tools" = none)
  (settings : Json.Members)
include missing

theorem job_bind_listed {next : Job → Attempt α}
    (same : ∀ first second : Job, first.SameValues second → next first = next second) :
    job settings members.withTools >>= next =
      job settings (.object members) >>= next := by
  rw [job, job, Traced.outcome_bind, Traced.outcome_bind, bind_assoc, bind_assoc]
  exact congrArg (_ >>= ·) (funext fun default => Job.bind_listed same missing)

theorem compiled_listed {done : Job × Program → α}
    (coarser : ∀ (first second : Job) (program program' : Program), first.panel = second.panel →
      program.output = program'.output → done (first, program) = done (second, program'))
    (stamp : Timestamp) :
    done <$> compiled settings members.withTools stamp =
      done <$> compiled settings (.object members) stamp := by
  simp only [compiled, map_bind, bind_pure_comp]
  refine job_bind_listed missing settings fun first second same => ?_
  have own : done ∘ Prod.mk first = done ∘ Prod.mk second :=
    funext fun program => coarser first second program program same.panel rfl
  rw [← comp_map, ← comp_map, own]
  exact map_congr (fun program program' => coarser second second program program' rfl)
    (Job.program_output same stamp)

theorem validate_listed :
    validate settings members.withTools =
      validate settings (.object members) := by
  refine reply_congr _ ?_
  rw [map_eq_pure_bind, map_eq_pure_bind]
  refine job_bind_listed missing settings fun first second same => ?_
  rw [remarks_congr same]

theorem generate_listed (stamp : Timestamp) :
    generate settings members.withTools stamp =
      generate settings (.object members) stamp := by
  refine reply_congr _ (compiled_listed missing settings (fun _ _ first second _ same => ?_) stamp)
  have texts (program : Program) :
      (program.warnings.map fun warning => Json.text warning.message) =
        program.output.2.map .text := List.map_map.symm
  have lines : first.lines = second.lines := congrArg Prod.fst same
  dsimp only
  rw [texts, texts, same, lines, Program.text_of_output same]

theorem download_listed (stamp : Timestamp) :
    download settings members.withTools stamp =
      download settings (.object members) stamp := by
  refine reply_congr _ (compiled_listed missing settings (fun _ _ _ _ panel same => ?_) stamp)
  dsimp only
  rw [panel, Program.text_of_output same]

end Api

/-! ## The list of the service -/

/-- A tool of exact numbers is read as it was written, whatever its place. So a job without tools
that is given the list of the service is turned down for what it was turned down for, if at all, and
has the same program, the same warnings and the same replies. -/
theorem tools_listed :
    (∀ (tool : Tool) (index : Int), tool.IsExact →
      ∃ read, Tool.ofJson index (.object tool.toMembers) = .ok read ∧ read.SameValues tool) ∧
    ∀ (members : Json.Members) (tools : Json), members.given? "tools" = none →
      Api.tools = .success (some (.object [("tools", tools)])) none →
      let listed := Json.object (members.set "tools" tools)
      (∀ default fault, (Job.ofJson listed default).outcome = .error fault ↔
        (Job.ofJson (.object members) default).outcome = .error fault) ∧
      (∀ default stamp,
        Job.output listed default stamp = Job.output (.object members) default stamp) ∧
      ∀ settings stamp,
        Api.validate settings listed = Api.validate settings (.object members) ∧
        Api.generate settings listed stamp = Api.generate settings (.object members) stamp ∧
        Api.download settings listed stamp = Api.download settings (.object members) stamp := by
  refine ⟨fun tool index representable =>
    ⟨_, tool.ofJson_toMembers representable index, tool.sameValues_ofExact representable⟩, ?_⟩
  intro members tools missing served listed
  obtain rfl : Catalog.standard.listing = tools := by
    cases served
    rfl
  refine ⟨fun default fault => ?_, fun default stamp => Job.output_listed missing stamp,
    fun settings stamp => ⟨Api.validate_listed missing settings,
      Api.generate_listed missing settings stamp, Api.download_listed missing settings stamp⟩⟩
  have read : (fun _ => ()) <$> (Job.ofJson listed default).outcome =
      (fun _ => ()) <$> (Job.ofJson (.object members) default).outcome := by
    rw [map_eq_pure_bind, map_eq_pure_bind]
    exact Job.bind_listed (fun _ _ _ => rfl) missing
  rw [← map_eq_error, read, map_eq_error]

/-- A contour that is deeper than its tool may cut: the bound is a whole number in the one job and a
double in the other. -/
theorem tools_listed_of_sample :
    (∃ tool read, tool ∈ Catalog.standard.tools ∧
      Tool.ofJson 0 (.object tool.toMembers) = .ok read ∧ read.SameValues tool) ∧
    ∃ (members : Json.Members) (text warning : String),
      Sample.payload (.ofInt 25) (.ofInt 10) = .object members ∧
      Job.output (.object members) .standard Sample.stamp = .ok (text, [warning]) ∧
      Job.output (.object (members.set "tools" Catalog.standard.listing)) .standard Sample.stamp =
        .ok (text, [warning]) := by
  let tool := Catalog.standard.tools.get ⟨2, by decide⟩
  have mem : tool ∈ Catalog.standard.tools := List.get_mem _ _
  obtain ⟨read, made, same⟩ := tools_listed.1 tool 0 (Catalog.isExact_standard tool mem)
  obtain ⟨members, payload, missing⟩ : ∃ members : Json.Members,
      Sample.payload (.ofInt 25) (.ofInt 10) = .object members ∧
        members.given? "tools" = none := ⟨_, rfl, rfl⟩
  obtain ⟨⟨text, warnings⟩, own⟩ := Attempt.exists_ok
    (x := Job.output (Sample.payload (.ofInt 25) (.ofInt 10)) .standard Sample.stamp)
    (by decide +kernel)
  have one : (Job.output (Sample.payload (.ofInt 25) (.ofInt 10)) .standard
      Sample.stamp).toOption.map (·.2.length) = some 1 := by decide +kernel
  rw [own] at one
  obtain ⟨warning, rfl⟩ := List.length_eq_one_iff.mp (Option.some.inj one)
  rw [payload] at own
  have listed := (tools_listed.2 members _ missing rfl).2.1 .standard Sample.stamp
  exact ⟨⟨tool, read, mem, made, same⟩, members, text, warning, payload, own, listed.trans own⟩

end Millwork
