import Millwork.Proofs.Job.Oversize
import Millwork.Proofs.Machine.Merge

/-!
# Truth values where numbers are due

Yes and no are no numbers of a job: an operation, a tool or a panel that gives one for a number is
not read. Two readers take them all the same, for one and zero: that of a point written as a list,
and that of the numbers of a machine.

* `Operation.ofJson_rejected`, `Tool.ofJson_rejected`, `Panel.ofJson_rejected`: what is not read.
* `Slot.point_object_ok`: the two spellings of a point.
* `Operation.ofJson_asNumbers`, `Profile.ofMembers_asNumber`: what is read as if it held numbers.
* `truths_settled`: all of it.
-/

namespace Millwork

open Attempt

/-! ## Values and members -/

namespace Json

def IsTruth (value : Json) : Prop := ∃ yes, value = .bool yes

def asNumber : Json → Json
  | .bool yes => .number (.whole (if yes then 1 else 0))
  | value => value

def Members.HoldsTruth (members : Members) (name : String) : Prop :=
  ∃ yes, members.get? name = some (.bool yes)

def Members.mapAt (members : Members) (names : List String) (change : Json → Json) : Members :=
  members.map fun member => if member.1 ∈ names then (member.1, change member.2) else member

theorem Members.get?_mapAt (members : Members) (names : List String) (change : Json → Json)
    (name : String) : (members.mapAt names change).get? name =
      if name ∈ names then (members.get? name).map change else members.get? name := by
  induction members with
  | nil => simp [mapAt, get?]
  | cons member members ih =>
      rw [mapAt] at ih
      rw [mapAt, List.map_cons, get?_cons, get?_cons, ih]
      by_cases here : member.1 = name
      · subst here
        split <;> simp
      · by_cases among : member.1 ∈ names <;> simp [among, here]

theorem double?_asNumber (value : Json) : value.asNumber.double? = value.double? := by
  cases value with
  | bool yes =>
      have finite : (Double.ofInt (if yes then 1 else 0)).isFinite = true := by
        cases yes <;> decide +kernel
      rw [asNumber, double?, Number.toDouble?, if_pos finite]
      rfl
  | _ => rfl

end Json

namespace Part

variable {part : Part} {name : String}

theorem number?_apart {found : Option Double} (read : part.number? name = .ok found) :
    ¬part.members.HoldsTruth name := by
  rintro ⟨yes, held⟩
  rw [number?, Json.Members.given?, held] at read
  cases read

theorem number_apart {x : Double} (read : part.number name = .ok x) :
    ¬part.members.HoldsTruth name := by
  obtain ⟨found, given, -⟩ := bind_eq_ok.mp read
  exact number?_apart given

theorem number?_of_given {value : Json} (given : part.members.get? name = some value)
    (present : value ≠ .null) (apart : ¬value.IsTruth) :
    part.number? name = (some <$> value.double?).orFault (.notANumber part.place name value) := by
  rw [number?, Json.Members.given?, given]
  cases value with
  | null => exact absurd rfl present
  | bool yes => exact absurd ⟨yes, rfl⟩ apart
  | _ => rfl

theorem number_eq_ok_iff {value : Json} (given : part.members.get? name = some value) {x : Double} :
    part.number name = .ok x ↔ value.double? = .ok x ∧ ¬value.IsTruth := by
  by_cases truth : value.IsTruth
  · obtain ⟨yes, rfl⟩ := truth
    exact iff_of_false (fun read => number_apart read ⟨yes, given⟩) fun read => read.2 ⟨yes, rfl⟩
  by_cases null : value = .null
  · subst null
    have absent : part.number? name = .ok none := by
      rw [number?, Json.Members.given?, given]
      rfl
    rw [number, absent, ok_bind]
    refine iff_of_false (fun read => by cases read) ?_
    rintro ⟨read, -⟩
    cases read
  rw [number, number?_of_given given null truth, bind_eq_ok, and_iff_left truth]
  simp only [Attempt.orFault, mapError_eq_ok, map_eq_ok]
  constructor
  · rintro ⟨_, ⟨a, read, rfl⟩, same⟩
    cases same
    exact read
  · exact fun read => ⟨some x, ⟨x, read, rfl⟩, rfl⟩

end Part

/-! ## Refusals -/

/-- The attempt ends in faults of the job, or before that in a whole number that is too large. -/
def Attempt.RejectedUnless {α : Type} (x : Attempt α) (oversize : Prop) : Prop :=
  (∃ faults, x = .error (.rejected faults)) ∨ oversize ∧ x = .error Fault.tooLarge

theorem Attempt.rejectedUnless {α : Type} {x : Attempt α} {result : α → Prop} {oversize : Prop}
    (meets : x.Meets result Fault.OfJob) (large : x = .error Fault.tooLarge ↔ oversize)
    (fails : ∀ a, x ≠ .ok a) : x.RejectedUnless oversize := by
  cases outcome : x with
  | ok a => exact absurd outcome (fails a)
  | error fault =>
      have own := meets.fault fault outcome
      cases own with
      | rejected faults => exact .inl ⟨faults, rfl⟩
      | tooLarge => exact .inr ⟨large.mp outcome, rfl⟩

/-! ## Operations -/

namespace OperationKind

def quantities : OperationKind → List String
  | drill => ["depth", "x", "y", "diameter"]
  | contour | closedPocket => ["depth", "pass_depth"]
  | openPocket => ["depth", "pass_depth", "width"]

def hasPath (kind : OperationKind) : Bool := kind != .drill

def hasEntry : OperationKind → Bool
  | contour | closedPocket => true
  | drill | openPocket => false

end OperationKind

/-- A truth value stands where an operation of the kind has a number. Points that are lists are left
out. -/
inductive Operation.HoldsTruth (members : Json.Members) (kind : OperationKind) : Prop
  | quantity (name : String) (due : name ∈ kind.quantities) (held : members.HoldsTruth name)
  | coordinate (points : List Json) (point : Json.Members) (name : String)
      (has : kind.hasPath = true) (found : members.get? "path" = some (.list points))
      (mem : .object point ∈ points) (due : name ∈ ["x", "y"]) (held : point.HoldsTruth name)
  | entry (entry : Json.Members) (name : String) (has : kind.hasEntry = true)
      (found : members.get? "entry" = some (.object entry)) (due : name ∈ ["angle", "radius"])
      (held : entry.HoldsTruth name)

namespace Slot

variable {slot : Slot} {part : Part}

theorem point_apart {index : Nat} {point : Json.Members} {pair : Json × Json}
    (read : slot.point index (.object point) = .ok pair) :
    ∀ name ∈ ["x", "y"], ¬point.HoldsTruth name := by
  obtain ⟨x, first, read⟩ := bind_eq_ok.mp read
  obtain ⟨y, second, -⟩ := bind_eq_ok.mp read
  simp only [List.forall_mem_cons]
  exact ⟨Part.number_apart first, Part.number_apart second, List.forall_mem_nil _⟩

theorem path_apart {path : List (Json × Json)} (read : slot.path part = .ok path)
    {points : List Json} (found : part.members.get? "path" = some (.list points))
    {point : Json.Members} (mem : .object point ∈ points) :
    ∀ name ∈ ["x", "y"], ¬point.HoldsTruth name := by
  rw [Slot.path, found] at read
  have each := mapM_isOk_iff.mp ⟨path, read⟩
  obtain ⟨index, bound, here⟩ := List.getElem_of_mem mem
  obtain ⟨pair, made⟩ := each (.object point, index)
    (List.mem_zipIdx_iff_getElem?.mpr (here ▸ List.getElem?_eq_getElem bound))
  exact point_apart made

theorem entry_apart {entry : Option Entry} (read : slot.entry part = .ok entry)
    {members : Json.Members} (found : part.members.get? "entry" = some (.object members)) :
    ∀ name ∈ ["angle", "radius"], ¬members.HoldsTruth name := by
  rcases object?_cases part "entry" with ⟨others, same, given⟩ | ⟨empty, -⟩
  · cases same.symm.trans found
    rw [Slot.entry, given, ok_bind] at read
    obtain ⟨angle, first, read⟩ := bind_eq_ok.mp read
    obtain ⟨radius, second, -⟩ := bind_eq_ok.mp read
    simp only [List.forall_mem_cons]
    exact ⟨Part.number?_apart first, Part.number?_apart second, List.forall_mem_nil _⟩
  · rw [empty members found]
    rintro name - ⟨yes, held⟩
    cases held

theorem task_apart {draft : TaskDraft} (read : task part = .ok draft) :
    ¬part.members.HoldsTruth "depth" := by
  obtain ⟨toolId, -, read⟩ := bind_eq_ok.mp read
  obtain ⟨depth, made, -⟩ := bind_eq_ok.mp read
  exact Part.number_apart made

theorem stepping_apart {draft : SteppingDraft} (read : stepping part = .ok draft) :
    ¬part.members.HoldsTruth "pass_depth" := by
  obtain ⟨multiPass, -, read⟩ := bind_eq_ok.mp read
  obtain ⟨passDepth, made, -⟩ := bind_eq_ok.mp read
  exact Part.number?_apart made

theorem not_holdsTruth (slot : Slot) {kind : OperationKind}
    (quantities : ∀ name ∈ kind.quantities, ¬part.members.HoldsTruth name)
    (path : kind.hasPath = true → ∃ path, slot.path part = .ok path)
    (entry : kind.hasEntry = true → ∃ entry, slot.entry part = .ok entry) :
    ¬Operation.HoldsTruth part.members kind := by
  rintro (⟨name, due, held⟩ | ⟨points, point, name, has, found, mem, due, held⟩ |
    ⟨members, name, has, found, due, held⟩)
  · exact quantities name due held
  · obtain ⟨path, read⟩ := path has
    exact path_apart read found mem name due held
  · obtain ⟨entry, read⟩ := entry has
    exact entry_apart read found name due held

theorem drill_apart {drill : Drill} (read : Slot.drill part = .ok drill) :
    ¬Operation.HoldsTruth part.members .drill := by
  obtain ⟨task, made, read⟩ := bind_eq_ok.mp read
  obtain ⟨x, first, read⟩ := bind_eq_ok.mp read
  obtain ⟨y, second, read⟩ := bind_eq_ok.mp read
  obtain ⟨diameter, third, -⟩ := bind_eq_ok.mp read
  refine not_holdsTruth ⟨0⟩ ?_ nofun nofun
  simp only [OperationKind.quantities, List.forall_mem_cons]
  exact ⟨task_apart made, Part.number_apart first, Part.number_apart second,
    Part.number_apart third, List.forall_mem_nil _⟩

theorem contour_apart {contour : Contour} (read : slot.contour part = .ok contour) :
    ¬Operation.HoldsTruth part.members .contour := by
  obtain ⟨task, made, read⟩ := bind_eq_ok.mp read
  obtain ⟨stepping, stepped, read⟩ := bind_eq_ok.mp read
  obtain ⟨path, followed, read⟩ := bind_eq_ok.mp read
  obtain ⟨closed, -, read⟩ := bind_eq_ok.mp read
  obtain ⟨entry, entered, -⟩ := bind_eq_ok.mp read
  refine not_holdsTruth slot ?_ (fun _ => ⟨path, followed⟩) fun _ => ⟨entry, entered⟩
  simp only [OperationKind.quantities, List.forall_mem_cons]
  exact ⟨task_apart made, stepping_apart stepped, List.forall_mem_nil _⟩

theorem closedPocket_apart {pocket : ClosedPocket} (read : slot.closedPocket part = .ok pocket) :
    ¬Operation.HoldsTruth part.members .closedPocket := by
  obtain ⟨task, made, read⟩ := bind_eq_ok.mp read
  obtain ⟨stepping, stepped, read⟩ := bind_eq_ok.mp read
  obtain ⟨path, followed, read⟩ := bind_eq_ok.mp read
  obtain ⟨entry, entered, -⟩ := bind_eq_ok.mp read
  refine not_holdsTruth slot ?_ (fun _ => ⟨path, followed⟩) fun _ => ⟨entry, entered⟩
  simp only [OperationKind.quantities, List.forall_mem_cons]
  exact ⟨task_apart made, stepping_apart stepped, List.forall_mem_nil _⟩

theorem openPocket_apart {pocket : OpenPocket} (read : slot.openPocket part = .ok pocket) :
    ¬Operation.HoldsTruth part.members .openPocket := by
  obtain ⟨task, made, read⟩ := bind_eq_ok.mp read
  obtain ⟨stepping, stepped, read⟩ := bind_eq_ok.mp read
  obtain ⟨path, followed, read⟩ := bind_eq_ok.mp read
  obtain ⟨width, wide, -⟩ := bind_eq_ok.mp read
  refine not_holdsTruth slot ?_ (fun _ => ⟨path, followed⟩) nofun
  simp only [OperationKind.quantities, List.forall_mem_cons]
  exact ⟨task_apart made, stepping_apart stepped, Part.number?_apart wide, List.forall_mem_nil _⟩

theorem ofKind_apart {kind : OperationKind} {operation : Operation}
    (read : slot.ofKind part kind = .ok operation) : ¬Operation.HoldsTruth part.members kind := by
  cases kind with
  | drill =>
      obtain ⟨task, made, -⟩ := map_eq_ok.mp read
      exact drill_apart made
  | contour =>
      obtain ⟨task, made, -⟩ := map_eq_ok.mp read
      exact contour_apart made
  | closedPocket =>
      obtain ⟨task, made, -⟩ := map_eq_ok.mp read
      exact closedPocket_apart made
  | openPocket =>
      obtain ⟨task, made, -⟩ := map_eq_ok.mp read
      exact openPocket_apart made

end Slot

theorem Operation.ofJson_rejected {index : Int} {members : Json.Members} {kind : OperationKind}
    (named : OperationKind.ofMembers? members = some kind) (held : HoldsTruth members kind) :
    (ofJson index (.object members)).RejectedUnless (ReachesOversize index (.object members)) := by
  refine rejectedUnless (ofJson_meets index _) (ofJson_eq_tooLarge index _) fun operation read => ?_
  rw [ofJson, named] at read
  exact Slot.ofKind_apart (mapError_eq_ok.mp read) held

/-! ## Tools and panels -/

def Tool.quantities : List String :=
  ["diameter", "spindle_speed", "feed_rate", "plunge_rate", "max_depth"]

theorem Tool.ofJson_rejected {index : Int} {members : Json.Members} {name : String}
    (due : name ∈ quantities) (held : members.HoldsTruth name) :
    (ofJson index (.object members)).RejectedUnless (Reaches (steps index (.object members))) := by
  refine rejectedUnless (ofJson_meets index _) (ofJson_eq_tooLarge index _) fun tool read => ?_
  obtain ⟨id, -, read⟩ := bind_eq_ok.mp (mapError_eq_ok.mp read)
  obtain ⟨kind, -, read⟩ := bind_eq_ok.mp read
  obtain ⟨diameter, first, read⟩ := bind_eq_ok.mp read
  obtain ⟨spindleSpeed, second, read⟩ := bind_eq_ok.mp read
  obtain ⟨feedRate, third, read⟩ := bind_eq_ok.mp read
  obtain ⟨plungeRate, fourth, read⟩ := bind_eq_ok.mp read
  obtain ⟨maxDepth, fifth, -⟩ := bind_eq_ok.mp read
  have apart : ∀ name ∈ quantities, ¬members.HoldsTruth name := by
    simp only [quantities, List.forall_mem_cons]
    exact ⟨Part.number_apart first, Part.number_apart second, Part.number_apart third,
      Part.number?_apart fourth, Part.number?_apart fifth, List.forall_mem_nil _⟩
  exact apart name due held

inductive Panel.HoldsTruth (members : Json.Members) : Prop
  | size (sizes : Json.Members) (name : String)
      (found : members.get? "dimensions" = some (.object sizes))
      (due : name ∈ ["length", "width", "thickness"]) (held : sizes.HoldsTruth name)
  | zOffset (held : members.HoldsTruth "z_offset")

theorem Panel.dimensions_ok {members sizes given : Json.Members}
    (read : dimensions members = .ok sizes)
    (found : members.get? "dimensions" = some (.object given)) : sizes = given := by
  rw [dimensions, found] at read
  dsimp only at read
  split at read
  · rename_i void
    cases read
    exact (List.isEmpty_iff.mp void).symm
  · cases read
    rfl

theorem Panel.ofJson_rejected {members : Json.Members} (held : HoldsTruth members) :
    (ofJson (.object members)).RejectedUnless (Reaches (steps (.object members))) := by
  refine rejectedUnless (ofJson_meets _) (ofJson_eq_tooLarge _) fun panel read => ?_
  obtain ⟨sizes, sized, read⟩ := bind_eq_ok.mp read
  obtain ⟨length, first, read⟩ := bind_eq_ok.mp read
  obtain ⟨width, second, read⟩ := bind_eq_ok.mp read
  obtain ⟨thickness, third, read⟩ := bind_eq_ok.mp read
  obtain ⟨zOffset, fourth, -⟩ := bind_eq_ok.mp read
  cases held with
  | size given name found due held =>
      cases dimensions_ok sized found
      have apart : ∀ name ∈ ["length", "width", "thickness"], ¬sizes.HoldsTruth name := by
        simp only [List.forall_mem_cons]
        exact ⟨Part.number_apart first, Part.number_apart second, Part.number_apart third,
          List.forall_mem_nil _⟩
      exact apart name due held
  | zOffset held => exact Part.number?_apart fourth held

/-! ## Points -/

namespace Slot

variable (slot : Slot) (index : Nat)

theorem point_list_ok {x y : Json} {rest : List Json} {pair : Json × Json} :
    slot.point index (.list (x :: y :: rest)) = .ok pair ↔
      ∃ a, x.double? = .ok a ∧ ∃ b, y.double? = .ok b ∧ (.ofDouble a, .ofDouble b) = pair := by
  rw [point, Attempt.orFault, mapError_eq_ok, bind_eq_ok]
  simp only [bind_eq_ok, pure_eq_ok]

theorem point_object_ok {x y : Json} {pair : Json × Json} :
    slot.point index (.object [("x", x), ("y", y)]) = .ok pair ↔
      slot.point index (.list [x, y]) = .ok pair ∧ ¬x.IsTruth ∧ ¬y.IsTruth := by
  let part := Part.mk (.point slot.index index) [("x", x), ("y", y)]
  have first {a : Double} : part.number "x" = .ok a ↔ _ := Part.number_eq_ok_iff rfl
  have second {b : Double} : part.number "y" = .ok b ↔ _ := Part.number_eq_ok_iff rfl
  rw [point_list_ok, point, bind_eq_ok]
  simp only [bind_eq_ok, pure_eq_ok]
  constructor
  · rintro ⟨a, readX, b, readY, same⟩
    obtain ⟨readX, apartX⟩ := first.mp readX
    obtain ⟨readY, apartY⟩ := second.mp readY
    exact ⟨⟨a, readX, b, readY, same⟩, apartX, apartY⟩
  · rintro ⟨⟨a, readX, b, readY, same⟩, apartX, apartY⟩
    exact ⟨a, first.mpr ⟨readX, apartX⟩, b, second.mpr ⟨readY, apartY⟩, same⟩

end Slot

/-! ## Paths of lists -/

namespace Json

def pointAsNumbers : Json → Json
  | .list (x :: y :: rest) => .list (x.asNumber :: y.asNumber :: rest)
  | given => given

def pathAsNumbers : Json → Json
  | .list points => .list (points.map pointAsNumbers)
  | given => given

end Json

namespace Slot

variable (slot : Slot)

theorem point_asNumbers (index : Nat) (given : Json) :
    (slot.point index given.pointAsNumbers).toOption = (slot.point index given).toOption := by
  cases given with
  | list items =>
      cases items with
      | nil => rfl
      | cons x items =>
          cases items with
          | nil => rfl
          | cons y rest =>
              simp only [Json.pointAsNumbers, point, Attempt.orFault, toOption_mapError,
                x.double?_asNumber, y.double?_asNumber]
  | _ => rfl

theorem path_asNumbers (place : Place) (members : Json.Members) :
    (slot.path ⟨place, members.mapAt ["path"] Json.pathAsNumbers⟩).toOption =
      (slot.path ⟨place, members⟩).toOption := by
  rw [path, path, Json.Members.get?_mapAt, if_pos (List.mem_singleton.mpr rfl)]
  cases members.get? "path" with
  | none => rfl
  | some value =>
      cases value with
      | list points =>
          simp only [Option.map_some, Json.pathAsNumbers, toOption_mapM, List.zipIdx_map,
            List.mapM_map]
          exact congrArg (List.mapM · points.zipIdx)
            (funext fun entry => slot.point_asNumbers entry.2 entry.1)
      | _ => rfl

theorem ofKind_asNumbers (place : Place) (members : Json.Members) (kind : OperationKind) :
    (slot.ofKind ⟨place, members.mapAt ["path"] Json.pathAsNumbers⟩ kind).toOption =
      (slot.ofKind ⟨place, members⟩ kind).toOption := by
  have same {name : String} (apart : name ≠ "path") :
      (members.mapAt ["path"] Json.pathAsNumbers).get? name = members.get? name := by
    rw [Json.Members.get?_mapAt, if_neg (List.mem_singleton.not.mpr apart)]
  -- Everything but the path is read from members that are as they were.
  cases kind with
  | _ =>
      simp only [ofKind, drill, contour, closedPocket, openPocket, task, stepping, entry, exit,
        object?, Part.text, Part.text?, Part.number, Part.number?, Part.flag, Part.required,
        Json.Members.given?, same, ne_eq, String.reduceEq, not_false_eq_true, toOption_map,
        toOption_bind, path_asNumbers]

end Slot

theorem Operation.ofJson_asNumbers (index : Int) (members : Json.Members) (operation : Operation) :
    ofJson index (.object members) = .ok operation ↔
      ofJson index (.object (members.mapAt ["path"] Json.pathAsNumbers)) = .ok operation := by
  have named : OperationKind.ofMembers? (members.mapAt ["path"] Json.pathAsNumbers) =
      OperationKind.ofMembers? members := by
    rw [OperationKind.ofMembers?, Json.Members.get?_mapAt, if_neg (by decide),
      OperationKind.ofMembers?]
  rw [ofJson, ofJson, named]
  cases OperationKind.ofMembers? members with
  | none => exact iff_of_false (fun read => by cases read) fun read => by cases read
  | some kind =>
      simp only [← toOption_eq_some, Attempt.inJob, toOption_mapError, Slot.ofKind_asNumbers]

/-! ## Machines -/

namespace Profile

def quantities : List String := ["safe_height", "spindle_speed", "feed_rate", "plunge_rate"]

theorem ofMembers_asNumber (members : Json.Members) (base : Profile) :
    ofMembers (members.mapAt quantities Json.asNumber) base = ofMembers members base := by
  have double (given : Option Json) (value : Json) :
      ((given.map Json.asNumber).getD value).double? = (given.getD value).double? := by
    cases given with
    | none => rfl
    | some given => exact given.double?_asNumber
  have drafted : readDraft (members.mapAt quantities Json.asNumber) base.toDraft =
      readDraft members base.toDraft := by
    simp [readDraft, Json.Members.get?_mapAt, quantities, double]
  rw [ofMembers, ofMembers, drafted]

variable {members : Json.Members} {base : Profile}

theorem ofMembers_of_no {name : String} (due : name ∈ quantities)
    (no : members.get? name = some (.bool false)) (profile : Profile) :
    (ofMembers members base).outcome ≠ .ok profile := by
  intro read
  obtain ⟨draft, -, reads, made⟩ := ofMembers_ok read
  have kept := ofDraft_ok made
  have apart {name : String} {value given : Json} {a : PositiveNumber}
      (own : NumberRead members name value given) (same : .number a.val = given) :
      members.get? name ≠ some (.bool false) := by
    intro no
    obtain ⟨x, read, rfl⟩ := own
    rw [no, Option.getD_some, Json.double?] at read
    have positive := a.property.2
    rw [Json.number.inj same, ← pure_eq_ok.mp read] at positive
    exact absurd positive (by decide +kernel)
  have all : ∀ name ∈ quantities, members.get? name ≠ some (.bool false) := by
    simp only [quantities, List.forall_mem_cons]
    exact ⟨apart reads.safeHeight (congrArg Draft.safeHeight kept),
      apart reads.spindleSpeed (congrArg Draft.spindleSpeed kept),
      apart reads.feedRate (congrArg Draft.feedRate kept),
      apart reads.plungeRate (congrArg Draft.plungeRate kept), List.forall_mem_nil _⟩
  exact all name due no

end Profile

theorem Job.profile?_rejected {members machine : Json.Members} {default : Profile}
    (given : members.given? "machine" = some (.object machine)) {name : String}
    (due : name ∈ Profile.quantities) (no : machine.get? name = some (.bool false)) :
    (profile? members default).outcome.RejectedUnless
      (Reaches (Profile.steps machine default)) := by
  have large : (profile? members default).outcome = .error Fault.tooLarge ↔
      Reaches (Profile.steps machine default) := by
    rw [profile?_eq_tooLarge, given]
    simp
  refine rejectedUnless (profile?_meets members default) large fun profile read => ?_
  rw [profile?, given] at read
  exact Profile.ofMembers_of_no due no profile (mapError_eq_ok.mp read)

/-! ## All numbers of a job -/

/-- Truth values are refused wherever a number is due but in points that are lists and in machines,
which take them for one and zero. -/
theorem truths_settled (index : Int) (members : Json.Members) (base : Profile) (x y : Json) :
    (∀ kind, OperationKind.ofMembers? members = some kind → Operation.HoldsTruth members kind →
      (Operation.ofJson index (.object members)).RejectedUnless
        (Operation.ReachesOversize index (.object members))) ∧
    (∀ operation, Operation.ofJson index (.object members) = .ok operation ↔
      Operation.ofJson index (.object (members.mapAt ["path"] Json.pathAsNumbers)) =
        .ok operation) ∧
    (∀ name ∈ Tool.quantities, members.HoldsTruth name →
      (Tool.ofJson index (.object members)).RejectedUnless
        (Reaches (Tool.steps index (.object members)))) ∧
    (Panel.HoldsTruth members →
      (Panel.ofJson (.object members)).RejectedUnless (Reaches (Panel.steps (.object members)))) ∧
    (∀ (place : Nat) (pair : Json × Json),
      Slot.point ⟨index⟩ place (.object [("x", x), ("y", y)]) = .ok pair ↔
        Slot.point ⟨index⟩ place (.list [x, y]) = .ok pair ∧ ¬x.IsTruth ∧ ¬y.IsTruth) ∧
    (∀ job : Json.Members, job.given? "machine" = some (.object members) →
      ∀ name ∈ Profile.quantities, members.get? name = some (.bool false) →
        (Job.profile? job base).outcome.RejectedUnless (Reaches (Profile.steps members base))) ∧
    Profile.ofMembers members base =
      Profile.ofMembers (members.mapAt Profile.quantities Json.asNumber) base :=
  ⟨fun _ named held => Operation.ofJson_rejected named held,
    Operation.ofJson_asNumbers index members,
    fun _ due held => Tool.ofJson_rejected due held,
    Panel.ofJson_rejected,
    fun place _ => Slot.point_object_ok ⟨index⟩ place,
    fun _ given _ due no => Job.profile?_rejected given due no,
    (Profile.ofMembers_asNumber members base).symm⟩

namespace Sample

def truthfulHole : Json.Members := [("type", .text "drill"), ("depth", .bool true)]

def truthfulOutline (start : Json) : Json.Members :=
  [("type", .text "contour"), ("tool", .text "mill_6mm"), ("depth", .number (.whole 5)),
    ("path", .list [.list [start, .number (.whole 0)],
      .list [.number (.whole 40), .number (.whole 0)]])]

def truthfulMachine (height : Json) : Json.Members := [("safe_height", height)]

end Sample

theorem truths_settled_of_sample :
    let x := Json.bool true
    let y := Json.number (.whole 0)
    let outline := Sample.truthfulOutline x
    let machine := Sample.truthfulMachine (.bool false)
    (Operation.ofJson 0 (.object Sample.truthfulHole)).RejectedUnless
        (Operation.ReachesOversize 0 (.object Sample.truthfulHole)) ∧
      (∃ operation, Operation.ofJson 0 (.object outline) = .ok operation ∧
        Operation.ofJson 0 (.object (Sample.truthfulOutline (.number (.whole 1)))) =
          .ok operation) ∧
      (Tool.ofJson 0 (.object [("max_depth", x)])).RejectedUnless
        (Reaches (Tool.steps 0 (.object [("max_depth", x)]))) ∧
      (Panel.ofJson (.object [("z_offset", x)])).RejectedUnless
        (Reaches (Panel.steps (.object [("z_offset", x)]))) ∧
      (∃ pair, Slot.point ⟨0⟩ 0 (.list [x, y]) = .ok pair ∧
        Slot.point ⟨0⟩ 0 (.object [("x", x), ("y", y)]) ≠ .ok pair) ∧
      (Job.profile? [("machine", .object machine)] .standard).outcome.RejectedUnless
        (Reaches (Profile.steps machine .standard)) ∧
      ∃ profile, (Profile.ofMembers (Sample.truthfulMachine x) .standard).outcome = .ok profile ∧
        (Profile.ofMembers (Sample.truthfulMachine (.number (.whole 1))) .standard).outcome =
          .ok profile := by
  intro x y outline machine
  obtain ⟨holes, -⟩ := truths_settled 0 Sample.truthfulHole .standard x y
  obtain ⟨-, outlines, -, -, points, -⟩ := truths_settled 0 outline .standard x y
  obtain ⟨-, -, tools, -⟩ := truths_settled 0 [("max_depth", x)] .standard x y
  obtain ⟨-, -, -, panels, -⟩ := truths_settled 0 [("z_offset", x)] .standard x y
  obtain ⟨-, -, -, -, -, machines, -⟩ := truths_settled 0 machine .standard x y
  obtain ⟨-, -, -, -, -, -, same⟩ := truths_settled 0 (Sample.truthfulMachine x) .standard x y
  obtain ⟨operation, read⟩ := Attempt.exists_ok (x := Operation.ofJson 0 (.object outline))
    (by decide +kernel)
  obtain ⟨pair, paired⟩ := Attempt.exists_ok (x := Slot.point ⟨0⟩ 0 (.list [x, y]))
    (by decide +kernel)
  obtain ⟨profile, made⟩ := Attempt.exists_ok
    (x := (Profile.ofMembers (Sample.truthfulMachine x) .standard).outcome) (by decide +kernel)
  refine ⟨holes .drill (by decide +kernel) (.quantity "depth" (by decide) ⟨true, rfl⟩),
    ⟨operation, read, (outlines operation).mp read⟩, tools "max_depth" (by decide) ⟨true, rfl⟩,
    panels (.zOffset ⟨true, rfl⟩), ⟨pair, paired, fun same => ?_⟩,
    machines _ rfl "safe_height" (by decide) rfl, profile, made, ?_⟩
  · exact ((points 0 pair).mp same).2.1 ⟨true, rfl⟩
  · exact (congrArg Traced.outcome same).symm.trans made

end Millwork
