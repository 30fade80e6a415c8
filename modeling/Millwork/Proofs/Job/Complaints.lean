import Mathlib.Data.List.Forall2
import Millwork.Job.Operation
import Millwork.Proofs.Attempt
import Millwork.Proofs.Text.OneLine

namespace Millwork

open Text

/-! ## Wording -/

/-- One line that is headed by the number of the operation at an index. -/
structure Complaint (index : Int) (message : String) : Prop where
  oneLine : OneLine message
  headed : ∃ mark rest, mark ∈ [':', ' '] ∧
    message.toList = s!"Operation {index + 1}".toList ++ mark :: rest

def Place.operation? : Place → Option Int
  | .operation n | .point n _ | .entry n | .exit n => some n
  | .tool _ | .panel | .dimensions => none

theorem Complaint.append {index : Int} {front back : String} (told : Complaint index front)
    (one : OneLine back) : Complaint index (front ++ back) := by
  obtain ⟨mark, rest, known, chars⟩ := told.headed
  refine ⟨told.oneLine.append one, mark, rest ++ back.toList, known, ?_⟩
  rw [String.toList_append, chars, List.append_assoc, List.cons_append]

theorem complaint_of_mark (index : Int) {mark : Char} {rest : List Char}
    (known : mark ∈ [':', ' '])
    (plain : (mark :: rest).any isLineEnd = false) :
    Complaint index (s!"Operation {index + 1}" ++ .ofList (mark :: rest)) where
  oneLine := .append (.append (.literal rfl) (oneLine_toString_int _)) (.literal plain)
  headed := ⟨mark, rest, known, by rw [String.toList_append, String.toList_ofList]⟩

theorem Place.complaint {index : Int} {place : Place} (own : place.operation? = some index)
    {rest : List Char} (plain : (':' :: rest).any isLineEnd = false) :
    Complaint index (place.title ++ .ofList (':' :: rest)) := by
  have behind : OneLine (.ofList (':' :: rest)) := .literal plain
  cases place with
  | tool | panel | dimensions => cases own
  | operation n =>
      cases own
      exact complaint_of_mark index (by decide) plain
  | entry n =>
      cases own
      have told : Complaint index (s!"Operation {index + 1}" ++ " entry") :=
        complaint_of_mark index (by decide) rfl
      exact told.append behind
  | exit n =>
      cases own
      have told : Complaint index (s!"Operation {index + 1}" ++ " exit") :=
        complaint_of_mark index (by decide) rfl
      exact told.append behind
  | point n place =>
      cases own
      have told : Complaint index (s!"Operation {index + 1}" ++ " path[") :=
        complaint_of_mark index (by decide) rfl
      exact ((told.append (oneLine_toString_nat place)).append (.literal rfl)).append behind

namespace JobFault

variable {index : Int} {place : Place} (own : place.operation? = some index)

include own

theorem complaint_missing {name : String} (word : OneLine name) :
    Complaint index (missing place name).message :=
  ((place.complaint own rfl).append word).append (.literal rfl)

theorem complaint_notANumber {name : String} (word : OneLine name) (value : Json) :
    Complaint index (notANumber place name value).message :=
  (((place.complaint own rfl).append word).append (.literal rfl)).append
    value.oneLine_shown

theorem complaint_notAFlag {name : String} (word : OneLine name) (value : Json) :
    Complaint index (notAFlag place name value).message :=
  (((place.complaint own rfl).append word).append (.literal rfl)).append
    value.oneLine_shown

theorem complaint_notAPoint (value : Json) : Complaint index (notAPoint place value).message :=
  ((place.complaint own rfl).append value.oneLine_shown).append (.literal rfl)

theorem complaint_pathNotAList : Complaint index (pathNotAList place).message :=
  place.complaint own rfl

theorem complaint_memberNotAnObject {name : String} (word : OneLine name) :
    Complaint index (memberNotAnObject place name).message :=
  ((place.complaint own rfl).append word).append (.literal rfl)

theorem complaint_notAnObject : Complaint index (notAnObject place).message :=
  place.complaint own rfl

theorem complaint_unknownKind {kinds : List String} (words : ∀ kind ∈ kinds, OneLine kind)
    (value : Json) : Complaint index (unknownKind place kinds value).message :=
  (((place.complaint own rfl).append value.oneLine_shown).append (.literal rfl)).append
    (oneLine_intercalate (.literal rfl) words)

theorem complaint_refused {refusal : Refusal} (one : OneLine refusal.message) :
    Complaint index (refused place refusal).message :=
  (place.complaint own rfl).append one

end JobFault

/-! ## One operation -/

/-- What reading the operation at an index ends in: when it is turned down, by itself or by its
record, then with one complaint. -/
def Fault.Tells (index : Int) : Fault → Prop
  | refused refusal => OneLine refusal.message
  | rejected faults => ∃ fault : JobFault, faults = [fault] ∧ Complaint index fault.message
  | _ => True

namespace Attempt

variable {α β : Type}

def Tells (index : Int) (x : Attempt α) : Prop := x.Meets (fun _ => True) (Fault.Tells index)

variable {index : Int} {x : Attempt α} {f : α → Attempt β}

theorem tells_pure (a : α) : Tells index (pure a : Attempt α) := meets_pure trivial

theorem tells_throw {fault : Fault} (told : fault.Tells index) :
    Tells index (throw fault : Attempt α) := meets_throw told

theorem tells_rejected {fault : JobFault} (told : Complaint index fault.message) :
    Tells index (throw (.rejected [fault]) : Attempt α) := meets_throw ⟨fault, rfl, told⟩

theorem Tells.bind (first : x.Tells index) (next : ∀ a, (f a).Tells index) :
    (x >>= f).Tells index :=
  Meets.bind first fun a _ => next a

theorem Tells.map {f : α → β} (told : x.Tells index) : (f <$> x : Attempt β).Tells index :=
  Meets.map told fun _ _ => trivial

theorem Tells.orFault (told : x.Tells index) {fault : JobFault}
    (complaint : Complaint index fault.message) : (x.orFault fault).Tells index :=
  Meets.mapError told fun e own => by
    cases e with
    | unreadable cause => exact ⟨fault, rfl, complaint⟩
    | _ => exact own

theorem Tells.inJob (told : x.Tells index) {place : Place}
    (own : place.operation? = some index) : (x.inJob (.refused place)).Tells index :=
  Meets.mapError told fun e one => by
    cases e with
    | refused refusal => exact ⟨_, rfl, JobFault.complaint_refused own one⟩
    | _ => exact one

theorem tells_mapM {xs : List α} (each : ∀ a ∈ xs, (f a).Tells index) : (xs.mapM f).Tells index :=
  (meets_mapM each).mono (fun _ _ => trivial) fun _ own => own

end Attempt

open Attempt

variable {index : Int}

/-! ### Records -/

namespace Json

variable (value : Json) {quantity : Quantity} (title : OneLine quantity.title)

theorem finite?_tells : (liftM value.finite? : Attempt _).Tells index := by
  cases value with
  | number a =>
      cases a with
      | whole n =>
          rw [finite?]
          split
          · exact tells_pure _
          · exact tells_throw trivial
      | double x =>
          rw [finite?]
          split <;> exact tells_pure _
  | _ => exact tells_pure _

include title

theorem positive?_tells : (value.positive? quantity).Tells index := by
  have refused : OneLine (Refusal.notPositive quantity value).message :=
    (title.append (.literal rfl)).append value.oneLine_shown
  refine value.finite?_tells.bind fun found => ?_
  cases found with
  | none => exact tells_throw refused
  | some a =>
      dsimp only
      split
      · exact tells_pure _
      · exact tells_throw refused

theorem nonnegative?_tells : (value.nonnegative? quantity).Tells index := by
  have refused : OneLine (Refusal.negative quantity value).message :=
    (title.append (.literal rfl)).append value.oneLine_shown
  refine value.finite?_tells.bind fun found => ?_
  cases found with
  | none => exact tells_throw refused
  | some a =>
      dsimp only
      split
      · exact tells_pure _
      · exact tells_throw refused

theorem positiveOrNone?_tells : (value.positiveOrNone? quantity).Tells index := by
  cases value with
  | null => exact tells_pure _
  | _ => exact (positive?_tells _ title).map

end Json

theorem Choice.ofJson?_tells {α : Type} [Choice α] (title : OneLine (Choice.title α))
    (value : Json) : (liftM (Choice.ofJson? value : Except Refusal α) : Attempt α).Tells index := by
  have refused : OneLine (Refusal.notAMember (Choice.title α) value).message :=
    (value.oneLine_shown.append (.literal rfl)).append title
  cases value with
  | text word =>
      rw [ofJson?]
      split
      · exact tells_pure _
      · exact tells_throw refused
  | _ => exact tells_throw refused

theorem Task.ofDraft_tells (kind : OperationKind) (draft : TaskDraft) :
    (Task.ofDraft kind draft).Tells index := by
  rw [Task.ofDraft]
  split
  · refine (draft.depth.nonnegative?_tells ?_).bind fun depth => tells_pure _
    cases kind <;> decide
  · have unnamed : OneLine (Refusal.operationWithoutTool kind.word).message := by
      cases kind <;> decide
    exact tells_throw unnamed

theorem Stepping.ofDraft_tells (kind : OperationKind) (draft : SteppingDraft) :
    (Stepping.ofDraft kind draft).Tells index := by
  refine (draft.passDepth.positiveOrNone?_tells ?_).bind fun passDepth => tells_pure _
  cases kind <;> decide

namespace Path

theorem point?_tells (place : Nat) (x y : Json) : (point? place x y).Tells index := by
  have head : OneLine s!"path[{place}] has a non-finite coordinate (" :=
    .append (.append (.literal rfl) (oneLine_toString_nat place)) (.literal rfl)
  have refused : OneLine (Refusal.pathCoordinate place x y).message :=
    (((head.append x.oneLine_shown).append (.literal rfl)).append y.oneLine_shown).append
      (.literal rfl)
  refine x.finite?_tells.bind fun found => ?_
  cases found with
  | none => exact tells_throw refused
  | some a =>
      refine y.finite?_tells.bind fun found => ?_
      cases found with
      | none => exact tells_throw refused
      | some b => exact tells_pure _

theorem points?_tells (place : Nat) (coordinates : List (Json × Json)) :
    (points? place coordinates).Tells index := by
  induction coordinates generalizing place with
  | nil => exact tells_pure _
  | cons pair rest ih =>
      exact (point?_tells place pair.1 pair.2).bind fun point =>
        (ih (place + 1)).bind fun rest => tells_pure _

theorem ofCoordinates_tells (coordinates : List (Json × Json)) :
    (ofCoordinates coordinates).Tells index := by
  refine (points?_tells 0 coordinates).bind fun points => ?_
  cases points with
  | nil => exact tells_throw (by decide : OneLine _)
  | cons start rest => exact tells_pure _

end Path

theorem Drill.ofDraft_tells (draft : DrillDraft) : (Drill.ofDraft draft).Tells index := by
  have head : OneLine "drill position (" := .literal rfl
  have misplaced : OneLine (Refusal.drillPosition draft.x draft.y).message :=
    (((head.append draft.x.oneLine_shown).append (.literal rfl)).append
      draft.y.oneLine_shown).append (.literal rfl)
  refine (Task.ofDraft_tells _ _).bind fun task => ?_
  refine draft.x.finite?_tells.bind fun found => ?_
  cases found with
  | none => exact tells_throw misplaced
  | some x =>
      refine draft.y.finite?_tells.bind fun found => ?_
      cases found with
      | none => exact tells_throw misplaced
      | some y =>
          exact (draft.diameter.positive?_tells (by decide)).bind fun diameter =>
            tells_pure _

theorem Compensation.ofGiven_tells (value : Json) :
    (liftM (Compensation.ofGiven value) : Attempt Compensation).Tells index := by
  rw [Compensation.ofGiven]
  split
  · exact tells_pure _
  · exact Choice.ofJson?_tells (by decide) value

theorem Contour.ofDraft_tells (draft : ContourDraft) : (Contour.ofDraft draft).Tells index :=
  (Task.ofDraft_tells _ _).bind fun _ =>
    (Path.ofCoordinates_tells _).bind fun _ =>
    (Stepping.ofDraft_tells _ _).bind fun _ =>
    (Compensation.ofGiven_tells _).bind fun _ => tells_pure _

theorem ClosedPocket.ofDraft_tells (draft : ClosedPocketDraft) :
    (ClosedPocket.ofDraft draft).Tells index :=
  (Task.ofDraft_tells _ _).bind fun _ =>
    (Path.ofCoordinates_tells _).bind fun _ =>
    (Stepping.ofDraft_tells _ _).bind fun _ =>
    (Choice.ofJson?_tells (by decide) _).bind fun _ => tells_pure _

theorem OpenPocket.ofDraft_tells (draft : OpenPocketDraft) :
    (OpenPocket.ofDraft draft).Tells index :=
  (Task.ofDraft_tells _ _).bind fun _ =>
    (Path.ofCoordinates_tells _).bind fun _ =>
    (Stepping.ofDraft_tells _ _).bind fun _ =>
    (Choice.ofJson?_tells (by decide) _).bind fun _ =>
    (draft.width.nonnegative?_tells (by decide)).bind fun _ => tells_pure _

theorem Entry.ofDraft_tells (draft : Entry.Draft) : (Entry.ofDraft draft).Tells index := by
  have rest (style : EntryStyle) (angle : Option FiniteNumber) : (do
      let radius ← draft.radius.positiveOrNone? .entryRadius
      return { style, angle, radius } : Attempt Entry).Tells index :=
    (draft.radius.positiveOrNone?_tells (by decide)).bind fun _ => tells_pure _
  have angle : OneLine (Refusal.entryAngle draft.angle).message :=
    .append (.literal rfl) draft.angle.oneLine_shown
  refine (Choice.ofJson?_tells (by decide) _).bind fun style => ?_
  split
  · exact rest style none
  · refine (draft.angle.finite?_tells).bind fun found => ?_
    cases found with
    | none => exact tells_throw angle
    | some angle => exact rest style (some angle)

theorem Exit.ofGiven_tells (style : Json) : (Exit.ofGiven style).Tells index :=
  (Choice.ofJson?_tells (by decide) style).bind fun _ => tells_pure _

/-! ### Members -/

theorem Json.double?_tells (value : Json) : value.double?.Tells index := by
  cases value with
  | number a =>
      cases a with
      | whole n =>
          change (liftM (Number.toDouble? _) : Attempt Double).Tells index
          rw [Number.toDouble?]
          split
          · exact tells_pure _
          · exact tells_throw trivial
      | double x => exact tells_pure _
  | bool yes => exact tells_pure _
  | text numeral =>
      rw [double?]
      split
      · exact tells_pure _
      · exact tells_throw trivial
  | _ => exact tells_throw trivial

namespace Part

variable {part : Part} (own : part.place.operation? = some index) {name : String}

include own

theorem number?_tells (word : OneLine name) : (part.number? name).Tells index := by
  rw [number?]
  cases part.members.given? name with
  | none => exact tells_pure _
  | some value =>
      have complaint := JobFault.complaint_notANumber own word value
      cases value with
      | bool yes => exact tells_rejected complaint
      | _ => exact (Json.double?_tells _).map.orFault complaint

theorem required_tells {α : Type} (found : Option α) (word : OneLine name) :
    (part.required name found).Tells index := by
  cases found with
  | none => exact tells_rejected (JobFault.complaint_missing own word)
  | some a => exact tells_pure _

theorem number_tells (word : OneLine name) : (part.number name).Tells index :=
  (number?_tells own word).bind fun _ => required_tells own _ word

theorem text_tells (word : OneLine name) : (part.text name).Tells index :=
  required_tells own _ word

theorem flag_tells (word : OneLine name) : (part.flag name).Tells index := by
  rw [flag]
  cases part.members.given? name with
  | none => exact tells_pure _
  | some value =>
      dsimp only
      cases value.flag? with
      | ok yes => exact tells_pure _
      | error cause => exact tells_rejected (JobFault.complaint_notAFlag own word value)

end Part

namespace Slot

variable (slot : Slot) {part : Part} (own : part.place.operation? = some slot.index)

theorem point_tells (place : Nat) (given : Json) : (slot.point place given).Tells slot.index := by
  have own : (Place.point slot.index place).operation? = some slot.index := rfl
  have pair {x y : Attempt Double} (first : x.Tells slot.index) (second : y.Tells slot.index) :
      (do return (Json.ofDouble (← x), Json.ofDouble (← y)) : Attempt (Json × Json)).Tells
        slot.index :=
    first.bind fun _ => second.bind fun _ => tells_pure _
  unfold point
  split
  · rename_i members
    have own' : (Part.mk (.point slot.index place) members).place.operation? = some slot.index :=
      rfl
    exact pair (Part.number_tells own' (by decide)) (Part.number_tells own' (by decide))
  · exact (pair (Json.double?_tells _) (Json.double?_tells _)).orFault
      (JobFault.complaint_notAPoint own _)
  · exact tells_rejected (JobFault.complaint_notAPoint own _)

include own

theorem path_tells : (slot.path part).Tells slot.index := by
  rw [path]
  split
  · exact tells_mapM fun entry _ => slot.point_tells _ _
  · exact tells_rejected (JobFault.complaint_pathNotAList own)

theorem object?_tells {name : String} (word : OneLine name) :
    (object? part name).Tells slot.index := by
  rw [object?]
  cases part.members.get? name with
  | none => exact tells_pure _
  | some value =>
      dsimp only
      split
      · exact tells_pure _
      · cases value with
        | object members => exact tells_pure _
        | _ => exact tells_rejected (JobFault.complaint_memberNotAnObject own word)

theorem entry_tells : (slot.entry part).Tells slot.index := by
  refine (slot.object?_tells own (by decide)).bind fun found => ?_
  cases found with
  | none => exact tells_pure _
  | some members =>
      have own' : (Part.mk (.entry slot.index) members).place.operation? = some slot.index := rfl
      exact (Part.number?_tells own' (by decide)).bind fun _ =>
        (Part.number?_tells own' (by decide)).bind fun _ => (Entry.ofDraft_tells _).map

theorem exit_tells : (slot.exit part).Tells slot.index := by
  refine (slot.object?_tells own (by decide)).bind fun found => ?_
  cases found with
  | none => exact tells_pure _
  | some members => exact (Exit.ofGiven_tells _).map

theorem task_tells : (task part).Tells slot.index :=
  (Part.text_tells own (by decide)).bind fun _ =>
    (Part.number_tells own (by decide)).bind fun _ => tells_pure _

theorem stepping_tells : (stepping part).Tells slot.index :=
  (Part.flag_tells own (by decide)).bind fun _ =>
    (Part.number?_tells own (by decide)).bind fun _ => tells_pure _

theorem drill_tells : (drill part).Tells slot.index :=
  (slot.task_tells own).bind fun _ =>
    (Part.number_tells own (by decide)).bind fun _ =>
    (Part.number_tells own (by decide)).bind fun _ =>
    (Part.number_tells own (by decide)).bind fun _ =>
    (Part.flag_tells own (by decide)).bind fun _ => Drill.ofDraft_tells _

theorem contour_tells : (slot.contour part).Tells slot.index :=
  (slot.task_tells own).bind fun _ =>
    (slot.stepping_tells own).bind fun _ =>
    (slot.path_tells own).bind fun _ =>
    (Part.flag_tells own (by decide)).bind fun _ =>
    (slot.entry_tells own).bind fun _ =>
    (slot.exit_tells own).bind fun _ => Contour.ofDraft_tells _

theorem closedPocket_tells : (slot.closedPocket part).Tells slot.index :=
  (slot.task_tells own).bind fun _ =>
    (slot.stepping_tells own).bind fun _ =>
    (slot.path_tells own).bind fun _ =>
    (slot.entry_tells own).bind fun _ => ClosedPocket.ofDraft_tells _

theorem openPocket_tells : (slot.openPocket part).Tells slot.index :=
  (slot.task_tells own).bind fun _ =>
    (slot.stepping_tells own).bind fun _ =>
    (slot.path_tells own).bind fun _ =>
    (Part.number?_tells own (by decide)).bind fun _ => OpenPocket.ofDraft_tells _

theorem ofKind_tells (kind : OperationKind) : (slot.ofKind part kind).Tells slot.index := by
  cases kind with
  | drill => exact (slot.drill_tells own).map
  | contour => exact (slot.contour_tells own).map
  | closedPocket => exact (slot.closedPocket_tells own).map
  | openPocket => exact (slot.openPocket_tells own).map

end Slot

namespace Operation

theorem ofJson_tells (index : Int) (given : Json) : (ofJson index given).Tells index := by
  have own : (Place.operation index).operation? = some index := rfl
  cases given with
  | object members =>
      rw [ofJson]
      cases OperationKind.ofMembers? members with
      | none => exact tells_rejected (JobFault.complaint_unknownKind own (by decide) _)
      | some kind =>
          have own' : (Part.mk (.operation index) members).place.operation? = some index := own
          exact (Slot.ofKind_tells ⟨index⟩ own' kind).inJob own
  | _ => exact tells_rejected (JobFault.complaint_notAnObject own)

/-- It is read, or turned down by faults of the job. -/
def IsJudged (index : Nat) (given : Json) : Prop :=
  (∃ operation, ofJson index given = .ok operation) ∨
    ∃ faults, ofJson index given = .error (.rejected faults)

def complaint? (index : Nat) (given : Json) : Option String :=
  match ofJson index given with
  | .ok _ => none
  | .error fault => some fault.message

theorem complaint?_eq_none_iff {index : Nat} {given : Json} :
    complaint? index given = none ↔ ∃ operation, ofJson index given = .ok operation := by
  rw [complaint?]
  cases ofJson index given <;> simp

theorem complaint?_of_rejected {index : Nat} {given : Json} {faults : List JobFault}
    (rejected : ofJson index given = .error (.rejected faults)) :
    ∃ fault : JobFault, faults = [fault] ∧ Complaint index fault.message ∧
      complaint? index given = some fault.message := by
  obtain ⟨fault, rfl, told⟩ := (ofJson_tells index given).fault _ rejected
  refine ⟨fault, rfl, told, ?_⟩
  simp [complaint?, rejected, Fault.message]

theorem complaint_of_judged {index : Nat} {given : Json} (judged : IsJudged index given)
    {message : String} (told : complaint? index given = some message) :
    Complaint index message := by
  rcases judged with read | ⟨faults, rejected⟩
  · rw [complaint?_eq_none_iff.mpr read] at told
    cases told
  · obtain ⟨fault, -, complaint, same⟩ := complaint?_of_rejected rejected
    rw [same] at told
    cases told
    exact complaint

/-! ## All operations of a job -/

def complaints (index : Nat) (given : List Json) : List String :=
  (given.zipIdx index).filterMap fun entry => complaint? entry.2 entry.1

theorem complaints_cons (index : Nat) (value : Json) (rest : List Json) :
    complaints index (value :: rest) =
      (complaint? index value).toList ++ complaints (index + 1) rest := by
  rw [complaints, List.zipIdx_cons, List.filterMap_cons]
  cases complaint? index value <;> rfl

theorem complaints_eq_nil_iff {index : Nat} {given : List Json} :
    complaints index given = [] ↔
      ∀ entry ∈ given.zipIdx index, ∃ operation, ofJson entry.2 entry.1 = .ok operation := by
  rw [complaints, List.filterMap_eq_nil_iff]
  exact forall₂_congr fun _ _ => complaint?_eq_none_iff

theorem mem_complaints {index : Nat} {given : List Json}
    (judged : ∀ entry ∈ given.zipIdx index, IsJudged entry.2 entry.1) {message : String}
    (mem : message ∈ complaints index given) : ∃ n : Nat, Complaint n message := by
  obtain ⟨entry, among, told⟩ := List.mem_filterMap.mp mem
  exact ⟨entry.2, complaint_of_judged (judged entry among) told⟩

theorem listOfJson_of_judged {index : Nat} {given : List Json}
    (judged : ∀ entry ∈ given.zipIdx index, IsJudged entry.2 entry.1) :
    (∃ operations, listOfJson index given = .ok operations ∧ complaints index given = []) ∨
    ∃ faults, faults ≠ [] ∧ listOfJson index given = .error (.rejected faults) ∧
      faults.map JobFault.message = complaints index given := by
  induction given generalizing index with
  | nil => exact .inl ⟨[], rfl, rfl⟩
  | cons value rest ih =>
      have next : (index : Int) + 1 = ((index + 1 : Nat) : Int) := rfl
      simp only [List.zipIdx_cons, List.forall_mem_cons] at judged
      rw [listOfJson, next, complaints_cons]
      rcases judged.1 with ⟨operation, here⟩ | ⟨faults, here⟩
      · rw [complaint?_eq_none_iff.mpr ⟨operation, here⟩, here]
        rcases ih judged.2 with ⟨operations, later, silent⟩ | ⟨faults, nonempty, later, told⟩
        · rw [later, silent]
          exact .inl ⟨_, rfl, rfl⟩
        · rw [later]
          exact .inr ⟨faults, nonempty, rfl, told⟩
      · obtain ⟨fault, rfl, -, told⟩ := complaint?_of_rejected here
        rw [told, here]
        refine .inr ?_
        rcases ih judged.2 with ⟨operations, later, silent⟩ | ⟨faults, -, later, told'⟩
        · rw [later, silent]
          exact ⟨[fault], List.cons_ne_nil _ _, rfl, rfl⟩
        · rw [later, ← told']
          exact ⟨fault :: faults, List.cons_ne_nil _ _, rfl, rfl⟩

end Operation

end Millwork
