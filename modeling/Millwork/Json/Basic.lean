import Millwork.Number.Basic

namespace Millwork

inductive Json where
  | null
  | bool (value : Bool)
  | number (value : Number)
  | text (value : String)
  | list (items : List Json)
  | object (members : List (String × Json))

namespace Json

abbrev Members := List (String × Json)

def Members.get? (members : Members) (name : String) : Option Json := members.lookup name

def Members.given? (members : Members) (name : String) : Option Json :=
  match members.get? name with
  | some null => none
  | found => found

/-- The members with one set: in its old place, or at the end when it is new. -/
def Members.set (members : Members) (name : String) (value : Json) : Members :=
  match members with
  | [] => [(name, value)]
  | (other, old) :: rest =>
    if other = name then (name, value) :: rest else (other, old) :: set rest name value

/-- The members of one object after those of another, a repeated name in its first place with its
last value. -/
def Members.update (members later : Members) : Members :=
  later.foldl (fun members member => members.set member.1 member.2) members

theorem Members.get?_cons (member : String × Json) (members : Members) (name : String) :
    Members.get? (member :: members) name =
      if member.1 = name then some member.2 else members.get? name := by
  obtain ⟨first, value⟩ := member
  by_cases here : first = name
  · simp [get?, here]
  · have apart : (name == first) = false := beq_eq_false_iff_ne.2 (Ne.symm here)
    simp [get?, List.lookup_cons, here, apart]

theorem Members.get?_set (members : Members) (name : String) (value : Json) (other : String) :
    (members.set name value).get? other =
      if name = other then some value else members.get? other := by
  induction members with
  | nil => simp [set, get?_cons]
  | cons member rest ih =>
    obtain ⟨first, old⟩ := member
    by_cases here : first = name
    · subst here
      by_cases same : first = other <;> simp [set, get?_cons, same]
    · by_cases front : first = other
      · subst front
        simp [set, get?_cons, here, Ne.symm here]
      · simp [set, get?_cons, here, front, ih]

def isVoid : Json → Bool
  | null => true
  | bool value => !value
  | number value => value.place? = some (.units 0)
  | text value => value.isEmpty
  | list items => items.isEmpty
  | object members => members.isEmpty

instance : Coe Bool Json := ⟨bool⟩
instance : Coe Number Json := ⟨number⟩
instance : Coe String Json := ⟨text⟩

def ofOption : Option Json → Json
  | some value => value
  | none => null

end Json

end Millwork
