import Millwork.Given.Quantity

namespace Millwork

inductive Origin where
  | bottomLeft
  | bottomRight
  | topLeft
  | topRight
  | center
  deriving DecidableEq

namespace Origin

def all : List Origin := [bottomLeft, bottomRight, topLeft, topRight, center]

def word : Origin → String
  | bottomLeft => "bottom_left"
  | bottomRight => "bottom_right"
  | topLeft => "top_left"
  | topRight => "top_right"
  | center => "center"

def title : Origin → String
  | bottomLeft => "bottom left corner"
  | bottomRight => "bottom right corner"
  | topLeft => "top left corner"
  | topRight => "top right corner"
  | center => "center"

end Origin

inductive Face where
  | top
  | bottom
  deriving DecidableEq

namespace Face

def all : List Face := [top, bottom]

def word : Face → String
  | top => "top"
  | bottom => "bottom"

end Face

structure Panel where
  name : String
  length : PositiveNumber
  width : PositiveNumber
  thickness : PositiveNumber
  material : String
  origin : Origin
  face : Face
  zOffset : FiniteNumber
  deriving DecidableEq

namespace Panel

structure Draft where
  name : String
  length : Json
  width : Json
  thickness : Json
  material : String
  origin : Json
  face : Json
  zOffset : Json

def fromWords? {α : Type} (name : String) (all : List α) (word : α → String) (value : Json) :
    Except Refusal α :=
  let refusal := Refusal.panelWord name (all.map word) value
  match value with
  | .text given =>
    match all.find? (word · == given) with
    | some member => .ok member
    | none => .error refusal
  | _ => .error refusal

def ofDraft (draft : Draft) : Attempt Panel := do
  let length ← draft.length.positive? (.panel "length")
  let width ← draft.width.positive? (.panel "width")
  let thickness ← draft.thickness.positive? (.panel "thickness")
  let origin ← fromWords? "origin" Origin.all Origin.word draft.origin
  let face ← fromWords? "face" Face.all Face.word draft.face
  match ← draft.zOffset.finite? with
  | some zOffset =>
    return { name := draft.name, length, width, thickness, material := draft.material, origin, face,
             zOffset }
  | none => throw (.refused (.panelOffset draft.zOffset))

end Panel

end Millwork
