import Millwork.Proofs.Controller.View

namespace Millwork

/-! ## Grammar -/

/-- Words for some of the letters, in the order of these: each a letter and a plain decimal. -/
inductive WordTexts : List String → List String → Prop
  | nil : WordTexts [] []
  | skip {letter : String} {letters words : List String} :
      WordTexts letters words → WordTexts (letter :: letters) words
  | word {letter : String} {letters words : List String} (operand : PlainDecimal) :
      WordTexts letters words → WordTexts (letter :: letters) ((letter ++ operand.text) :: words)

inductive CommandText (spelling : Spelling) : String → Prop
  | setting {text : String} :
      text ∈ ["G90", "G21", "G40", "M5", "M30"] → CommandText spelling text
  | valued {code : String} (operand : PlainDecimal) :
      code ∈ ["M3 S", "G41 D", "G42 D"] → CommandText spelling (code ++ operand.text)
  | rapid {axes : List String} :
      WordTexts ["X", "Y", "Z"] axes → axes ≠ [] →
      CommandText spelling (" ".intercalate (spelling.rapid :: axes))
  | linear {axes : List String} (feed : PlainDecimal) :
      WordTexts ["X", "Y", "Z"] axes → axes ≠ [] →
      CommandText spelling (" ".intercalate (spelling.linear :: axes ++ ["F" ++ feed.text]))

/-- Between its marks a comment may hold anything, except that round brackets hold no brackets. -/
inductive CommentText (style : CommentStyle) : String → Prop
  | marked {body : String} :
      (style = .brackets → '(' ∉ body.toList ∧ ')' ∉ body.toList) →
      CommentText style (style.opening ++ body ++ style.closing)

inductive LineText (spelling : Spelling) : String → Prop
  | empty : LineText spelling ""
  | comment {text : String} : CommentText spelling.comments text → LineText spelling text
  | command {text : String} : CommandText spelling text → LineText spelling text
  | annotated {text note : String} :
      CommandText spelling text → spelling.inlineComments = true →
      CommentText spelling.comments note → LineText spelling (text ++ " " ++ note)

/-! ## Comments -/

theorem CommentStyle.not_mem_body (text : String) :
    '(' ∉ brackets.body text ∧ ')' ∉ brackets.body text := by
  constructor <;> intro mem
  · obtain ⟨c, -, same⟩ := List.mem_map.mp mem
    exact (squareBracket_ne c).1 same
  · obtain ⟨c, -, same⟩ := List.mem_map.mp mem
    exact (squareBracket_ne c).2 same

theorem Spelling.commentText (spelling : Spelling) (text : String) :
    CommentText spelling.comments (spelling.comment text) := by
  apply CommentText.marked
  intro brackets
  rw [brackets, String.toList_ofList]
  exact CommentStyle.not_mem_body text

/-! ## Commands -/

structure Target.Sound (target : Target) : Prop where
  nonempty : target ≠ ⟨none, none, none⟩
  x : ∀ a ∈ target.x, a.isFinite = true
  y : ∀ a ∈ target.y, a.isFinite = true
  z : ∀ a ∈ target.z, a.isFinite = true

namespace Target

theorem sound_height {z : Double} (finite : z.isFinite = true) : (height z).Sound where
  nonempty := by simp [height]
  x := by simp [height]
  y := by simp [height]
  z := by simpa [height]

theorem sound_position {x y : Double} (finite : x.isFinite = true) (finite' : y.isFinite = true) :
    (position x y).Sound where
  nonempty := by simp [position]
  x := by simpa [position]
  y := by simpa [position]
  z := by simp [position]

theorem Sound.wordTexts {target : Target} (sound : target.Sound) :
    WordTexts ["X", "Y", "Z"] target.words ∧ target.words ≠ [] := by
  have word (letter : String) {letters words : List String} (operand : Option Double)
      (finite : ∀ a ∈ operand, a.isFinite = true) (rest : WordTexts letters words) :
      WordTexts (letter :: letters)
        ((operand.toList.map fun a => letter ++ a.operand) ++ words) := by
    cases operand with
    | none => exact .skip rest
    | some a =>
        obtain ⟨decimal, same⟩ := Double.exists_plainDecimal (finite a rfl)
        simpa [same] using WordTexts.word decimal rest
  constructor
  · have all := word "X" target.x sound.x <| word "Y" target.y sound.y <|
      word "Z" target.z sound.z .nil
    simpa [words] using all
  · intro silent
    apply sound.nonempty
    obtain ⟨x, y, z⟩ := target
    simpa [words] using silent

end Target

def Command.Sound : Command → Prop
  | rapid target => target.Sound
  | linear target feed => target.Sound ∧ ∃ rate, feed = some rate ∧ rate.isFinite = true
  | startSpindle speed => speed.isFinite = true
  | compensate _ diameter => diameter.isFinite = true
  | _ => True

theorem Command.Sound.commandText {command : Command} (sound : command.Sound)
    (spelling : Spelling) : CommandText spelling (command.text spelling) := by
  cases command with
  | rapid target => exact .rapid sound.wordTexts.1 sound.wordTexts.2
  | linear target feed =>
      obtain ⟨moves, rate, rfl, finite⟩ := sound
      obtain ⟨decimal, same⟩ := Double.exists_plainDecimal finite
      have fed : (some rate).toList.map ("F" ++ ·.operand) = ["F" ++ decimal.text] :=
        congrArg (fun operand => ["F" ++ operand]) same
      rw [text, fed]
      exact .linear decimal moves.wordTexts.1 moves.wordTexts.2
  | startSpindle speed =>
      obtain ⟨decimal, same⟩ := Double.exists_plainDecimal sound
      rw [text, same]
      exact .valued decimal (by simp)
  | compensate side diameter =>
      obtain ⟨decimal, same⟩ := Double.exists_plainDecimal sound
      cases side <;>
        · simp only [text, same]
          exact .valued decimal (by simp)
  | _ => exact .setting (by simp [text])

end Millwork
