/-!
# Blanks, line ends, trimming and letters

`isBlank` is the white space that trimming removes: the characters with the Unicode property
White_Space and the four information separators U+001C to U+001F. `isLineEnd` are those of them at
which a text is split into lines, and `isControl` the ASCII control characters. Words are compared
in lower case or in capitals, as far as these are ASCII.
-/

namespace Millwork.Text

def inRanges (ranges : List (Nat × Nat)) (c : Char) : Bool :=
  ranges.any fun range => range.1 ≤ c.toNat && c.toNat ≤ range.2

def blankRanges : List (Nat × Nat) :=
  [(0x09, 0x0D), (0x1C, 0x20), (0x85, 0x85), (0xA0, 0xA0), (0x1680, 0x1680), (0x2000, 0x200A),
    (0x2028, 0x2029), (0x202F, 0x202F), (0x205F, 0x205F), (0x3000, 0x3000)]

def isBlank (c : Char) : Bool := inRanges blankRanges c

theorem isBlank_of_isWhitespace {c : Char} (white : c.isWhitespace = true) : isBlank c = true := by
  simp only [Char.isWhitespace, Bool.or_eq_true, decide_eq_true_eq] at white
  rcases white with ((space | tab) | ret) | feed <;> subst_vars <;> decide

def lineEndRanges : List (Nat × Nat) :=
  [(0x0A, 0x0D), (0x1C, 0x1E), (0x85, 0x85), (0x2028, 0x2029)]

def isLineEnd (c : Char) : Bool := inRanges lineEndRanges c

def isControl (c : Char) : Bool := c.toNat < 0x20 || c.toNat == 0x7F

/-! ## Trimming and splitting -/

def trim (text : List Char) : List Char :=
  ((text.dropWhile isBlank).reverse.dropWhile isBlank).reverse

def after? : List Char → List Char → Option (List Char)
  | [], text => some text
  | c :: word, d :: text => if c = d then after? word text else none
  | _ :: _, [] => none

/-- The text without the line end at its front; carriage return and line feed together are one. -/
def dropLineEnd : List Char → List Char
  | '\r' :: '\n' :: rest => rest
  | _ :: rest => rest
  | [] => []

theorem length_dropLineEnd_le (text : List Char) : (dropLineEnd text).length ≤ text.length - 1 := by
  unfold dropLineEnd
  split <;> simp

/-- The lines of a text, without their ends. A line end at the very end opens no further line. -/
def lines : List Char → List (List Char)
  | [] => []
  | c :: text =>
    (c :: text).takeWhile (!isLineEnd ·) ::
      lines (dropLineEnd ((c :: text).dropWhile (!isLineEnd ·)))
termination_by text => text.length
decreasing_by
  have shorter := length_dropLineEnd_le ((c :: text).dropWhile (!isLineEnd ·))
  have dropped := ((c :: text).dropWhile_sublist (!isLineEnd ·)).length_le
  simp only [List.length_cons] at *
  omega

/-- ASCII letters in lower case. Beyond ASCII nothing is changed: the words compared this way hold
no letter that another script lowers to. -/
def lower (text : List Char) : List Char := text.map Char.toLower

/-- A letter in capitals. Of the letters beyond ASCII only those are changed whose capitals are
ASCII: the words compared this way hold no others. -/
def capital : Char → List Char
  | 'ß' => ['S', 'S']
  | 'ı' => ['I']
  | 'ſ' => ['S']
  | 'ﬀ' => ['F', 'F']
  | 'ﬁ' => ['F', 'I']
  | 'ﬂ' => ['F', 'L']
  | 'ﬃ' => ['F', 'F', 'I']
  | 'ﬄ' => ['F', 'F', 'L']
  | 'ﬅ' | 'ﬆ' => ['S', 'T']
  | c => [c.toUpper]

def capitals (text : List Char) : List Char := text.flatMap capital

end Millwork.Text
