import Millwork.Text.Basic

/-!
# Spelling of commands and comments

Controllers differ in how they write the two kinds of move, in how they mark a comment, and in
whether a comment may follow a command on its line.

A comment is one line. `CommentStyle.body` replaces every run of control characters by one blank,
takes the blanks off both ends, and turns round brackets into square ones where a comment stands
between round brackets.
-/

namespace Millwork

inductive CommentStyle where
  /-- From a semicolon to the end of the line. -/
  | semicolon
  /-- Between round brackets. -/
  | brackets
  deriving DecidableEq

namespace CommentStyle

def opening : CommentStyle → String
  | semicolon => "; "
  | brackets => "("

def closing : CommentStyle → String
  | semicolon => ""
  | brackets => ")"

end CommentStyle

structure Spelling where
  rapid : String
  linear : String
  comments : CommentStyle
  inlineComments : Bool
  banner : Option String

/-- The text with one blank for every run of control characters. -/
def flatten : List Char → List Char
  | [] => []
  | c :: rest =>
    if !Text.isControl c then c :: flatten rest
    else if rest.head?.any Text.isControl then flatten rest
    else ' ' :: flatten rest

def squareBracket : Char → Char
  | '(' => '['
  | ')' => ']'
  | c => c

def CommentStyle.body (style : CommentStyle) (text : String) : List Char :=
  let line := Text.trim (flatten text.toList)
  match style with
  | semicolon => line
  | brackets => line.map squareBracket

namespace Spelling

def comment (spelling : Spelling) (text : String) : String :=
  spelling.comments.opening ++ .ofList (spelling.comments.body text) ++ spelling.comments.closing

def annotated (spelling : Spelling) (command : String) (note : Option String) : String :=
  match note with
  | some text =>
    if !text.isEmpty && spelling.inlineComments then command ++ " " ++ spelling.comment text
    else command
  | none => command

end Spelling

end Millwork
