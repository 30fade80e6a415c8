import Millwork.Machine.Dialect
import Millwork.Text.DecimalDigit
import Millwork.Text.Quoted

/-!
# Arguments of the command line

The command takes one job file and a few options. An option is written in full, by any beginning
of its long name that no other option shares, or by its letter; its value follows as the next
argument, behind an equals sign, or right behind the letter. Behind two hyphens nothing is an
option. Faults are found from left to right; missing and superfluous arguments come last.
-/

namespace Millwork

inductive CommandOption where
  | help
  | output
  | dialect
  | print
  deriving DecidableEq

namespace CommandOption

def all : List CommandOption := [help, output, dialect, print]

def longName : CommandOption → String
  | help => "--help"
  | output => "--output"
  | dialect => "--dialect"
  | print => "--print"

def letter? : CommandOption → Option Char
  | help => some 'h'
  | output => some 'o'
  | dialect | print => none

def takesValue : CommandOption → Bool
  | help | print => false
  | output | dialect => true

def title (option : CommandOption) : String :=
  match option.letter? with
  | some letter => s!"-{letter}/{option.longName}"
  | none => option.longName

end CommandOption

inductive UsageFault where
  | missingJobFile
  | unrecognized (arguments : List String)
  | missingValue (option : CommandOption)
  | superfluousValue (option : CommandOption) (value : String)
  | unknownDialect (value : String)
  | ambiguous (argument : String) (options : List CommandOption)

def UsageFault.message : UsageFault → String
  | missingJobFile => "the following arguments are required: job_file"
  | unrecognized arguments =>
    let words := " ".intercalate arguments
    s!"unrecognized arguments: {words}"
  | missingValue option => s!"argument {option.title}: expected one argument"
  | superfluousValue option value =>
    s!"argument {option.title}: ignored explicit argument {Text.quoted value}"
  | unknownDialect value =>
    let words := ", ".intercalate (Dialect.all.map fun dialect => Text.quoted dialect.word)
    s!"argument --dialect: invalid choice: {Text.quoted value} (choose from {words})"
  | ambiguous argument options =>
    let names := ", ".intercalate (options.map CommandOption.longName)
    s!"ambiguous option: {argument} could match {names}"

/-! ## Kinds of argument -/

inductive ArgumentKind where
  | operand
  | separator
  | named (option : CommandOption) (value : Option String)
  /-- A letter of an option, with its value or further letters behind it or behind an equals
  sign. -/
  | lettered (option : CommandOption) (behind : List Char)
  | unknown

namespace ArgumentKind

def splitValue (text : List Char) : List Char × Option String :=
  let name := text.takeWhile (· != '=')
  match text.dropWhile (· != '=') with
  | _ :: value => (name, some (.ofList value))
  | [] => (name, none)

def dropLineFeed (text : List Char) : List Char :=
  if text.getLast? = some '\n' then text.dropLast else text

/-- Whether a text is a negative number without an exponent; one line feed may end it. -/
def isNegativeNumber (text : List Char) : Bool :=
  let isDigit (c : Char) : Bool := (Text.digit? c).isSome
  let digits (text : List Char) : Bool := !text.isEmpty && text.all isDigit
  match dropLineFeed text with
  | '-' :: rest =>
    digits rest || match rest.dropWhile isDigit with
      | '.' :: fraction => digits fraction
      | _ => false
  | _ => false

def ofOther (text : List Char) : ArgumentKind :=
  if isNegativeNumber text || text.contains ' ' then operand else unknown

def ofLong (text : List Char) : Except UsageFault ArgumentKind :=
  let (name, value) := splitValue text
  let exact (name : List Char) := CommandOption.all.find? (·.longName.toList == name)
  match exact text, exact name with
  | some option, _ => .ok (named option none)
  | none, some option => .ok (named option value)
  | none, none =>
    match CommandOption.all.filter fun option => name.isPrefixOf option.longName.toList with
    | [] => .ok (ofOther text)
    | [option] => .ok (named option value)
    | options => .error (.ambiguous (.ofList text) options)

def ofLetters (letter : Char) (behind : List Char) : ArgumentKind :=
  match CommandOption.all.find? (·.letter? == some letter) with
  | some option =>
    match behind with
    | ['='] => named option (some "")
    | '=' :: value => lettered option value
    | behind => lettered option behind
  | none => ofOther ('-' :: letter :: behind)

def ofArgument (text : String) : Except UsageFault ArgumentKind :=
  match text.toList with
  | ['-', '-'] => .ok separator
  | '-' :: '-' :: rest => ofLong ('-' :: '-' :: rest)
  | '-' :: letter :: behind => .ok (ofLetters letter behind)
  | _ => .ok operand

def ofArguments : List String → Except UsageFault (List (String × ArgumentKind))
  | [] => .ok []
  | text :: rest => do
    match ← ofArgument text with
    | separator => return (text, separator) :: rest.map (·, operand)
    | kind => return (text, kind) :: (← ofArguments rest)

end ArgumentKind

/-! ## Reading -/

structure Arguments where
  jobFile : Option String
  output : Option String
  dialect : Option Dialect
  print : Bool
  superfluous : List String

namespace Arguments

def empty : Arguments := ⟨none, none, none, false, []⟩

inductive Stop where
  | help
  | fault (fault : UsageFault)

def apply (arguments : Arguments) (option : CommandOption) (value : String) :
    Except Stop Arguments :=
  match option with
  | .help => .error .help
  | .print => .ok { arguments with print := true }
  | .output => .ok { arguments with output := some value }
  | .dialect =>
    match Choice.ofWord? value with
    | some dialect => .ok { arguments with dialect := some dialect }
    | none => .error (.fault (.unknownDialect value))

def followingValue (option : CommandOption) (rest : List (String × ArgumentKind)) :
    Except Stop (String × List (String × ArgumentKind)) :=
  match rest with
  | (value, .operand) :: rest => .ok (value, rest)
  | _ => .error (.fault (.missingValue option))

/-- Letters behind that of an option without a value: further options, up to one that takes what
is behind it. What starts with a letter of no option is a superfluous value. -/
def letters (option : CommandOption) (rest : List (String × ArgumentKind)) :
    List Char → Except Stop Unit
  | [] => .ok ()
  | letter :: behind =>
    match CommandOption.all.find? (·.letter? == some letter) with
    | none => .error (.fault (.superfluousValue option (.ofList (letter :: behind))))
    | some next =>
      if next.takesValue then
        if behind.isEmpty then (followingValue next rest).map fun _ => () else .ok ()
      else letters next rest behind

def takeOption (arguments : Arguments) (kind : ArgumentKind) (text : String)
    (rest : List (String × ArgumentKind)) :
    Except Stop (Arguments × List (String × ArgumentKind)) :=
  let take (option : CommandOption) (value : Option String) := do
    if option.takesValue then
      match value with
      | some value => return (← arguments.apply option value, rest)
      | none =>
        let (value, rest) ← followingValue option rest
        return (← arguments.apply option value, rest)
    else
      match value with
      | some value => throw (.fault (.superfluousValue option value))
      | none => return (← arguments.apply option "", rest)
  match kind with
  | .named option value => take option value
  | .lettered option behind =>
    if behind.isEmpty then take option none
    else if option.takesValue then take option (some (.ofList behind))
    else do
      letters option rest behind
      return (← arguments.apply option "", rest)
  | _ => .ok ({ arguments with superfluous := arguments.superfluous ++ [text] }, rest)

/-- The arguments from here on. The first operand is the job file, with two hyphens beside it. -/
def read (arguments : Arguments) :
    (fuel : Nat) → List (String × ArgumentKind) → Except Stop Arguments
  | 0, _ | _, [] => .ok arguments
  | fuel + 1, (text, kind) :: rest =>
    match kind, arguments.jobFile, rest with
    | .operand, none, (_, .separator) :: rest | .operand, none, rest
    | .separator, none, (text, .operand) :: rest =>
      read { arguments with jobFile := some text } fuel rest
    | .operand, _, _ | .separator, _, _ =>
      read { arguments with superfluous := arguments.superfluous ++ [text] } fuel rest
    | _, _, _ => do
      let (arguments, rest) ← arguments.takeOption kind text rest
      read arguments fuel rest

end Arguments

structure Order where
  jobFile : String
  output : Option String
  dialect : Option Dialect
  print : Bool

def Order.ofArguments (given : List String) : Except Arguments.Stop Order := do
  let kinds ← (ArgumentKind.ofArguments given).mapError .fault
  let arguments ← Arguments.empty.read given.length kinds
  match arguments.jobFile with
  | none => throw (.fault .missingJobFile)
  | some jobFile =>
    if arguments.superfluous.isEmpty then
      return ⟨jobFile, arguments.output, arguments.dialect, arguments.print⟩
    else throw (.fault (.unrecognized arguments.superfluous))

end Millwork
