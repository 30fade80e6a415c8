import Millwork.Machine.Profile

namespace Millwork

structure Settings where
  secretKey : String
  /-- The key that requests have to show, if one is asked for. -/
  apiKey : Option String
  logLevel : String
  outputDirectory : String
  dialect : String
  safeHeight : Double
  spindleSpeed : Double
  feedRate : Double
  plungeRate : Double
  toolCompensation : String
  toolRates : String
  maxContentLength : Int

namespace Settings

def ofEnvironment (environment : String → Option String) : Except Unreadable Settings := do
  let text (name default : String) : String := (environment name).getD default
  let double (name : String) (default : Nat) : Except Unreadable Double :=
    match environment name with
    | none => return .ofInt default
    | some numeral =>
      match Numeral.double? numeral with
      | some x => return x
      | none => throw (.numeral numeral)
  let safeHeight ← double "MACHINE_SAFE_HEIGHT" 10
  let spindleSpeed ← double "MACHINE_SPINDLE_SPEED" 18000
  let feedRate ← double "MACHINE_FEED_RATE" 800
  let plungeRate ← double "MACHINE_PLUNGE_RATE" 300
  let maxContentLength ← match environment "MAX_CONTENT_LENGTH" with
    | none => pure (2 * 1024 * 1024)
    | some numeral =>
      match Numeral.whole numeral with
      | .ok n => pure n
      | .error .malformed => throw (.wholeNumeral numeral)
      | .error (.overlong digits) => throw (.overlong digits)
  return {
    secretKey := text "SECRET_KEY" "dev-key-change-in-production"
    apiKey := environment "API_KEY"
    logLevel := text "LOG_LEVEL" "INFO"
    outputDirectory := text "OUTPUT_DIR" "output"
    dialect := text "MACHINE_DIALECT" "generic"
    safeHeight, spindleSpeed, feedRate, plungeRate
    toolCompensation := text "MACHINE_USE_TOOL_COMPENSATION" "false"
    toolRates := text "MACHINE_USE_TOOL_RATES" "true"
    maxContentLength }

def toMembers (settings : Settings) : Json.Members :=
  let double (x : Double) : Json := .number (.double x)
  [("SECRET_KEY", .text settings.secretKey),
    ("API_KEY", .ofOption (settings.apiKey.map .text)),
    ("LOG_LEVEL", .text settings.logLevel),
    ("OUTPUT_DIR", .text settings.outputDirectory),
    ("MACHINE_DIALECT", .text settings.dialect),
    ("MACHINE_SAFE_HEIGHT", double settings.safeHeight),
    ("MACHINE_SPINDLE_SPEED", double settings.spindleSpeed),
    ("MACHINE_FEED_RATE", double settings.feedRate),
    ("MACHINE_PLUNGE_RATE", double settings.plungeRate),
    ("MACHINE_USE_TOOL_COMPENSATION", .text settings.toolCompensation),
    ("MACHINE_USE_TOOL_RATES", .text settings.toolRates),
    ("MAX_CONTENT_LENGTH", .number (.whole settings.maxContentLength))]

def profile (settings : Settings) : Traced Profile := Profile.ofSettings settings.toMembers

end Settings

end Millwork
