import Millwork.CommandLine.Run
import Std.Time.DateTime.PlainDateTime
import Std.Time.DateTime.Timestamp

namespace Millwork

def settingNames : List String :=
  ["SECRET_KEY", "API_KEY", "LOG_LEVEL", "OUTPUT_DIR", "MACHINE_DIALECT", "MACHINE_SAFE_HEIGHT",
    "MACHINE_SPINDLE_SPEED", "MACHINE_FEED_RATE", "MACHINE_PLUNGE_RATE",
    "MACHINE_USE_TOOL_COMPENSATION", "MACHINE_USE_TOOL_RATES", "MAX_CONTENT_LENGTH"]

def readSettings : IO (Except Unreadable Settings) := do
  let found ← settingNames.filterMapM fun name => do
    return (← IO.getEnv name).map (name, ·)
  return Settings.ofEnvironment fun name => found.lookup name

def readClock : IO Timestamp := do
  let now ← Std.Time.Timestamp.now
  let wall := Std.Time.WallTime.ofNanoseconds now.toNanosecondsSinceUnixEpoch
  let moment := Std.Time.PlainDateTime.ofWallTime wall
  return {
    year := moment.date.year.toInt.toNat
    month := moment.date.month.val.toNat
    day := moment.date.day.val.toNat
    hour := moment.time.hour.val.toNat
    minute := moment.time.minute.val.toNat
    second := moment.time.second.val.toNat
    microsecond := moment.time.nanosecond.val.toNat / 1000 }

/-- The number of a fault of the system, as far as paths cause it. It may come with a minus sign. -/
def systemNumber? : IO.Error → Option Nat
  | .noFileOrDirectory _ number _ | .alreadyExists _ number _ | .inappropriateType _ number _
  | .invalidArgument _ number _ => some number.toInt32.toInt.natAbs
  | _ => none

def fileFault? (path : String) (error : IO.Error) : Option FileFault := do
  let number ← systemNumber? error
  let cause ← FileFault.Cause.all.find? (·.number == number)
  return .refused cause path

def attempt {α : Type} (path : String) (action : IO α) : IO (Except FileFault α) := do
  if path.contains '\x00' then return .error .zeroCharacter
  try return .ok (← action)
  catch error =>
    match fileFault? path error with
    | some fault => return .error fault
    | none => throw error

def readJobFile (path : String) : IO JobFile := attempt path do
  let octets ← IO.FS.readBinFile path
  return octets.toList.map UInt8.toNat

def writeFile (path text : String) : IO (Except FileFault Unit) := do
  let directory := FilePath.directory path
  let made ← attempt directory do
    if !directory.isEmpty then IO.FS.createDirAll directory
  match made with
  | .error fault => return .error fault
  | .ok () => attempt path (IO.FS.writeFile path text)

def Outcome.perform (outcome : Outcome) : IO UInt32 := do
  let outcome ← match outcome.file with
    | none => pure outcome
    | some (path, text) =>
      match ← writeFile path text with
      | .ok () => pure outcome
      | .error fault => pure (outcome.unwritten fault)
  IO.print outcome.output
  IO.eprint (outcome.log ++ outcome.errors)
  match outcome.ending with
  | .exit code => return code.toUInt32
  | .failure failure =>
    IO.eprintln failure.message
    return 1

end Millwork

open Millwork

def main (arguments : List String) : IO UInt32 := do
  match ← readSettings with
  | .error cause =>
    IO.eprintln cause.message
    return 1
  | .ok settings =>
    match Order.ofArguments arguments with
    | .error stop => stop.outcome.perform
    | .ok order =>
      let directory ← IO.currentDir
      let file ← readJobFile order.jobFile
      (order.run settings directory.toString file (← readClock)).perform
