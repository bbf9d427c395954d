import DuplicateGuard.CommandLine.Commands
import Std.Time.DateTime.Timestamp

set_option autoImplicit false

namespace DuplicateGuard.Program

/-- The operating system's number for a directory in place of a file. -/
def directoryCode : UInt32 := 21

def addPlace (disk : Disk) (path : String) : IO Disk := do
  try
    return disk.put path (.ofText (← IO.FS.readFile path))
  catch failure =>
    match failure with
    | .inappropriateType _ code _ =>
      return if code = directoryCode then disk.putDirectory path else disk
    | _ => return disk

def pathsOf (environment : Settings.Environment) (words : List String) : List String :=
  match Invocation.read environment words with
  | .ok (some invocation) =>
    (Disk.databasePath invocation.databasePath :: invocation.command.paths).flatMap fun path =>
      [Disk.parent path, path]
  | _ => []

def writeFiles (before : Disk) : Disk → IO Unit
  | [] => return
  | (path, content) :: rest => do
    if (Keyed.find? path before).map FileContent.asText ≠ some content.asText then
      IO.FS.writeFile path content.asText
    writeFiles before rest

def environmentNames : List String :=
  Invocation.databaseVariable :: Settings.actionVariable :: Settings.switches.map Prod.fst

def readEnvironment : List String → IO Settings.Environment
  | [] => return []
  | name :: rest => do
    let others ← readEnvironment rest
    match ← IO.getEnv name with
    | some value => return (name, value) :: others
    | none => return others

def clock : IO Timestamp := do
  let now ← Std.Time.Timestamp.now
  let micros := now.toNanosecondsSinceUnixEpoch.val.fdiv 1000
  match CivilTime.ofMicros? (Instant.epochMicros + micros) with
  | some reading => return { reading := reading, offset := some 0 }
  | none => throw (IO.userError "the clock has left the calendar")

end DuplicateGuard.Program

open DuplicateGuard in
def main (words : List String) : IO UInt32 := do
  let environment ← Program.readEnvironment Program.environmentNames
  let disk ← (Program.pathsOf environment words).foldlM Program.addPlace ([] : Disk)
  let session : Session :=
    { disk := disk
      clock := ← Program.clock
      environment := environment
      numbered := ← IO.rand 0 (twoTo 127)
      rowOrder := .found }
  match session.interpret words with
  | .error failure =>
    IO.eprintln failure.text
    return 1
  | .ok (ending, after) =>
    IO.print after.printed
    Program.writeFiles disk after.disk
    match ending with
    | .code code | .exit code => return UInt32.ofNat code
