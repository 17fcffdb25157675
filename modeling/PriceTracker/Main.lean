import PriceTracker.CommandLine.Answer
import PriceTracker.Storage.Archive
import Std.Time

/-!
# The program

Reads the environment and the files that the arguments name, and prints the answer. The database is
kept in a file in its written form. The program has no network, so a crawl finds no page.
-/

namespace PriceTracker.Program

open CommandLine (Answer Surroundings)
open Storage (Database DatabaseFault)

/-- The bytes of a file, if it can be read. -/
def bytesOf? (path : String) : IO (Option (List UInt8)) := do
  try
    return some (← IO.FS.readBinFile path).toList
  catch _ =>
    return none

/-- The file of environment variables in the working directory or the nearest one above it. -/
def environmentFile? : IO (Option (List UInt8)) := do
  for depth in List.range 64 do
    let path := String.join (List.replicate depth "../") ++ ".env"
    if let some bytes ← bytesOf? path then
      return some bytes
  return none

/-- The variables of the environment under given names. -/
def environmentOf (names : List String) : IO Environment := do
  let mut entries := []
  for name in names.eraseDups do
    if let some value ← IO.getEnv name then
      entries := entries ++ [(name, value)]
  return { entries }

/-- The day on the calendar of the machine. -/
def today : IO Date := do
  let now ← Std.Time.PlainDate.now
  match Date.ofNumbers? now.year.toInt now.month.val.toNat now.day.val.toNat with
  | some day => return day
  | none => throw (IO.userError "the calendar of the machine is out of range")

/-- The database of a connection; a file that is not there is an empty one. -/
def databaseOf (connection : String) : IO (Except DatabaseFault Database) := do
  if connection == ":memory:" then return .ok {}
  match ← bytesOf? connection with
  | some bytes =>
    match (Text.Utf8.decode? bytes).bind fun cs => Database.read? (String.ofList cs) with
    | some database => return .ok database
    | none => return .error (.cannotOpen connection)
  | none =>
    try
      IO.FS.writeFile connection ""
      return .ok {}
    catch _ =>
      return .error (.cannotOpen connection)

/-- Keeps a database under its connection. -/
def keep (connection : String) (database : Database) : IO Unit := do
  if connection != ":memory:" then
    IO.FS.writeFile connection database.written

/-- All that the arguments lead to, with the files that they name. -/
def surroundings (arguments : List String) : IO Surroundings := do
  let environmentFile ← environmentFile?
  let mentioned := (environmentFile.map Environment.mentionedNames).getD []
  let environment ← environmentOf ([Settings.connectionVariable, Settings.productTableVariable,
    Settings.priceTableVariable] ++ mentioned)
  let offline : Surroundings := {
    environment
    environmentFile
    database := fun connection => .error (.cannotOpen connection)
    site := .offline
    day := ← today }
  match CommandLine.readArguments arguments with
  | .ok (.run options) =>
    let content ← match options.settingsFile with
      | some path => bytesOf? path
      | none => pure none
    let w := { offline with file := fun _ => content }
    match Settings.load (w.sources options) with
    | .ok settings =>
      if options.dryRun then return w
      let database ← databaseOf settings.database.connection
      return { w with database := fun _ => database }
    | .error _ => return w
  | _ => return offline

end PriceTracker.Program

open PriceTracker in
/-- Answers the arguments. -/
def main (arguments : List String) : IO UInt32 := do
  let (answer, left) := CommandLine.answer arguments (← Program.surroundings arguments)
  if let some (connection, database) := left then
    Program.keep connection database
  IO.print answer.output
  for line in answer.errors do
    IO.eprintln line
  return UInt32.ofNat answer.exitCode
