import Std.Time.DateTime
import TextArt.CommandLine.Run
import TextArt.Settings.Environment

/-!
# The program

Reads the settings, the command line and the files that it names, carries the command line out and
writes what has changed. All decisions are made by `CommandLine.Invocation.run`.
-/

open TextArt

namespace TextArt.Program

/-! ## Time and chance -/

/-- A number with leading zeros. -/
def digits (width n : Nat) : String :=
  let s := toString n
  String.ofList (List.replicate (width - s.length) '0') ++ s

/-- The time now, as records write it. -/
def timeNow : IO String := do
  let now ← Std.Time.Timestamp.now
  let t := (Std.Time.DateTime.ofTimestamp now Std.Time.TimeZone.ZoneRules.UTC).date.get
  let micros := t.time.nanosecond.val.toNat / 1000
  let part := if micros = 0 then "" else "." ++ digits 6 micros
  return digits 4 t.date.year.toInt.toNat ++ "-" ++ digits 2 t.date.month.val.toNat ++ "-"
    ++ digits 2 t.date.day.val.toNat ++ "T" ++ digits 2 t.time.hour.val.toNat ++ ":"
    ++ digits 2 t.time.minute.val.toNat ++ ":" ++ digits 2 t.time.second.val.toNat ++ part
    ++ "+00:00"

/-- Random bytes in five groups of hexadecimal digits; two of the digits say that they are
random. -/
def uniqueText : IO Text := do
  let bytes := (← IO.getRandomBytes 16).toList.map UInt8.toNat
  let marked := bytes.zipIdx.map fun (b, i) ↦
    if i = 6 then 0x40 + b % 0x10 else if i = 8 then 0x80 + b % 0x40 else b
  let hex := marked.flatMap (Text.Quoted.hexDigits 2)
  let group (start length : Nat) : Text := Text.ofList ((hex.drop start).take length)
  return Text.intercalate "-" [group 0 8, group 8 4, group 12 4, group 16 4, group 20 12]

/-- Random words, other ones for every fill. -/
def entropy : IO (Nat → List UInt32) := do
  let bytes := (← IO.getRandomBytes 16).toList
  let words := bytes.map fun b ↦ UInt32.ofNat b.toNat
  return fun i ↦ words ++ [UInt32.ofNat i]

/-! ## Files -/

/-- The locations that a path leads through, as far as the names tell. -/
def locations (current : Location) (p : Path) : List Location :=
  let start : Location := if p.start = .here then current else []
  (p.names.foldl (fun (l, visited) name ↦
    let l := if name = ".." then List.dropLast l else l ++ [Text.encodeName name]
    (l, visited ++ [l])) (start, [start])).2

/-- The text of a location, if its names are text. -/
def locationText? (l : Location) : Option String := do
  let names ← l.mapM fun name ↦ String.fromUTF8? ⟨name.toArray⟩
  some ("/" ++ "/".intercalate names)

/-- Takes what is at a location into a store. A file that is there and cannot be read is one that
the user may not read; what the user may not write is found out in writing. -/
def capture (s : FileStore) (l : Location) : IO FileStore := do
  match locationText? l with
  | none => return s
  | some text =>
    let p := (← IO.currentDir) / text
    if l.isEmpty then return s
    else if ← p.isDir then return s.put l .directory
    else if ← p.pathExists then
      try return s.put l (.file (← IO.FS.readBinFile p).toList)
      catch _ => return { s.put l (.file []) with denied := (l, .read) :: s.denied }
    else return s

/-- The part of the file system that some paths lead through. -/
def snapshot (paths : List Path) : IO FileStore := do
  let current := Location.of (Path.namesOf (Text.ofString (← IO.currentDir).toString).toList)
  (paths.flatMap (locations current)).foldlM capture (.empty current)

/-- Writes what a store holds and another one does not. -/
def writeChanges (old new : FileStore) : IO Unit := do
  for (l, e) in new.entries do
    if old.lookup? l != some e then
      match locationText? l, e with
      | none, _ => pure ()
      | some text, .directory => IO.FS.createDirAll text
      | some text, .file content => IO.FS.writeBinFile text ⟨content.toArray⟩

/-- The paths that an invocation reads or writes. -/
def pathsOf (settings : Settings) (unique : Text) (i : CommandLine.Invocation) : List Path :=
  i.paths ++ i.paths.map (settings.files.resolve unique)

/-! ## Settings -/

/-- The variables that settings are read from. -/
def variableNames : List String :=
  ["RENDER", "DEFAULT_CHAR", "STREAM_DELAY_MS", "DENSITY_RAMP", "DOTS_SEED", "EXPORT",
    "EXPORT_DIRECTORY", "EXPORT_EXTENSION", "LOG_LEVEL"].map ("ASCIIFORGE_" ++ ·)

/-- The variables that are set. -/
def environment : IO (List (Text × Text)) := do
  let found ← variableNames.mapM fun name ↦ return (name, ← IO.getEnv name)
  return found.filterMap fun (name, value) ↦
    value.map fun value ↦ (Text.ofString name, Text.ofString value)

/-- The text of the settings file of the current directory. -/
def settingsFile : IO (Option Text) := do
  let p := (← IO.currentDir) / ".env"
  if ← p.pathExists then return some (Text.ofString (← IO.FS.readFile p)) else return none

/-- What is wrong with settings. -/
def troubleText : Settings.Trouble → Text
  | .malformed group => "Settings for " ++ group ++ " are not valid JSON"
  | .tooDeep group => "Settings for " ++ group ++ " are nested too deeply"
  | .refused problems => Text.intercalate "\n" (problems.map Schema.Problem.text)

/-! ## Running -/

/-- How many lists and objects of JSON inside each other are read and written. -/
def room : Nat := 990

/-- Writes a text to a stream. -/
def put (stream : IO.FS.Stream) (text : Text) : IO Unit := do
  stream.write ⟨(Text.encodeUtf8 text).toArray⟩
  stream.flush

/-- Carries out a command line with some settings and gives the status to end with. -/
def run (settings : Settings) (args : List Text) : IO UInt32 := do
  let output ← IO.getStdout
  let errors ← IO.getStderr
  match CommandLine.Invocation.read? args with
  | none =>
    put errors (CommandLine.usage ++ "\n")
    return 2
  | some invocation =>
    let stamp : CommandLine.Stamp := ⟨Text.ofString (← timeNow), ← uniqueText⟩
    let context : Script.Context := ⟨settings, .standard, ← entropy⟩
    let store ← snapshot (pathsOf settings stamp.unique invocation)
    let (outcome, after) := invocation.run ⟨context, stamp, room, Console.notice?⟩ store
    writeChanges store after
    match outcome with
    | .ok report =>
      put output report.screen
      put errors report.notices
      return UInt32.ofNat report.status
    | .error f =>
      put errors (CommandLine.escaped f.message ++ "\n")
      return 1

end TextArt.Program

/-- Runs the program. -/
def main (args : List String) : IO UInt32 := do
  match Settings.read Program.room (← Program.environment) (← Program.settingsFile) with
  | .ok settings => Program.run settings (args.map Text.ofString)
  | .error trouble =>
    Program.put (← IO.getStderr) (Program.troubleText trouble ++ "\n")
    return 1
