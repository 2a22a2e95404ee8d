import TextArt.FileStore
import TextArt.Grid.Join
import TextArt.Settings
import TextArt.Text.Blank
import TextArt.Text.Newline

/-!
# Saving and loading drawings

A drawing is saved under a name. A bare name leads into the export directory, and a bare name
without an extension is made unique there; a path with a directory is taken as it is. A drawing is
loaded from a text file in UTF-8; one line end after the last row is not part of it.
-/

namespace TextArt

/-! ## Where files go -/

/-- The path that a name stands for. The unique text is for names without an extension. -/
def ExportSettings.resolve (settings : ExportSettings) (unique : Text) (given : Path) : Path :=
  if !given.isBare then given
  else if Path.hasExtension given.name then settings.directory.join ⟨.here, [given.name]⟩
  else settings.directory.join (.ofText (given.name ++ unique ++ settings.extension))

namespace FileStore

/-- What a path leads to, nothing if it leads nowhere. A path that is too long or that leads through
a closed directory cannot be followed at all. -/
def probe (s : FileStore) (p : Path) : Outcome (Option Entry) :=
  match s.find p with
  | .ok e => .ok (some e)
  | .error .tooLong => .error (.unreachable (Obstacle.message .tooLong p))
  | .error .denied => .error (.forbidden (Obstacle.message .denied p))
  | .error _ => .ok none

/-! ## Saving -/

/-- The failure to write a file that was given by a name, because of an obstacle on a path. -/
def writeFailure (given : Text) (o : Obstacle) (p : Path) : Failure :=
  match o with
  | .nul => .badValue
  | .unencodable => .unencodable
  | .denied => .writeDenied given
  | o => .writeFailed given (o.message p)

/-- Writes text to a file, after some bytes. The file is opened before the text is encoded, so that
it is there, with those bytes, even if the text cannot be encoded. -/
def writeText (s : FileStore) (given : Text) (p : Path) (before : List UInt8) (text : Text) :
    Outcome Path × FileStore :=
  let bytes := if text.isEncodable then Text.encodeUtf8 text else []
  match s.write p (before ++ bytes) with
  | .error o => (.error (writeFailure given o p), s)
  | .ok s => (if text.isEncodable then .ok p else .error .unencodable, s)

/-- Writes text to a new file, after making the directories that lead to it. -/
def writeNew (s : FileStore) (given : Text) (p : Path) (text : Text) :
    Outcome Path × FileStore :=
  match s.ensureDirectories p.parent with
  | .error (o, q, s) => (.error (writeFailure given o q), s)
  | .ok s => s.writeText given p [] text

/-- Saves text under a name and tells the path that the name stands for. The text replaces the file
there, or follows it on a line of its own. A failure may leave new directories behind, and an empty
file if the text cannot be encoded. -/
def save (s : FileStore) (settings : ExportSettings) (unique given text : Text)
    (append : Bool) : Outcome Path × FileStore :=
  let p := settings.resolve unique (.ofText given)
  match s.probe p with
  | .error f => (.error f, s)
  | .ok (some .directory) => (.error (.isDirectory p.text), s)
  | .ok (some (.file content)) =>
    if append then s.writeText given p content ("\n" ++ text) else s.writeNew given p text
  | .ok none => s.writeNew given p text

/-! ## Loading -/

/-- The failure to read a file because of an obstacle. -/
def readFailure (o : Obstacle) (p : Path) : Failure :=
  match o with
  | .denied => .readDenied p.text
  | o => .readFailed p.text (o.message p)

/-- The text of the bytes of a file. -/
def decodeText (content : List UInt8) : Outcome (List CodePoint) :=
  match Text.decodeUtf8 .refused content with
  | some s => .ok (Text.unifyNewlines s)
  | none => .error .undecodable

/-- The text of a document. -/
def loadDocument (s : FileStore) (p : Path) : Outcome Text :=
  match s.read p with
  | .ok content => (decodeText content).map Text.ofList
  | .error .nul => .error .badValue
  | .error .unencodable => .error .unencodable
  | .error o => .error (.unreadableDocument p.text (o.message p))

/-- Text without one line feed at its end. -/
def dropFinalNewline (s : List CodePoint) : List CodePoint :=
  if s.getLast? = some (.char '\n') then s.dropLast else s

/-- The drawing in a file. A file with nothing but blanks holds none. -/
def loadGrid (s : FileStore) (p : Path) : Outcome Grid := do
  match ← s.probe p with
  | none => .error (.fileMissing p.text)
  | some .directory => .error (.isDirectory p.text)
  | some (.file _) =>
    let content ← (s.read p).mapError fun o ↦ readFailure o p
    let text ← decodeText content
    if text.all Text.isBlank then .error (.emptyFile p.text)
    else
      (Grid.ofText (Text.ofList (dropFinalNewline text))).mapError fun f ↦
        .unusableFile p.text f.message

end FileStore

end TextArt
