import TextArt.Value.Display

/-!
# Failures

Why a request is turned down. Each constructor is one cause and carries what the message and the
caller need; the wording is in one function, `Failure.message`.
-/

namespace TextArt

/-- Why a request is turned down. -/
inductive Failure where
  /-- A cell holds exactly one character. -/
  | badCharacter (given : Value)
  /-- A grid has at least one row and one column. -/
  | badDimensions (width height : Value)
  /-- The rows of a text hold no character at all. -/
  | emptyContent (content : Text)
  /-- There is no text to draw. -/
  | emptyText (given : Value)
  /-- A polygon has three sides or more. -/
  | tooFewSides (given : Value)
  /-- A rotation is by a quarter, a half or three quarters. -/
  | badDegrees (given : Value)
  /-- A mirror axis has one of two names. -/
  | badAxis (given : Value)
  /-- Scaling is by two or by a half. -/
  | badFactor (given : Value)
  /-- No transform has this name. -/
  | unknownTransform (kind : Value)
  /-- No anchor has this name. -/
  | unknownAnchor (given : Value) (available : List Text)
  /-- No shape has this name. -/
  | unknownShape (given : Value) (available : List Text)
  /-- A gradient needs at least one character. -/
  | emptyRamp (given : Value)
  /-- A density lies between zero and one. -/
  | badDensity (given : Value)
  /-- No gradient direction has this name. -/
  | unknownDirection (given : Value)
  /-- A fill is given a parameter that it does not take. -/
  | unexpectedParameter (fill : Value) (parameter : Text) (given : Fields)
  /-- A fill is given its grid a second time, as a parameter. -/
  | repeatedParameter (fill : Value) (parameter : Text) (given : Fields)
  /-- A pause is not negative. -/
  | negativeDelay (given : Value)
  /-- Every glyph has five rows. -/
  | badGlyphHeight (char : Text) (rows : Nat)
  /-- A transform step has the form of a kind and a value. -/
  | badStepForm (step : Text)
  /-- The value of a transform step is not a number. -/
  | badStepValue (step : Text)
  /-- No output format has this name. -/
  | unknownFormat (given : Text)
  /-- A document cannot be read from its file. -/
  | unreadableDocument (path reason : Text)
  /-- A document holds no list of operations. -/
  | noOperations
  /-- An operation refers to a grid that is not stored. -/
  | unknownGrid (symbol : Value) (index : Nat) (operation : Text)
  /-- No operation stored the declared output. -/
  | outputMissing (output : Value)
  /-- No operation has this name. -/
  | unsupportedOperation (kind : Value) (index : Nat)
  /-- No fill is registered under this name. -/
  | unknownFill (name : Value) (available : List Text)
  /-- A fill needs a name. -/
  | namelessFill
  /-- There is no glyph for a character. -/
  | noGlyph (char : Text)
  /-- A document's text is not JSON. -/
  | malformedDocument (subject reason : Text)
  /-- A document breaks the rules of its kind. -/
  | invalidDocument (subject : Text) (problems : List Text)
  /-- Parameters are checked for a shape that does not exist. -/
  | unknownShapeParameters (given : Text) (available : List Text)
  /-- There is no such file. -/
  | fileMissing (path : Text)
  /-- The path leads to a directory. -/
  | isDirectory (path : Text)
  /-- A file holds nothing but blanks. -/
  | emptyFile (path : Text)
  /-- The content of a file is no grid. -/
  | unusableFile (path reason : Text)
  /-- A file cannot be read. -/
  | readFailed (path reason : Text)
  /-- The user may not read a file. -/
  | readDenied (path : Text)
  /-- A file cannot be written. -/
  | writeFailed (path reason : Text)
  /-- The user may not write a file, or may not come to it. -/
  | writeDenied (path : Text)
  /-- A path on the command line leads to something that the user may not read. -/
  | notReadable (path : Text)
  /-- A path cannot be followed at all. -/
  | unreachable (reason : Text)
  /-- The user may not pass a directory that a path leads through. -/
  | forbidden (reason : Text)
  /-- The markup of a notice ends a style that is not open. -/
  | badMarkup (notice : Text)
  /-- An argument is missing, unknown, or of a kind that the operation cannot work with. -/
  | wrongType
  /-- A field that the operation needs is missing. -/
  | missingKey (key : Value)
  /-- A value has no such part. -/
  | missingPart
  /-- A position does not exist. -/
  | badIndex
  /-- A value of the right kind is out of range. -/
  | badValue
  /-- A number is too large. -/
  | overflow
  /-- A pause is never over, and nothing comes after it. -/
  | endless
  /-- Bytes are no text. -/
  | undecodable
  /-- Text has a code point that is no character, which has no bytes. -/
  | unencodable
  /-- Values are nested too deeply to be read or written. -/
  | tooDeep

namespace Failure

/-- The names of a list, for a message. -/
private def listed (names : List Text) : Text := Text.intercalate ", " names

/-- What a failure says. -/
def message : Failure → Text
  | badCharacter v => "Cell character must be a single character, got " ++ v.quoted
  | badDimensions w h => "Grid dimensions must be positive, got " ++ w.plain ++ "x" ++ h.plain
  | emptyContent _ => "Cannot build a grid from empty content"
  | emptyText _ => "Text must not be empty"
  | tooFewSides v => "A polygon needs at least 3 sides, got " ++ v.plain
  | badDegrees v => "Improper degree amount specified: " ++ v.quoted ++ " (allowed: 90, 180, 270)"
  | badAxis v => "Axis not allowed: " ++ v.quoted ++ " (allowed: horizontal, vertical)"
  | badFactor v => "Scale factor not allowed: " ++ v.quoted ++ " (allowed: 0.5, 2.0)"
  | unknownTransform v => "Unknown transformation type: " ++ v.quoted
  | unknownAnchor v names => "Unknown anchor: " ++ v.quoted ++ ". Available: " ++ listed names
  | unknownShape v names => "Unknown shape: " ++ v.quoted ++ ". Available: " ++ listed names
  | emptyRamp _ => "Gradient density string must not be empty"
  | badDensity v => "Dot density must be within [0, 1], got " ++ v.plain
  | unknownDirection v =>
    "Unknown gradient direction: " ++ v.quoted ++ " (allowed: horizontal, vertical, radial)"
  | unexpectedParameter fill p _ =>
    "Invalid parameters for " ++ fill.plain ++ " decorator: got an unexpected keyword argument "
      ++ Text.Quoted.encode p
  | repeatedParameter fill p _ =>
    "Invalid parameters for " ++ fill.plain ++ " decorator: multiple values for argument "
      ++ Text.Quoted.encode p
  | negativeDelay v => "delay must be non-negative, got " ++ v.plain
  | badGlyphHeight c n =>
    "Glyph " ++ Text.Quoted.encode c ++ " has " ++ toString n ++ " rows, expected 5"
  | badStepForm s => "Transform step must look like TYPE:VALUE, got " ++ Text.Quoted.encode s
  | badStepValue s => "Invalid value in transform step " ++ Text.Quoted.encode s
  | unknownFormat s =>
    "Unknown output format: " ++ Text.Quoted.encode s ++ " (allowed: text, json, html)"
  | unreadableDocument path reason => "Cannot read " ++ path ++ ": " ++ reason
  | noOperations => "Recipe document has no 'recipe' operation list"
  | unknownGrid symbol index operation =>
    "Operation #" ++ toString index ++ " (" ++ operation ++ ") references unknown grid '"
      ++ symbol.plain ++ "'"
  | outputMissing v => "Declared output '" ++ v.plain ++ "' was never produced"
  | unsupportedOperation kind index =>
    "Operation #" ++ toString index ++ " has unsupported kind: " ++ kind.quoted
  | unknownFill name names => "Unknown decorator: " ++ name.plain ++ ". Available: " ++ listed names
  | namelessFill => "Decorator must have a non-empty name"
  | noGlyph c => "No glyph for character " ++ Text.Quoted.encode c
  | malformedDocument subject reason =>
    "Invalid " ++ subject ++ ": not valid JSON (" ++ reason ++ ")"
  | invalidDocument subject problems =>
    "Invalid " ++ subject ++ ": " ++ Text.intercalate "; " problems
  | unknownShapeParameters s names =>
    "Unknown shape: " ++ Text.Quoted.encode s ++ ". Available: " ++ listed names
  | fileMissing path => "File not found: " ++ path
  | isDirectory path => path ++ " is a directory, not a file"
  | emptyFile path => "File is empty: " ++ path
  | unusableFile path reason => "Cannot parse " ++ path ++ ": " ++ reason
  | readFailed path reason => "Failed to read " ++ path ++ ": " ++ reason
  | readDenied path => "Permission denied: cannot read " ++ path
  | writeFailed path reason => "Failed to write " ++ path ++ ": " ++ reason
  | writeDenied path => "Permission denied: cannot write to " ++ path
  | notReadable path => "Path " ++ Text.Quoted.encode path ++ " is not readable."
  | unreachable reason => reason
  | forbidden reason => reason
  | badMarkup notice => "No style is open where one ends: " ++ notice
  | wrongType => "an argument is missing, unknown or of the wrong kind"
  | missingKey key => key.quoted
  | missingPart => "a value has no such part"
  | badIndex => "a position does not exist"
  | badValue => "a value is out of range"
  | overflow => "a number is too large"
  | endless => "a pause is never over"
  | undecodable => "the bytes are not text"
  | unencodable => "the text has no bytes"
  | tooDeep => "values are nested too deeply"

/-- Whether a failure is one of the library's own, with a message for the user, and not the mark of
a request that makes no sense. -/
def isReported : Failure → Bool
  | namelessFill | notReadable _ | unreachable _ | forbidden _ | badMarkup _ | wrongType
  | missingKey _ | missingPart | badIndex | badValue | overflow | endless | undecodable
  | unencodable | tooDeep => false
  | _ => true

end Failure

/-- What a request comes to: a result, or why it is turned down. -/
abbrev Outcome := Except Failure

end TextArt
