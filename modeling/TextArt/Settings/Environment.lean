import TextArt.Json.Encoding
import TextArt.Schema.Scalar
import TextArt.Settings
import TextArt.Settings.EnvFile
import TextArt.Text.LetterCase

/-!
# Settings from the environment

A setting is the value of a variable whose name is that of the setting after a common start, in any
case of letters. Variables of the environment come before those of a settings file. Drawing settings
and export settings can also be given together, as an object in JSON, whose fields come before the
single variables.
-/

namespace TextArt

open Schema

/-- The values of variables by their names in small letters. -/
def Variables := Fields

namespace Variables

/-- The variables of some bindings; the last binding of a name counts. -/
def ofBindings (bindings : EnvFile.Bindings) : Variables :=
  Fields.ofList (bindings.map fun (name, value) ↦ (Text.lower name, .ofText? value))

/-- The value of a variable. -/
def find? (v : Variables) (name : Text) : Option Text :=
  (List.lookup name v).bind Value.text?

/-- The value of a variable of the environment, or else of a settings file. -/
def either (environment file : Variables) (name : Text) : Option Text :=
  (environment.find? name).orElse fun _ ↦ file.find? name

end Variables

namespace Settings

/-- What all variables start with. -/
def nameStart : Text := "asciiforge_"

/-- Why settings cannot be read. -/
inductive Trouble where
  /-- The variable of a group of settings is not JSON. -/
  | malformed (group : Text)
  /-- The variable of a group of settings is nested too deeply to be read. -/
  | tooDeep (group : Text)
  /-- Some values are refused. -/
  | refused (problems : List Problem)

/-! ## Groups of settings -/

/-- The settings of a group that are given, those of an object first. -/
def given (value : Text → Option Text) (start : Text) (names : List Text)
    (object : Fields) : Fields :=
  object ++ names.filterMap fun name ↦ (value (start ++ name)).map fun v ↦ (name, .str v)

/-- Checks drawing settings. -/
def checkRender (fields : Fields) : Checked RenderSettings := do
  let d := Settings.standard.render
  let (defaultChar, delay, ramp, seed) ←
    both (optional fields (.of "default_char") d.defaultChar
      fun v ↦ (oneChar v).map fun c ↦ Text.singleton c) <|
    both (optional fields (.of "stream_delay_ms") d.streamDelayMs (intBetween 0 5000)) <|
    both (optional fields (.of "density_ramp") d.densityRamp someText) <|
    optional fields (.of "dots_seed") d.dotsSeed (nullable anyInt)
  .ok ⟨defaultChar, delay, ramp, seed⟩

/-- A path. -/
def anyPath (v : Value) : Checked Path :=
  match v with
  | .str s => .ok (.ofText s)
  | _ => fail "Input is not a valid path"

/-- Checks export settings. -/
def checkExport (fields : Fields) : Checked ExportSettings := do
  let d := Settings.standard.files
  let (directory, extension) ←
    both (optional fields (.of "directory") d.directory anyPath) <|
    optional fields (.of "extension") d.extension anyText
  .ok ⟨directory, extension⟩

/-- How much can be logged. -/
def logLevels : List Text := ["DEBUG", "INFO", "WARNING", "ERROR"]

/-- Checks all settings that are not in a group. -/
def checkLogLevel (fields : Fields) : Checked Text :=
  optional fields (.of "log_level") Settings.standard.logLevel
    (oneOf (logLevels.map fun l ↦ (l, l)))

/-! ## Reading -/

/-- A group of settings, with room for the given number of lists and objects of JSON inside each
other. Values that are refused in single variables are a trouble of their own;
those of an object are problems of the object. -/
def group {α : Type} (room : Nat) (value : Text → Option Text) (name kind start : Text)
    (names : List Text) (check : Fields → Checked α) : Except Trouble (Checked α) :=
  let alone (object : Fields) : Checked α := check (given value start names object)
  match value (nameStart ++ name) with
  | none => ((alone []).mapError .refused).map .ok
  | some text =>
    match Json.read room text with
    | .error fault =>
      .error (if fault.cause = .tooDeep then .tooDeep name else .malformed name)
    | .ok .null => ((alone []).mapError .refused).map .ok
    | .ok (.object fields) => .ok (under name (alone fields))
    | .ok _ =>
      .ok (under name (fail ("Input should be a valid dictionary or instance of " ++ kind)))

/-- The settings that variables give. -/
def ofVariables (room : Nat) (environment file : Variables) : Except Trouble Settings := do
  let value := Variables.either environment file
  let render ← group room value "render" "RenderSettings" nameStart
    ["default_char", "stream_delay_ms", "density_ramp", "dots_seed"] checkRender
  let files ← group room value "export" "ExportSettings" (nameStart ++ "export_")
    ["directory", "extension"] checkExport
  let logLevel := checkLogLevel (given value nameStart ["log_level"] [])
  match both render (both files logLevel) with
  | .ok (render, files, logLevel) => .ok ⟨render, files, logLevel⟩
  | .error problems => .error (.refused problems)

/-- The settings that an environment and the text of a settings file give. -/
def read (room : Nat) (environment : List (Text × Text)) (file : Option Text) :
    Except Trouble Settings :=
  let known := environment.map fun (name, value) ↦ (name, some value)
  ofVariables room (.ofBindings known) (.ofBindings (EnvFile.read known.reverse (file.getD "")))

end Settings

end TextArt
