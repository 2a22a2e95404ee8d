import TextArt.Path

/-!
# Settings

The defaults that a user may change. How they are read from the environment is in
`TextArt.Settings.Environment`.
-/

namespace TextArt

/-- Defaults of drawing. -/
structure RenderSettings where
  /-- The character that shapes are drawn with. -/
  defaultChar : Text
  /-- The pause between two rows of an animation, in milliseconds. -/
  streamDelayMs : Int
  /-- The characters of a gradient, from light to dark. -/
  densityRamp : Text
  /-- The seed of the dots fill; without one the dots fall differently each time. -/
  dotsSeed : Option Int
  deriving Repr

/-- Where files are written. -/
structure ExportSettings where
  /-- The directory of files given by a bare name. -/
  directory : Path
  /-- What is added to a name without an extension. -/
  extension : Text
  deriving Repr

/-- All settings. -/
structure Settings where
  /-- Defaults of drawing. -/
  render : RenderSettings
  /-- Where files are written. -/
  files : ExportSettings
  /-- How much is logged. -/
  logLevel : Text
  deriving Repr

/-- The settings of a user who has changed nothing. -/
def Settings.standard : Settings where
  render := ⟨"*", 50, " .:-=+*#%@", none⟩
  files := ⟨⟨.here, ["ascii-exports"]⟩, ".txt"⟩
  logLevel := "WARNING"

end TextArt
