import Compositing.Geometry.Placement
import Compositing.Logging
import Compositing.Rendering.Contexts

/-!
# Configuration

What can be configured, the values that hold when nothing is, and which values are acceptable. A
configuration that is accepted names its log level and format in lower case.
-/

namespace Compositing

structure RenderConfig where
  /-- The names of the backends to probe for every output, in order. -/
  backends : List String := Backend.defaultNames
  clearColour : Colour := Colour.black
  deriving Inhabited

structure OutputConfig where
  /-- The resolution of a screen that reports none. -/
  defaultResolution : Size := ⟨1280, 720⟩
  deriving DecidableEq, Repr, Inhabited

structure Config where
  logging : LoggingConfig := {}
  render : RenderConfig := {}
  output : OutputConfig := {}
  deriving Inhabited

inductive ConfigFault where
  | level (given : String)
  | format (given : String)
  | noBackend
  | unknownBackend (name : String)
  | clearColour (given : Colour)
  | resolution (given : Size)
  /-- A fault that the embedding program found. -/
  | reported (reason : String)

def ConfigFault.reason : ConfigFault → String
  | level given =>
    "Invalid log level: '" ++ given ++ "'. Must be one of " ++
      ", ".intercalate LogLevel.names ++ "."
  | format given => "Invalid log format: '" ++ given ++ "'. Must be one of text, json."
  | noBackend => "render.backends must name at least one backend"
  | unknownBackend name =>
    "Unknown render backend: '" ++ name ++ "'. Must be one of " ++
      ", ".intercalate Backend.builtinNames ++ "."
  | clearColour given =>
    "render.clear_color channels must be within 0.0..=1.0, got " ++ given.text
  | resolution given =>
    s!"output.default_resolution must be non-zero, got {given.width.toNat}x{given.height.toNat}"
  | reported reason => reason

namespace Config

def formatNames : List String := ["text", "json"]

/-- Puts the level in lower case, if it names one. -/
def checkLevel (c : Config) : Except ConfigFault Config :=
  let level := Text.lowercase c.logging.level
  if level ∈ LogLevel.names then .ok { c with logging := { c.logging with level } }
  else .error (.level c.logging.level)

/-- Puts the format in lower case, if it names one. -/
def checkFormat (c : Config) : Except ConfigFault Config :=
  let format := Text.lowercase c.logging.format
  if format ∈ formatNames then .ok { c with logging := { c.logging with format } }
  else .error (.format c.logging.format)

/-- Checks the values that stay as they are: the backends, the colour and the resolution. -/
def checkValues (c : Config) : Except ConfigFault Unit :=
  if c.render.backends.isEmpty then .error .noBackend
  else
    match c.render.backends.find? fun name => name ∉ Backend.builtinNames with
    | some name => .error (.unknownBackend name)
    | none =>
      if !c.render.clearColour.inRange then .error (.clearColour c.render.clearColour)
      else if !c.output.defaultResolution.isProper then
        .error (.resolution c.output.defaultResolution)
      else .ok ()

/-- Checks every value, the first fault wins. Gives also the configuration afterwards: what was put in
lower case before a fault was found stays so. -/
def validate (c : Config) : Except ConfigFault Unit × Config :=
  match c.checkLevel with
  | .error fault => (.error fault, c)
  | .ok leveled =>
    match leveled.checkFormat with
    -- The level was accepted, and stays in lower case.
    | .error fault => (.error fault, leveled)
    | .ok normal => (normal.checkValues, normal)

end Config

inductive ReadFailure where
  | isDirectory
  | notText
  deriving DecidableEq, Repr, Inhabited

inductive ConfigError where
  | read (failure : ReadFailure)
  /-- The text is no configuration. -/
  | parse
  | invalid (fault : ConfigFault)

/-- The text of a fault found by validation. -/
def ConfigFault.message (fault : ConfigFault) : String :=
  "Configuration validation failed: " ++ fault.reason

end Compositing
