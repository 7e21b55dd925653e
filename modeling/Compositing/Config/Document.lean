import Compositing.Config
import Compositing.Toml.Document

/-!
# Configuration files

A configuration is written as a TOML document with a table for each section. What is missing keeps its
default; a name that means nothing is an error. A section can also be written as an array of its
values in their order, of which those beyond the last are ignored.
-/

namespace Compositing

/-! ### Values of one type -/

namespace Toml

def asString? : Toml → Option String
  | .string text => some text
  | _ => none

/-- The items of an array, or the tables that headers opened. -/
def asItems? : Toml → Option (List Toml)
  | .array items => some items
  | .tables items => some (items.map fun es => .table .opened es)
  | _ => none

/-- A float of 32 bits; an integer counts as one. -/
def asFloat32? : Toml → Option Float32
  | .float value => some value.toFloat32
  | .integer value => some (Int64.ofInt value).toFloat32
  | _ => none

/-- An unsigned word of 32 bits. -/
def asUInt32? : Toml → Option UInt32
  | .integer value =>
    if 0 ≤ value ∧ value < 4294967296 then some (UInt32.ofNat value.toNat) else none
  | _ => none

/-- The values of the fields of a section in their order, each there or not. A table may have no other
entries; an array lists the values from the first. -/
def fields? (names : List String) : Toml → Option (List (Option Toml))
  | .table _ es =>
    if es.all fun e => e.1 ∈ names then some (names.map fun name => es.lookup name) else none
  | .array items => some ((List.range names.length).map fun i => items[i]?)
  | .tables items =>
    some ((List.range names.length).map fun i => items[i]?.map fun es => .table .opened es)
  | _ => none

/-- The value of a field, or its default if it is missing. -/
def fieldOr {α : Type} (field : Option Toml) (read : Toml → Option α) (default : α) : Option α :=
  match field with
  | some value => read value
  | none => some default

end Toml

/-! ### Sections -/

namespace LoggingConfig

def ofToml? (t : Toml) : Option LoggingConfig := do
  match ← t.fields? ["level", "file_path", "format"] with
  | [level, filePath, format] =>
    let default : LoggingConfig := {}
    return {
      level := ← Toml.fieldOr level Toml.asString? default.level
      filePath := ← Toml.fieldOr filePath (fun t => t.asString?.map some) default.filePath
      format := ← Toml.fieldOr format Toml.asString? default.format }
  | _ => none

end LoggingConfig

/-- A colour, from an array of its channels; what follows them is ignored. -/
def Colour.ofToml? (t : Toml) : Option Colour := do
  match ← t.asItems? with
  | red :: green :: blue :: alpha :: _ =>
    return ⟨← red.asFloat32?, ← green.asFloat32?, ← blue.asFloat32?, ← alpha.asFloat32?⟩
  | _ => none

def RenderConfig.ofToml? (t : Toml) : Option RenderConfig := do
  match ← t.fields? ["backends", "clear_color"] with
  | [backends, clearColour] =>
    let default : RenderConfig := {}
    return {
      backends :=
        ← Toml.fieldOr backends (fun t => t.asItems?.bind (·.mapM Toml.asString?)) default.backends
      clearColour := ← Toml.fieldOr clearColour Colour.ofToml? default.clearColour }
  | _ => none

/-- A size, both of whose sides must be given. -/
def Size.ofToml? (t : Toml) : Option Size := do
  match ← t.fields? ["width", "height"] with
  | [some width, some height] => return ⟨← width.asUInt32?, ← height.asUInt32?⟩
  | _ => none

def OutputConfig.ofToml? (t : Toml) : Option OutputConfig := do
  match ← t.fields? ["default_resolution"] with
  | [resolution] =>
    let default : OutputConfig := {}
    return {
      defaultResolution := ← Toml.fieldOr resolution Size.ofToml? default.defaultResolution }
  | _ => none

namespace Config

def ofToml? (t : Toml) : Option Config := do
  match ← t.fields? ["logging", "render", "output"] with
  | [logging, render, output] =>
    return {
      logging := ← Toml.fieldOr logging LoggingConfig.ofToml? {}
      render := ← Toml.fieldOr render RenderConfig.ofToml? {}
      output := ← Toml.fieldOr output OutputConfig.ofToml? {} }
  | _ => none

/-- Reads a configuration without checking its values. -/
def parse (text : String) : Except ConfigError Config :=
  match (Toml.parse? text).bind fun es => ofToml? (.table .opened es) with
  | some config => .ok config
  | none => .error .parse

/-! ### Files -/

end Config

/-- What is found where a configuration file is looked for. -/
inductive ConfigSource where
  | missing
  | directory
  | file (contents : ByteArray)

namespace Config

/-- Reads and checks a configuration. Where there is no file the defaults hold. -/
def load (source : ConfigSource) : Except ConfigError Config := do
  let config ←
    match source with
    | .missing => pure {}
    | .directory => throw (.read .isDirectory)
    | .file contents =>
      match String.fromUTF8? contents with
      | some text => parse text
      | none => throw (.read .notText)
  match config.validate with
  | (.ok _, checked) => return checked
  | (.error fault, _) => throw (.invalid fault)

end Config

end Compositing
