import Compositing.Toml.Number

/-!
# Reading TOML documents

A document is read into statements, headers and assignments, and the statements are carried out one
after the other on the table of the document.
-/

namespace Compositing.TomlText

/-! ### Values -/

/-- The rest of an array behind its opening bracket or a comma. The number bounds how many items there
can be. -/
def arrayItems (item : Reader Toml) : Nat → Reader (List Toml)
  | 0 => fun _ => none
  | bound + 1 => fun cs => do
    match ← skipLines? false cs with
    | ']' :: rest => return ([], rest)
    | rest =>
      let (first, rest) ← item rest
      match ← skipLines? false rest with
      | ',' :: more =>
        let (others, rest) ← arrayItems item bound more
        return (first :: others, rest)
      | ']' :: rest => return ([first], rest)
      | _ => none

/-- A key, an equals sign and a value, as an entry made in a table. -/
def entry (item : Reader Toml) (es : TomlEntries) : Reader TomlEntries := fun cs => do
  let ((path, name), rest) ← key cs
  let (value, rest) ← item (skipBlanks (← expect? '=' rest))
  return (← TomlEntries.assign? name value path es, skipBlanks rest)

/-- The rest of an inline table behind its opening brace or a comma. The number bounds how many entries
there can be. -/
def inlineEntries (item : Reader Toml) : Nat → TomlEntries → Reader TomlEntries
  | 0, _ => fun _ => none
  | bound + 1, es => fun cs => do
    let (es, rest) ← entry item es cs
    match rest with
    | ',' :: more => inlineEntries item bound es more
    | '\x7d' :: rest => return (es, rest)
    | _ => none

/-- A value whose parts nest at most so deep. -/
def value (depth : Nat) : Reader Toml := fun cs =>
  match depth, cs with
  | depth + 1, '[' :: rest =>
    (arrayItems (value depth) (rest.length + 1) rest).map fun (items, rest) =>
      (.array items, rest)
  | depth + 1, '\x7b' :: rest =>
    match skipBlanks rest with
    | '\x7d' :: rest => some (.table .inlined [], rest)
    | rest =>
      -- A comma behind the last entry is refused, other than in arrays.
      (inlineEntries (value depth) (rest.length + 1) [] rest).map fun (es, rest) =>
        (.table .inlined es, rest)
  | _, 't' :: 'r' :: 'u' :: 'e' :: rest => some (.boolean true, rest)
  | _, 'f' :: 'a' :: 'l' :: 's' :: 'e' :: rest => some (.boolean false, rest)
  | _, '\x22' :: rest => (string ('\x22' :: rest)).map fun (text, rest) => (.string text, rest)
  | _, '\x27' :: rest => (string ('\x27' :: rest)).map fun (text, rest) => (.string text, rest)
  | _, cs => numberOrDate cs

/-! ### Statements -/

inductive Statement where
  | table (path : List String) (name : String)
  /-- A header that opens a further table of several. -/
  | tables (path : List String) (name : String)
  /-- An assignment in the table opened last. -/
  | assign (path : List String) (name : String) (value : Toml)

/-- A header, read behind its opening brackets up to the closing ones. -/
def header (close : List Char → Option (List Char)) (cs : List Char) :
    Option ((List String × String) × List Char) := do
  let (name, rest) ← key cs
  return (name, ← endLine? (← close rest))

/-- A statement with the end of its line. -/
def statement : Reader Statement := fun cs =>
  match cs with
  | '[' :: '[' :: rest =>
    (header (fun rest => (expect? ']' rest).bind (expect? ']')) rest).map
      fun ((path, name), rest) => (.tables path name, rest)
  | '[' :: rest =>
    (header (expect? ']') rest).map fun ((path, name), rest) => (.table path name, rest)
  | _ => do
    let ((path, name), rest) ← key cs
    let (value, rest) ← value maxDepth (skipBlanks (← expect? '=' rest))
    return (.assign path name value, ← endLine? rest)

/-- The statements of a text. The number bounds how many lines there can be. -/
def statements : Nat → List Char → Option (List Statement)
  | 0, _ => none
  | bound + 1, cs =>
    match skipBlanks cs with
    | [] => some []
    | '\n' :: rest => statements bound rest
    | '\r' :: '\n' :: rest => statements bound rest
    | '#' :: comment => (endLine? ('#' :: comment)).bind (statements bound)
    | rest => do
      let (first, rest) ← statement rest
      return first :: (← statements bound rest)

/-! ### Documents -/

/-- The table of a document so far, and the path to the table opened last. -/
structure Document where
  entries : TomlEntries := []
  current : List String := []

def Document.perform? (d : Document) : Statement → Option Document
  | .table path name => do
    let entries ← TomlEntries.edit? (TomlEntries.openTable? name) path d.entries
    return { entries, current := path ++ [name] }
  | .tables path name => do
    let entries ← TomlEntries.edit? (TomlEntries.appendTable? name) path d.entries
    return { entries, current := path ++ [name] }
  | .assign path name value => do
    let entries ← TomlEntries.edit? (TomlEntries.assign? name value path) d.current d.entries
    return { d with entries }

end Compositing.TomlText

namespace Compositing.Toml

open TomlText in
/-- The table of a document. A byte order mark in front of it is skipped. -/
def parse? (text : String) : Option TomlEntries := do
  let cs :=
    match text.toList with
    | '\ufeff' :: rest => rest
    | cs => cs
  let performed ← (← statements (cs.length + 1) cs).foldlM Document.perform? {}
  return performed.entries

end Compositing.Toml
