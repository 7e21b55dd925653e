/-!
# TOML values

The values of a TOML document, with what is needed to decide whether a table may still be added to.
-/

namespace Compositing

/-- How a table came to be. -/
inductive TableForm where
  /-- Written in braces, complete as it stands. -/
  | inlined
  /-- Opened by a header of its own. -/
  | opened
  /-- Made on the way to a table inside it that a header opened. -/
  | implied
  /-- Made by a dotted key. -/
  | dotted
  deriving DecidableEq, Repr, Inhabited

inductive Toml where
  | string (text : String)
  | integer (value : Int)
  | float (value : Float)
  | boolean (value : Bool)
  | datetime
  | array (items : List Toml)
  | table (form : TableForm) (entries : List (String × Toml))
  /-- The tables that headers in double brackets opened. -/
  | tables (items : List (List (String × Toml)))
  deriving Inhabited

abbrev TomlEntries := List (String × Toml)

namespace TomlEntries

def replace (es : TomlEntries) (key : String) (value : Toml) : TomlEntries :=
  es.map fun e => if e.1 = key then (key, value) else e

/-- Sets a key that has no value yet. The path of a dotted key leads through tables that dotted keys
made, or that stand on the way to an opened one; its last table must be made by a dotted key. -/
def assign? (key : String) (value : Toml) : List String → TomlEntries → Option TomlEntries
  | [], es => if (es.lookup key).isSome then none else some (es ++ [(key, value)])
  | name :: path, es =>
    match es.lookup name with
    | none => (assign? key value path []).map fun inner => es ++ [(name, .table .dotted inner)]
    | some (.table form inner) =>
      if form = .dotted ∨ (form = .implied ∧ path ≠ []) then
        (assign? key value path inner).map fun inner => replace es name (.table form inner)
      else none
    | some (.tables items) =>
      match items.getLast?, path with
      | some last, _ :: _ =>
        (assign? key value path last).map fun last =>
          replace es name (.tables (items.dropLast ++ [last]))
      | _, _ => none
    | some _ => none

/-- Changes the entries at the end of a path of headers, which leads through tables, making those that
are missing, and into the last of several tables. -/
def edit? (change : TomlEntries → Option TomlEntries) :
    List String → TomlEntries → Option TomlEntries
  | [], es => change es
  | name :: path, es =>
    match es.lookup name with
    | none => (edit? change path []).map fun inner => es ++ [(name, .table .implied inner)]
    -- An inline table is closed for good.
    | some (.table .inlined _) => none
    | some (.table form inner) =>
      (edit? change path inner).map fun inner => replace es name (.table form inner)
    | some (.tables items) =>
      match items.getLast? with
      | some last =>
        (edit? change path last).map fun last =>
          replace es name (.tables (items.dropLast ++ [last]))
      | none => none
    | some _ => none

/-- Opens a table by its header. It may be there only as one that was implied. -/
def openTable? (key : String) (es : TomlEntries) : Option TomlEntries :=
  match es.lookup key with
  | none => some (es ++ [(key, .table .opened [])])
  | some (.table .implied inner) => some (replace es key (.table .opened inner))
  | some _ => none

/-- Opens a further table of several by its header. -/
def appendTable? (key : String) (es : TomlEntries) : Option TomlEntries :=
  match es.lookup key with
  | none => some (es ++ [(key, .tables [[]])])
  | some (.tables items) => some (replace es key (.tables (items ++ [[]])))
  | some _ => none

end TomlEntries

end Compositing
