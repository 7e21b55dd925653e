/-!
# Reading TOML text

A reader takes a value from the beginning of a text and gives it with the rest, or refuses. Here are
the readers for blanks, comments, line ends, strings and keys.
-/

namespace Compositing.TomlText

abbrev Reader (α : Type) := List Char → Option (α × List Char)

/-! ### Blanks, comments and line ends -/

def isBlank (c : Char) : Bool := c = ' ' || c = '\t'

def skipBlanks (cs : List Char) : List Char := cs.dropWhile isBlank

/-- A control character other than the tabulator. -/
def isControl (c : Char) : Bool := c.toNat < 0x20 && c != '\t'

/-- What a comment, or a string on one line and without escapes, may hold. -/
def isPlain (c : Char) : Bool := !isControl c && c.toNat != 0x7f

/-- The end of a line or of the text, with blanks and a comment before it. -/
def endLine? (cs : List Char) : Option (List Char) :=
  let rest :=
    match skipBlanks cs with
    | '#' :: comment => comment.dropWhile isPlain
    | rest => rest
  match rest with
  | [] => some []
  | '\n' :: next => some next
  | '\r' :: '\n' :: next => some next
  | _ => none

/-- Skips blanks, line ends and comments, each of which ends with its line. The flag tells whether the
text begins inside a comment. -/
def skipLines? (inComment : Bool) : List Char → Option (List Char)
  | [] => if inComment then none else some []
  | '\n' :: rest => skipLines? false rest
  | '\r' :: '\n' :: rest => skipLines? false rest
  | c :: rest =>
    -- A comment may not hold control characters.
    if inComment then if isPlain c then skipLines? true rest else none
    else if isBlank c then skipLines? false rest
    else if c = '#' then skipLines? true rest
    else some (c :: rest)

/-! ### Escapes -/

def hexDigit? (c : Char) : Option Nat :=
  if '0' ≤ c ∧ c ≤ '9' then some (c.toNat - '0'.toNat)
  else if 'a' ≤ c ∧ c ≤ 'f' then some (c.toNat - 'a'.toNat + 10)
  else if 'A' ≤ c ∧ c ≤ 'F' then some (c.toNat - 'A'.toNat + 10)
  else none

def hexValue? (digits : List Char) : Option Nat :=
  digits.foldl (fun value c => do return (← value) * 16 + (← hexDigit? c)) (some 0)

/-- The character of a code point, which no surrogate has. -/
def charOfCode? (code : Nat) : Option Char :=
  let c := Char.ofNat code
  if c.toNat = code then some c else none

/-- The character of an escape by its hexadecimal code, and the rest behind it. -/
def codeEscape? (digits rest : List Char) : Option (Char × List Char) :=
  ((hexValue? digits).bind charOfCode?).map fun c => (c, rest)

def escape? : Reader Char
  | 'b' :: rest => some ('\x08', rest)
  | 't' :: rest => some ('\t', rest)
  | 'n' :: rest => some ('\n', rest)
  | 'f' :: rest => some ('\x0c', rest)
  | 'r' :: rest => some ('\r', rest)
  | '\x22' :: rest => some ('\x22', rest)
  | '\x5c' :: rest => some ('\x5c', rest)
  | 'u' :: a :: b :: c :: d :: rest => codeEscape? [a, b, c, d] rest
  | 'U' :: a :: b :: c :: d :: e :: f :: g :: h :: rest =>
    codeEscape? [a, b, c, d, e, f, g, h] rest
  | _ => none

theorem rest_codeEscape? {digits rest after : List Char} {c : Char}
    (found : codeEscape? digits rest = some (c, after)) : after = rest := by
  obtain ⟨_, _, eq⟩ := Option.map_eq_some_iff.1 found
  exact (congrArg Prod.snd eq).symm

theorem length_escape? {cs rest : List Char} {c : Char} (found : escape? cs = some (c, rest)) :
    rest.length < cs.length := by
  unfold escape? at found
  split at found
  case h_8 => rw [rest_codeEscape? found]; simp only [List.length_cons]; omega
  case h_9 => rw [rest_codeEscape? found]; simp only [List.length_cons]; omega
  all_goals simp_all

/-! ### Strings -/

/-- The rest of a string in double quotes, on one line. -/
def basicString (cs : List Char) : Option (List Char × List Char) :=
  match cs with
  | [] => none
  | '\x22' :: rest => some ([], rest)
  | '\x5c' :: rest =>
    match found : escape? rest with
    | some (c, after) =>
      have := length_escape? found
      (basicString after).map fun (text, rest) => (c :: text, rest)
    | none => none
  | c :: rest =>
    if isPlain c then (basicString rest).map fun (text, rest) => (c :: text, rest) else none
termination_by cs.length

/-- The rest of a string in single quotes, on one line. It knows no escapes. -/
def literalString : Reader (List Char)
  | [] => none
  | '\x27' :: rest => some ([], rest)
  | c :: rest =>
    if isPlain c then (literalString rest).map fun (text, rest) => (c :: text, rest) else none

/-- The end of a string of several lines, read behind three quotes: up to two more quotes belong to
the string. -/
def closingQuotes (quote : Char) : List Char → List Char × List Char
  | a :: b :: rest =>
    -- Five quotes in a row end a string that ends in two.
    if a = quote ∧ b = quote then ([quote, quote], rest)
    else if a = quote then ([quote], b :: rest)
    else ([], a :: b :: rest)
  | [a] => if a = quote then ([quote], []) else ([], [a])
  | [] => ([], [])

def skipBlankLines : List Char → List Char
  | ' ' :: rest => skipBlankLines rest
  | '\t' :: rest => skipBlankLines rest
  | '\n' :: rest => skipBlankLines rest
  | '\r' :: '\n' :: rest => skipBlankLines rest
  | cs => cs

/-- An escaped line end, read behind its backslash: it swallows blanks and line ends up to the next
other character. -/
def escapedLineEnd? (cs : List Char) : Option (List Char) :=
  match skipBlanks cs with
  | '\n' :: rest => some (skipBlankLines rest)
  | '\r' :: '\n' :: rest => some (skipBlankLines rest)
  | _ => none

theorem length_skipBlanks (cs : List Char) : (skipBlanks cs).length ≤ cs.length :=
  (List.dropWhile_suffix _).length_le

theorem length_skipBlankLines (cs : List Char) : (skipBlankLines cs).length ≤ cs.length := by
  fun_induction skipBlankLines cs <;> simp <;> omega

theorem length_escapedLineEnd? {cs rest : List Char} (found : escapedLineEnd? cs = some rest) :
    rest.length < cs.length := by
  have skipped := length_skipBlanks cs
  unfold escapedLineEnd? at found
  split at found
  next next eq =>
    cases found
    have := length_skipBlankLines next
    simp [eq] at skipped
    omega
  next next eq =>
    cases found
    have := length_skipBlankLines next
    simp [eq] at skipped
    omega
  next => simp at found

/-- The rest of a string of several lines between tripled double quotes. -/
def basicLines (cs : List Char) : Option (List Char × List Char) :=
  match cs with
  | [] => none
  | '\x22' :: '\x22' :: '\x22' :: rest => some (closingQuotes '\x22' rest)
  | '\x5c' :: rest =>
    match skipped : escapedLineEnd? rest with
    -- An escaped line end is tried before the other escapes.
    | some after =>
      have := length_escapedLineEnd? skipped
      basicLines after
    | none =>
      match found : escape? rest with
      | some (c, after) =>
        have := length_escape? found
        (basicLines after).map fun (text, rest) => (c :: text, rest)
      | none => none
  | '\r' :: '\n' :: rest => (basicLines rest).map fun (text, rest) => ('\n' :: text, rest)
  | c :: rest =>
    if isPlain c || c = '\n' then (basicLines rest).map fun (text, rest) => (c :: text, rest)
    else none
termination_by cs.length

/-- The rest of a string of several lines between tripled single quotes. -/
def literalLines : Reader (List Char)
  | [] => none
  | '\x27' :: '\x27' :: '\x27' :: rest => some (closingQuotes '\x27' rest)
  | '\r' :: '\n' :: rest => (literalLines rest).map fun (text, rest) => ('\n' :: text, rest)
  | c :: rest =>
    if isPlain c || c = '\n' then (literalLines rest).map fun (text, rest) => (c :: text, rest)
    else none

/-- A line end directly behind opening quotes does not belong to the string. -/
def dropFirstLineEnd : List Char → List Char
  | '\n' :: rest => rest
  | '\r' :: '\n' :: rest => rest
  | cs => cs

def string : Reader String := fun cs =>
  let text :=
    match cs with
    | '\x22' :: '\x22' :: '\x22' :: rest => basicLines (dropFirstLineEnd rest)
    | '\x27' :: '\x27' :: '\x27' :: rest => literalLines (dropFirstLineEnd rest)
    | '\x22' :: rest => basicString rest
    | '\x27' :: rest => literalString rest
    | _ => none
  text.map fun (text, rest) => (String.ofList text, rest)

/-! ### Keys -/

def isBareKeyChar (c : Char) : Bool := c.isAlphanum || c = '-' || c = '_'

/-- One part of a key: bare, or a string on one line. -/
def keyPart : Reader String := fun cs =>
  match cs with
  | '\x22' :: rest => (basicString rest).map fun (text, rest) => (String.ofList text, rest)
  | '\x27' :: rest => (literalString rest).map fun (text, rest) => (String.ofList text, rest)
  | _ =>
    let bare := cs.takeWhile isBareKeyChar
    if bare.isEmpty then none else some (String.ofList bare, cs.dropWhile isBareKeyChar)

/-- A key of at most so many parts, with dots between them and blanks around each. -/
def keyParts : Nat → Reader (List String)
  | 0 => fun _ => none
  | limit + 1 => fun cs => do
    let (part, rest) ← keyPart (skipBlanks cs)
    match skipBlanks rest with
    | '.' :: more =>
      let (parts, rest) ← keyParts limit more
      return (part :: parts, rest)
    | rest => return ([part], rest)

/-- How deep values nest and how many parts a key has, at most. -/
def maxDepth : Nat := 79

/-- A key, as the path to its last part and that part. -/
def key : Reader (List String × String) := fun cs => do
  let (parts, rest) ← keyParts maxDepth cs
  let last ← parts.getLast?
  return ((parts.dropLast, last), rest)

end Compositing.TomlText
