import Compositing.Decimal.Nearest
import Compositing.Toml.Text
import Compositing.Toml.Value

/-!
# Reading TOML numbers and dates

Integers are signed 64-bit words in one of four bases, floats are 64-bit floats, and underscores may
stand between digits. Dates and times are only checked, for nothing is configured by them.
-/

namespace Compositing.TomlText

/-! ### Digits -/

/-- More digits, each perhaps behind an underscore. -/
def moreDigits (isDigit : Char → Bool) : Reader (List Char)
  | '_' :: d :: rest =>
    if isDigit d then (moreDigits isDigit rest).map fun (ds, rest) => (d :: ds, rest) else none
  -- An underscore stands between two digits, never at the end.
  | ['_'] => none
  | c :: rest =>
    if isDigit c then (moreDigits isDigit rest).map fun (ds, rest) => (c :: ds, rest)
    else some ([], c :: rest)
  | [] => some ([], [])

def digits (isDigit : Char → Bool) : Reader (List Char)
  | c :: rest =>
    if isDigit c then (moreDigits isDigit rest).map fun (ds, rest) => (c :: ds, rest) else none
  | [] => none

/-- One digit or more, without a zero in front of others. -/
def decimalDigits : Reader (List Char)
  | '0' :: rest => some (['0'], rest)
  | cs => digits Char.isDigit cs

def valueOf (base : Nat) (ds : List Char) : Nat :=
  ds.foldl (fun value d => value * base + (hexDigit? d).getD 0) 0

def sign? : List Char → Option Bool × List Char
  | '+' :: rest => (some false, rest)
  | '-' :: rest => (some true, rest)
  | cs => (none, cs)

/-! ### Integers and floats -/

/-- An integer that fits a signed 64-bit word. -/
def integerOf? (negative : Bool) (magnitude : Nat) : Option Toml :=
  let value : Int := if negative then -magnitude else magnitude
  if -9223372036854775808 ≤ value ∧ value ≤ 9223372036854775807 then some (.integer value)
  else none

/-- An integer in another base than ten, read behind the letter that tells the base. -/
def basedInteger (base : Nat) (isDigit : Char → Bool) : Reader Toml := fun cs => do
  let (ds, rest) ← digits isDigit cs
  return (← integerOf? false (valueOf base ds), rest)

def negateIf (negative : Bool) (value : Float) : Float := if negative then -value else value

def infinity : Float := Float.ofBits 0x7ff0000000000000

def notANumber : Float := Float.ofBits 0x7ff8000000000000

def exponent? : List Char → Option (Int × List Char)
  | c :: rest =>
    if c = 'e' ∨ c = 'E' then do
      let (sign, rest) := sign? rest
      let (ds, rest) ← digits Char.isDigit rest
      -- Zeros in front are fine in an exponent.
      let magnitude : Int := valueOf 10 ds
      return (if sign = some true then -magnitude else magnitude, rest)
    else some (0, c :: rest)
  | [] => some (0, [])

/-- A float from its digits before and behind the point and its exponent. Only a negative one may be
too large. -/
def floatOf? (negative : Bool) (whole fraction : List Char) (exponent : Int) : Option Toml :=
  let value := Decimal.nearestFloat (valueOf 10 (whole ++ fraction)) (exponent - fraction.length)
  if value.isInf && !negative then none else some (.float (negateIf negative value))

/-- A number in base ten, read behind its sign. -/
def decimalNumber (negative : Bool) : Reader Toml := fun cs => do
  let (whole, rest) ← decimalDigits cs
  match rest with
  | '.' :: more =>
    let (fraction, rest) ← digits Char.isDigit more
    let (exponent, rest) ← exponent? rest
    return (← floatOf? negative whole fraction exponent, rest)
  | c :: _ =>
    if c = 'e' ∨ c = 'E' then
      let (exponent, rest) ← exponent? rest
      return (← floatOf? negative whole [] exponent, rest)
    else return (← integerOf? negative (valueOf 10 whole), rest)
  | [] => return (← integerOf? negative (valueOf 10 whole), [])

def isHexDigit (c : Char) : Bool := (hexDigit? c).isSome

def isOctalDigit (c : Char) : Bool := '0' ≤ c && c ≤ '7'

def isBinaryDigit (c : Char) : Bool := c = '0' || c = '1'

def number : Reader Toml := fun cs =>
  let (sign, rest) := sign? cs
  let negative := sign = some true
  match sign, rest with
  | _, 'i' :: 'n' :: 'f' :: rest => some (.float (negateIf negative infinity), rest)
  | _, 'n' :: 'a' :: 'n' :: rest => some (.float (negateIf negative notANumber), rest)
  | none, '0' :: 'x' :: rest => basedInteger 16 isHexDigit rest
  | none, '0' :: 'o' :: rest => basedInteger 8 isOctalDigit rest
  | none, '0' :: 'b' :: rest => basedInteger 2 isBinaryDigit rest
  | _, rest => decimalNumber negative rest

/-! ### Dates and times -/

/-- A number of exactly so many digits between two bounds. -/
def fixedNumber? (count low high : Nat) (cs : List Char) : Option (Nat × List Char) :=
  let ds := cs.take count
  let value := valueOf 10 ds
  if ds.length = count ∧ ds.all Char.isDigit ∧ low ≤ value ∧ value ≤ high then
    some (value, cs.drop count)
  else none

def expect? (c : Char) : List Char → Option (List Char)
  | d :: rest => if d = c then some rest else none
  | [] => none

def daysInMonth (year month : Nat) : Nat :=
  if month = 2 then
    if (year % 4 = 0 ∧ year % 100 ≠ 0) ∨ year % 400 = 0 then 29 else 28
  else if month ∈ [4, 6, 9, 11] then 30
  else 31

/-- The rest behind a date whose year and first dash were read. -/
def monthAndDay? (year : Nat) (cs : List Char) : Option (List Char) := do
  let (month, rest) ← fixedNumber? 2 1 12 cs
  let (_, rest) ← fixedNumber? 2 1 (daysInMonth year month) (← expect? '-' rest)
  return rest

/-- The rest behind a time whose hour and first colon were read. -/
def minuteAndSecond? (cs : List Char) : Option (List Char) := do
  let (_, rest) ← fixedNumber? 2 0 59 cs
  let (_, rest) ← fixedNumber? 2 0 60 (← expect? ':' rest)
  match rest with
  | '.' :: d :: more =>
    if d.isDigit then return more.dropWhile Char.isDigit else return '.' :: d :: more
  | rest => return rest

def hour? (cs : List Char) : Option (List Char) := do
  let (_, rest) ← fixedNumber? 2 0 23 cs
  expect? ':' rest

/-- The rest behind an offset from universal time, which may be missing. -/
def offset? (cs : List Char) : Option (List Char) :=
  match cs with
  | c :: rest =>
    if c = 'Z' ∨ c = 'z' then some rest
    else if c = '+' ∨ c = '-' then do
      let (_, rest) ← fixedNumber? 2 0 59 (← hour? rest)
      return rest
    else some (c :: rest)
  | [] => some []

/-- The rest behind the time of a date, which may be missing. -/
def timeOfDate? (cs : List Char) : Option (List Char) :=
  match cs with
  | c :: more =>
    if c = 'T' ∨ c = 't' ∨ c = ' ' then
      match hour? more with
      | some rest => (minuteAndSecond? rest).bind offset?
      | none => some cs
    else some cs
  | [] => some []

/-- The year and the rest behind its dash, if the text begins with them. -/
def year? (cs : List Char) : Option (Nat × List Char) := do
  let (year, rest) ← fixedNumber? 4 0 9999 cs
  return (year, ← expect? '-' rest)

def numberOrDate : Reader Toml := fun cs =>
  match year? cs, hour? cs with
  | some (year, rest), _ =>
    ((monthAndDay? year rest).bind timeOfDate?).map fun rest => (.datetime, rest)
  | none, some rest => (minuteAndSecond? rest).map fun rest => (.datetime, rest)
  | none, none => number cs

end Compositing.TomlText
