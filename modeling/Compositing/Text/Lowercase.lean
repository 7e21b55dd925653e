import Compositing.Text.CaseTable

/-!
# Lower case

Each capital becomes its lower-case counterpart. Two letters need more: a dotted capital I becomes two
characters, and a capital sigma takes its final form at the end of a word. Main statement:
`length_lowerChar_pos`, no character is lost.
-/

namespace Compositing.Text

def inRanges (ranges : List (Nat × Nat)) (c : Char) : Bool :=
  ranges.any fun (first, last) => first ≤ c.toNat && c.toNat ≤ last

def isCaseIgnorable (c : Char) : Bool := inRanges caseIgnorableRanges c

/-- The character has case and is not passed over. -/
def isCased (c : Char) : Bool := c.isAlpha || inRanges casedRanges c

/-- The lower-case counterpart of a capital, if it is one character. -/
def counterpart? (c : Char) : Option Char :=
  (capitalRuns.find? fun run =>
    run.first ≤ c.toNat && c.toNat ≤ run.last && (c.toNat - run.first) % run.step == 0).map
    fun run => Char.ofNat (run.lower + (c.toNat - run.first))

/-- A letter with case comes next, others between passed over. -/
def lettersFollow (cs : List Char) : Bool :=
  match cs.dropWhile isCaseIgnorable with
  | c :: _ => isCased c
  | [] => false

/-- What a character becomes, given the characters before it, the nearest first, and those after it. -/
def lowerChar (before : List Char) (c : Char) (after : List Char) : List Char :=
  if c.toNat < 128 then [c.toLower]
  else if c = 'Σ' then
    if lettersFollow before && !lettersFollow after then ['ς'] else ['σ']
  else if c = 'İ' then ['i', Char.ofNat 0x307]
  else [(counterpart? c).getD c]

private def lowerFrom (before : List Char) : List Char → List Char
  | [] => []
  | c :: after => lowerChar before c after ++ lowerFrom (c :: before) after

/-- The text in lower case. -/
def lowercase (text : String) : String := String.ofList (lowerFrom [] text.toList)

theorem length_lowerChar_pos (before : List Char) (c : Char) (after : List Char) :
    0 < (lowerChar before c after).length := by
  unfold lowerChar
  repeat' split
  all_goals simp

end Compositing.Text
