import Switchboard.Text.CaseData

/-!
# Lower case

The full lower case mapping of Unicode, which depends on nothing but the text:
`İ` becomes two characters, and a `Σ` that ends a word becomes `ς`.
-/

namespace Switchboard.Text

/-- A code point lies in one of the ranges. -/
def inRanges (ranges : List (Nat × Nat)) (code : Nat) : Bool :=
  ranges.any fun range => range.1 ≤ code && code ≤ range.2

def isCaseIgnorable (c : Char) : Bool := inRanges caseIgnorableRanges c.toNat

/-- The character has a case. It is asked only of characters that are not
case-ignorable. -/
def isCased (c : Char) : Bool := inRanges casedRanges c.toNat

def lowerSimple (c : Char) : Char :=
  if c.toNat < 0x80 then c.toLower
  else
    match lowercaseRuns.find? fun run =>
        run.1 ≤ c.toNat && c.toNat ≤ run.2.1
          && (c.toNat - run.1) % run.2.2.1 == 0 with
    | some run => Char.ofNat (Int.ofNat c.toNat + run.2.2.2).toNat
    | none => c

/-- The first character that is not case-ignorable has a case. -/
def casedNext (text : List Char) : Bool :=
  match text.dropWhile isCaseIgnorable with
  | [] => false
  | c :: _ => isCased c

/-- The lower case of one character, given the text before it, nearest character
first, and the text after it. -/
def lowerAt (before : List Char) (c : Char) (after : List Char) : List Char :=
  if c = 'Σ' then
    if casedNext before && !casedNext after then ['ς'] else ['σ']
  else if c = 'İ' then ['i', '\u0307']
  else [lowerSimple c]

/-- The lower case of a text, given the text before it, nearest character
first. -/
def lowerFrom (before : List Char) : List Char → List Char
  | [] => []
  | c :: after => lowerAt before c after ++ lowerFrom (c :: before) after

def lowercase (text : String) : String :=
  String.ofList (lowerFrom [] text.toList)

end Switchboard.Text
