import EventRules.Text.Basic
import EventRules.Text.CaseTable

/-!
# Case — full case conversion of texts

Each character is replaced by its full mapping, which may have several characters.  A capital sigma
becomes a final sigma where it ends a word: a letter with case stands before it and none after it,
characters without influence on case being skipped on both sides.
-/

namespace EventRules
namespace Text

def mapCase (expansions : List (Nat × List Nat)) (runs : List CaseRun) (c : Char) : List Char :=
  match expansions.lookup c.toNat with
  | some codes => codes.map Char.ofNat
  | none =>
      match runs.findSome? (·.maps? c.toNat) with
      | some code => [Char.ofNat code]
      | none => [c]

def upperChar (c : Char) : List Char :=
  if c.toNat < 0x80 then [c.toUpper] else mapCase upperExpansions upperRuns c

def lowerChar (c : Char) : List Char :=
  if c.toNat < 0x80 then [c.toLower] else mapCase lowerExpansions lowerRuns c

/-- Lower-case letters: those that change when upper-cased but not when lower-cased, and those that
have no upper-case form. -/
def isLower (c : Char) : Bool :=
  (upperChar c != [c] && lowerChar c == [c]) || inRanges loneLowerRanges c

/-- Upper-case letters: those that change when lower-cased but not when upper-cased, and those with
case that change in neither way and are not lower-case letters. -/
def isUpper (c : Char) : Bool :=
  upperChar c == [c] &&
    (lowerChar c != [c] || (inRanges casedRanges c && !inRanges loneLowerRanges c))

def toUpper (s : String) : String := String.ofList (s.toList.flatMap upperChar)

/-- Whether the first character with an influence on case is a letter with case. -/
def startsCased (cs : List Char) : Bool :=
  match cs.dropWhile (inRanges caseIgnorableRanges) with
  | [] => false
  | c :: _ => inRanges casedRanges c

/-- Lower-cases a text; `before` holds what precedes it, nearest first. -/
def lowerFrom (before : List Char) : List Char → List Char
  | [] => []
  | c :: rest =>
      let here :=
        if c = 'Σ' then
          if startsCased before && !startsCased rest then ['ς'] else ['σ']
        else lowerChar c
      here ++ lowerFrom (c :: before) rest

def toLower (s : String) : String := String.ofList (lowerFrom [] s.toList)

end Text

end EventRules
