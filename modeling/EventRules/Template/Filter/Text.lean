import EventRules.Number.Numeral
import EventRules.Template.Arguments
import EventRules.Text.Basic
import EventRules.Text.Case

/-!
# Text — filters on texts

* `Filter.texts` — the filters by name;
* `Filter.replaceAll`, `Filter.pieces`, `Filter.words`, `Filter.linesOf` — what they do to texts.
-/

namespace EventRules
namespace Template

/-- A filter is a function of its arguments, the first of which is the value that it filters. -/
abbrev Filter := Arguments → Except Fault Value

namespace Filter

open Arguments

/-! ## Case -/

/-- Upper-cases the first letter of every word and lower-cases the others. -/
def titleChars : (atStart : Bool) → List Char → List Char
  | _, [] => []
  | atStart, c :: rest =>
      let isPunctuation := 0x21 ≤ c.toNat && c.toNat ≤ 0x7e && !c.isAlphanum
      if isPunctuation || Text.isBlank c then c :: titleChars true rest
      else (if atStart then Text.upperChar c else Text.lowerChar c) ++ titleChars false rest

/-- Upper-cases the first letter and lower-cases the others. -/
def capitalized (s : String) : String :=
  match s.toList with
  | [] => ""
  | c :: rest => String.ofList (Text.upperChar c) ++ Text.toLower (String.ofList rest)

/-! ## Pieces -/

/-- What follows a text that begins with the given part. -/
def afterPart? : (part text : List Char) → Option (List Char)
  | [], rest => some rest
  | _ :: _, [] => none
  | p :: part, c :: rest => if p = c then afterPart? part rest else none

/-- The pieces between the occurrences of a part that is not empty, at most `limit + 1` of them.
`skip` characters belong to an occurrence that has been found. -/
def piecesFrom (part : List Char) :
    (limit skip : Nat) → (piece : List Char) → List Char → List (List Char)
  | _, _, piece, [] => [piece.reverse]
  | limit, skip + 1, piece, _ :: rest => piecesFrom part limit skip piece rest
  | 0, 0, piece, c :: rest => [piece.reverse ++ c :: rest]
  | limit + 1, 0, piece, c :: rest =>
      if (afterPart? part (c :: rest)).isSome then
        piece.reverse :: piecesFrom part limit (part.length - 1) [] rest
      else piecesFrom part (limit + 1) 0 (c :: piece) rest

/-- The pieces between the places before, between and behind all characters. -/
def singlePieces : (limit : Nat) → List Char → List (List Char)
  | 0, cs => [cs]
  | _ + 1, [] => [[]]
  | limit + 1, c :: rest => [c] :: singlePieces limit rest

/-- The pieces between the occurrences of a part, at most `limit + 1` of them.  The empty part occurs
before and behind every character. -/
def pieces (limit : Nat) (part s : String) : List String :=
  let found :=
    if part = "" then
      match limit with
      | 0 => [s.toList]
      | n + 1 => [] :: singlePieces n s.toList
    else piecesFrom part.toList limit 0 [] s.toList
  found.map String.ofList

def replaceAll (s part replacement : String) : String :=
  replacement.intercalate (pieces (s.length + 1) part s)

/-- The words of a text, at most `limit + 1` of them; the last one then takes all that is left. -/
def wordsFrom : (limit : Nat) → (word : List Char) → List Char → List (List Char)
  | _, word, [] => if word.isEmpty then [] else [word.reverse]
  | 0, word, c :: rest =>
      if word.isEmpty && Text.isBlank c then wordsFrom 0 word rest
      else [word.reverse ++ c :: rest]
  | limit + 1, word, c :: rest =>
      if Text.isBlank c then
        if word.isEmpty then wordsFrom (limit + 1) word rest
        else word.reverse :: wordsFrom limit [] rest
      else wordsFrom (limit + 1) (c :: word) rest

def words (limit : Nat) (s : String) : List String :=
  (wordsFrom limit [] s.toList).map String.ofList

/-- The lines of a text without their line ends. -/
def linesOf (s : String) : List String :=
  let lines := pieces s.length "\n" s
  let lines := if lines.getLast? = some "" then lines.dropLast else lines
  lines.map fun line =>
    match line.toList.reverse with
    | '\r' :: rest => String.ofList rest.reverse
    | _ => line

/-! ## Indentation -/

def dropLineEnd (s : String) : String :=
  let cs := s.toList
  let cs := if cs.getLast? = some '\n' then cs.dropLast else cs
  String.ofList (if cs.getLast? = some '\r' then cs.dropLast else cs)

def indent (s : String) (width : Nat) (first blank : Bool) : String :=
  let margin := String.ofList (List.replicate width ' ')
  let indented (line : String) : String :=
    if line = "" then (if blank then margin else "") else margin ++ line
  let lines := pieces s.length "\n" (dropLineEnd s)
  let shown :=
    match lines with
    | [] => []
    | line :: rest => (if first then indented line else line) :: rest.map indented
  dropLineEnd (String.join (shown.map (· ++ "\n")))

/-! ## The filters -/

/-- A filter that makes a text of a text. -/
def ofText (f : String → String) : Filter :=
  consume do return Value.text (f (← required shown))

def replaceFilter : Filter := consume do
  let s ← required shown
  let part ← required shown
  let replacement ← required shown
  return Value.text (replaceAll s part replacement)

def trimFilter : Filter := consume do
  let s ← required shown
  match ← optional shown with
  | none => return Value.text (Text.trim s)
  | some chars =>
      let drop (cs : List Char) : List Char := cs.dropWhile chars.toList.contains
      return Value.text (String.ofList (drop (drop s.toList).reverse).reverse)

def splitFilter : Filter := consume do
  let s ← required onlyText
  let part ← optional onlyText
  let most ← optional (signed 64 "i64")
  let limit :=
    match most with
    | some n => if 0 ≤ n then n.toNat else s.length + 1
    | none => s.length + 1
  let found :=
    match part with
    | some part => pieces limit part s
    | none => words limit s
  return .iterable false (found.map Value.text)

def linesFilter : Filter := consume do
  return .iterable false ((linesOf (← required onlyText)).map Value.text)

def indentFilter : Filter := consume do
  let s ← required shown
  let width ← required count
  let first ← optional onlyBool
  let blank ← optional onlyBool
  return Value.text (indent s width (first.getD false) (blank.getD false))

def stringFilter : Filter := consume do
  let value ← required itself
  match value with
  | .string s safe => return .string s safe
  | other => return Value.text other.display

def escapeFilter : Filter := consume do
  let value ← required itself
  match value with
  | .string s true => return .string s true
  | other => return .string other.escaped true

def safeFilter : Filter := consume do return .string (← required shown) true

def indentedFilter : Filter := consume do return Value.text (← required itself).indented

def texts : List (String × Filter) := [
  ("lower", ofText Text.toLower),
  ("upper", ofText Text.toUpper),
  ("title", ofText fun s => String.ofList (titleChars true s.toList)),
  ("capitalize", ofText capitalized),
  ("replace", replaceFilter),
  ("trim", trimFilter),
  ("split", splitFilter),
  ("lines", linesFilter),
  ("indent", indentFilter),
  ("string", stringFilter),
  ("escape", escapeFilter),
  ("e", escapeFilter),
  ("safe", safeFilter),
  ("pprint", indentedFilter)]

end Filter
end Template
end EventRules
