import EventRules.Settings.Reference
import EventRules.Text.Basic
import EventRules.Text.LetterTable

/-!
# Assignments — environment variables kept in a file

One line assigns one variable.  Quotes may hold blanks and line ends; between double quotes and
outside of quotes a backslash escapes and a dollar sign refers to a variable.  A number sign behind a
blank begins a comment.  Reading stops at the first line that is not right.

* `Assignments.ofText` — the assignments of a file;
* `Environment.supplyAll` — an environment with the assignments made one after the other.
-/

namespace EventRules

/-- A part of an assigned value. -/
inductive ValuePart where
  | literal (c : Char)
  | variable (name : List Char)
  deriving DecidableEq

structure Assignment where
  name : String
  value : List ValuePart
  deriving DecidableEq

namespace Assignments

/-! ## Lines -/

/-- Where the end of a line stands: an assignment goes on while a quote is open. -/
inductive LineState where
  | outside
  | escaped
  | blank
  | double
  | doubleEscaped
  | single
  | singleEscaped
  deriving DecidableEq

namespace LineState

def opened (c : Char) : LineState :=
  if c = '\\' then .escaped
  else if c = '"' then .double
  else if c = '\'' then .single
  else .outside

/-- The state behind one more character, unless a comment begins there. -/
def next (state : LineState) (c : Char) : Option LineState :=
  match state with
  | .outside =>
      if Text.isBlank c && c != '\n' && c != '\r' then some .blank else some (opened c)
  | .blank => if c = '#' then none else some (opened c)
  | .escaped => some .outside
  | .double => some (if c = '\\' then .doubleEscaped else if c = '"' then .outside else .double)
  | .doubleEscaped => some .double
  | .single => some (if c = '\\' then .singleEscaped else if c = '\'' then .outside else .single)
  | .singleEscaped => some .single

/-- The state behind a line, if no comment begins in it, and the line up to a comment. -/
def scan (state : LineState) : List Char → Option LineState × List Char
  | [] => (some state, [])
  | c :: rest =>
      match state.next c with
      | none => (none, [])
      | some after =>
          let (last, kept) := scan after rest
          (last, c :: kept)

end LineState

/-- The lines of a file with their line ends. -/
def physicalLines : List Char → List (List Char)
  | [] => []
  | '\n' :: rest => ['\n'] :: physicalLines rest
  | c :: rest =>
      match physicalLines rest with
      | [] => [[c]]
      | line :: others => (c :: line) :: others

def withoutLineEnd (line : List Char) : List Char :=
  match line.reverse with
  | '\n' :: '\r' :: rest => rest.reverse
  | '\n' :: rest => rest.reverse
  | _ => line

/-- Joins lines while a quote is open; what is still open at the end is dropped. -/
def logicalLines (state : LineState) (before : List Char) : List (List Char) → List (List Char)
  | [] => []
  | line :: rest =>
      let whole := before ++ line
      if (Text.trimStart whole).head? = some '#' then logicalLines .outside [] rest
      else
        match state.scan line with
        | (none, kept) => (before ++ kept) :: logicalLines .outside [] rest
        | (some .outside, _) => withoutLineEnd whole :: logicalLines .outside [] rest
        | (some open_, _) => logicalLines open_ whole rest

/-! ## Values -/

/-- Where a value is being read. -/
inductive ValueState where
  | outside
  | single
  | double
  | escaped (inDouble : Bool)
  /-- Behind a dollar sign; the name so far, last character first. -/
  | bare (inDouble : Bool) (name : List Char)
  /-- In braces behind a dollar sign. -/
  | braced (inDouble : Bool) (name : List Char)
  /-- Behind a blank: only a comment may follow. -/
  | behind

def ValueState.around (inDouble : Bool) : ValueState := if inDouble then .double else .outside

/-- The parts of a value, if it is right. -/
def valueParts : ValueState → List Char → Option (List ValuePart)
  | .outside, [] => some []
  | .behind, [] => some []
  | .escaped false, [] => some []
  | .bare false name, [] => some [.variable name.reverse]
  | _, [] => none
  | state, c :: rest =>
      let literal (after : ValueState) : Option (List ValuePart) :=
        (valueParts after rest).map (.literal c :: ·)
      match state with
      | .behind =>
          if c = ' ' || c = '\t' then valueParts .behind rest
          else if c = '#' then some []
          else none
      | .escaped inDouble =>
          if ['\\', '\'', '"', '$', ' '].contains c then literal (.around inDouble)
          else if c = 'n' then (valueParts (.around inDouble) rest).map (.literal '\n' :: ·)
          else none
      | .single => if c = '\'' then valueParts .outside rest else literal .single
      | .bare inDouble name =>
          if Text.isAlphanumeric c then valueParts (.bare inDouble (c :: name)) rest
          else if c = '\x7b' && name.isEmpty then valueParts (.braced inDouble []) rest
          else if c = '$' then
            (valueParts (.bare inDouble []) rest).map (.variable name.reverse :: ·)
          else (literal (.around inDouble)).map (.variable name.reverse :: ·)
      | .braced inDouble name =>
          if c = '\x7d' then
            (valueParts (.around inDouble) rest).map (.variable name.reverse :: ·)
          else valueParts (.braced inDouble (c :: name)) rest
      | .double =>
          if c = '$' then valueParts (.bare true []) rest
          else if c = '"' then valueParts .outside rest
          else if c = '\\' then valueParts (.escaped true) rest
          else literal .double
      | .outside =>
          if c = '$' then valueParts (.bare false []) rest
          else if c = '\'' then valueParts .single rest
          else if c = '"' then valueParts .double rest
          else if c = '\\' then valueParts (.escaped false) rest
          else if c = ' ' || c = '\t' then valueParts .behind rest
          else literal .outside

/-! ## Assignments -/

def isNameStart (c : Char) : Bool := c.isAlpha || c = '_'

def isNameRest (c : Char) : Bool := c.isAlphanum || c = '_' || c = '.'

/-- A name and what follows it. -/
def name? (cs : List Char) : Option (List Char × List Char) :=
  match cs with
  | c :: _ => if isNameStart c then some (cs.span isNameRest) else none
  | [] => none

/-- What follows an equals sign. -/
def behindEquals? : List Char → Option (List Char)
  | '=' :: rest => some (Text.trimStart rest)
  | _ => none

/-- A name and what follows its equals sign; the word `export` may stand before the name. -/
def nameAndRest? (cs : List Char) : Option (List Char × List Char) := do
  let (name, rest) ← name? cs
  let rest := Text.trimStart rest
  match behindEquals? rest with
  | some value => return (name, value)
  | none =>
      if String.ofList name = "export" then
        let (own, rest) ← name? rest
        return (own, ← behindEquals? (Text.trimStart rest))
      else none

/-- Whether nothing but a comment is left. -/
def isOver (cs : List Char) : Bool := cs.isEmpty || cs.head? = some '#'

/-- The assignment of a line, if the line is right; there is none in a blank line or a comment. -/
def ofLine (line : List Char) : Option (Option Assignment) :=
  let cs := Text.trimChars line
  if isOver cs then some none
  else do
    let (name, rest) ← nameAndRest? cs
    let value ← if isOver rest then some [] else valueParts .outside rest
    return some ⟨String.ofList name, value⟩

/-- The assignments of lines, up to the first that is not right. -/
def ofLines : List (List Char) → List Assignment
  | [] => []
  | line :: rest =>
      match ofLine line with
      | none => []
      | some none => ofLines rest
      | some (some assignment) => assignment :: ofLines rest

/-- The assignments of a file; a byte order mark may precede them. -/
def ofText (text : String) : List Assignment :=
  let cs :=
    match text.toList with
    | '\uFEFF' :: rest => rest
    | cs => cs
  ofLines (logicalLines .outside [] (physicalLines cs))

end Assignments

/-! ## Environments -/

namespace Environment

def partText (environment : Environment) : ValuePart → List Char
  | .literal c => [c]
  | .variable name => ((environment.get? (String.ofList name)).getD "").toList

/-- Makes one assignment, unless the variable has a value. -/
def supplyOne (environment : Environment) (assignment : Assignment) : Environment :=
  environment.supply assignment.name
    (String.ofList (assignment.value.flatMap environment.partText))

def supplyAll (environment : Environment) (assignments : List Assignment) : Environment :=
  assignments.foldl supplyOne environment

end Environment

end EventRules
