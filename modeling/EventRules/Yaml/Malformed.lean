/-!
# Malformed — what can be wrong with a document

* `Mark` — a place in a text: how many characters, line ends and characters of the line precede it;
* `Problem` — what is wrong; `Context` — what was being read;
* `Malformed` — a problem with its place and context, and the text for it.
-/

namespace EventRules
namespace Yaml

structure Mark where
  index : Nat
  line : Nat
  column : Nat
  deriving DecidableEq

namespace Mark

def start : Mark := ⟨0, 0, 0⟩

/-- Whether a place is the beginning of the text, which messages do not mention. -/
def isStart (mark : Mark) : Bool := mark.line == 0 && mark.column == 0

def sameAs (a b : Mark) : Bool := a.line == b.line && a.column == b.column

def text (mark : Mark) : String :=
  "line " ++ toString (mark.line + 1) ++ " column " ++ toString (mark.column + 1)

end Mark

inductive Problem where
  | controlCharacter
  | noKeyEnd
  | unusableCharacter
  | entryNotAllowed
  | keyNotAllowed
  | valueNotAllowed
  | noDirectiveName
  | badDirectiveName
  | unknownDirective
  | directiveNotEnded
  | noVersionPoint
  | longVersion
  | noVersionNumber
  | noWhitespace
  | noWhitespaceOrBreak
  | noTagMark
  | noTagText
  | noTagEnd
  | badOctets
  | badFirstOctet
  | badFurtherOctet
  | noName
  | zeroIndentation
  | headerNotEnded
  | tabInIndentation
  | tabInPlainScalar
  | documentMark
  | endOfText
  | unknownEscape
  | noHexDigits
  | badCodePoint
  | colonInPlainScalar
  | noDocumentStart
  | repeatedVersion
  | incompatibleVersion
  | repeatedTagDirective
  | undefinedTag
  | noContent
  | noBlockEntry
  | noBlockKey
  | noFlowEntry
  | noFlowKey
  deriving DecidableEq

def Problem.text : Problem → String
  | .controlCharacter => "control characters are not allowed"
  | .noKeyEnd => "could not find expected ':'"
  | .unusableCharacter => "found character that cannot start any token"
  | .entryNotAllowed => "block sequence entries are not allowed in this context"
  | .keyNotAllowed => "mapping keys are not allowed in this context"
  | .valueNotAllowed => "mapping values are not allowed in this context"
  | .noDirectiveName => "could not find expected directive name"
  | .badDirectiveName => "found unexpected non-alphabetical character"
  | .unknownDirective => "found unknown directive name"
  | .directiveNotEnded => "did not find expected comment or line break"
  | .noVersionPoint => "did not find expected digit or '.' character"
  | .longVersion => "found extremely long version number"
  | .noVersionNumber => "did not find expected version number"
  | .noWhitespace => "did not find expected whitespace"
  | .noWhitespaceOrBreak => "did not find expected whitespace or line break"
  | .noTagMark => "did not find expected '!'"
  | .noTagText => "did not find expected tag URI"
  | .noTagEnd => "did not find the expected '>'"
  | .badOctets => "did not find URI escaped octet"
  | .badFirstOctet => "found an incorrect leading UTF-8 octet"
  | .badFurtherOctet => "found an incorrect trailing UTF-8 octet"
  | .noName => "did not find expected alphabetic or numeric character"
  | .zeroIndentation => "found an indentation indicator equal to 0"
  | .headerNotEnded => "did not find expected comment or line break"
  | .tabInIndentation => "found a tab character where an indentation space is expected"
  | .tabInPlainScalar => "found a tab character that violates indentation"
  | .documentMark => "found unexpected document indicator"
  | .endOfText => "found unexpected end of stream"
  | .unknownEscape => "found unknown escape character"
  | .noHexDigits => "did not find expected hexdecimal number"
  | .badCodePoint => "found invalid Unicode character escape code"
  | .colonInPlainScalar => "found unexpected ':'"
  | .noDocumentStart => "did not find expected <document start>"
  | .repeatedVersion => "found duplicate %YAML directive"
  | .incompatibleVersion => "found incompatible YAML document"
  | .repeatedTagDirective => "found duplicate %TAG directive"
  | .undefinedTag => "found undefined tag handle"
  | .noContent => "did not find expected node content"
  | .noBlockEntry => "did not find expected '-' indicator"
  | .noBlockKey => "did not find expected key"
  | .noFlowEntry => "did not find expected ',' or ']'"
  | .noFlowKey => "did not find expected ',' or '\x7d'"

inductive Context where
  | simpleKey
  | nextToken
  | directive
  | versionDirective
  | tagDirective
  | tagDirectiveHandle
  | tagDirectiveText
  | tag
  | tagText
  | anchor
  | alias
  | blockScalar
  | quotedScalar
  | quotedEscape
  | plainScalar
  | node
  | blockNode
  | flowNode
  | blockSequence
  | blockMap
  | flowSequence
  | flowMap
  deriving DecidableEq

def Context.text : Context → String
  | .simpleKey => "while scanning a simple key"
  | .nextToken => "while scanning for the next token"
  | .directive => "while scanning a directive"
  | .versionDirective => "while scanning a %YAML directive"
  | .tagDirective => "while scanning a %TAG directive"
  | .tagDirectiveHandle => "while parsing a tag directive"
  | .tagDirectiveText => "while parsing a %TAG directive"
  | .tag => "while scanning a tag"
  | .tagText => "while parsing a tag"
  | .anchor => "while scanning an anchor"
  | .alias => "while scanning an alias"
  | .blockScalar => "while scanning a block scalar"
  | .quotedScalar => "while scanning a quoted scalar"
  | .quotedEscape => "while parsing a quoted scalar"
  | .plainScalar => "while scanning a plain scalar"
  | .node => "while parsing a node"
  | .blockNode => "while parsing a block node"
  | .flowNode => "while parsing a flow node"
  | .blockSequence => "while parsing a block collection"
  | .blockMap => "while parsing a block mapping"
  | .flowSequence => "while parsing a flow sequence"
  | .flowMap => "while parsing a flow mapping"

/-- A problem; where it was found, as a place or a number of bytes; and what was being read there. -/
structure Malformed where
  problem : Problem
  place : Mark
  position : Nat
  context : Option (Context × Mark)
  deriving DecidableEq

namespace Malformed

def of (problem : Problem) (place : Mark) : Malformed := ⟨problem, place, 0, none⟩

def within (problem : Problem) (place : Mark) (context : Context) (start : Mark) : Malformed :=
  ⟨problem, place, 0, some (context, start)⟩

def placeText (fault : Malformed) : String :=
  if !fault.place.isStart then " at " ++ fault.place.text
  else if fault.position ≠ 0 then " at position " ++ toString fault.position
  else ""

/-- The context, with its place unless that is the place of the problem. -/
def contextText (fault : Malformed) : String :=
  match fault.context with
  | none => ""
  | some (context, start) =>
      ", " ++ context.text ++
        if start.isStart || start.sameAs fault.place then "" else " at " ++ start.text

def message (fault : Malformed) : String :=
  fault.problem.text ++ fault.placeText ++ fault.contextText

end Malformed

end Yaml
end EventRules
