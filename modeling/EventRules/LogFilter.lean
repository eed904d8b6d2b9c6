import EventRules.Log
import EventRules.Text.Basic

/-!
# LogFilter — which log entries are shown

A filter is written as directives between commas: a level, a source, or a source and a level.  The
directive whose source begins most of an entry's source decides about the entry; a directive without
a source decides about all others.

* `LogFilter.ofText` — the filter that a text describes;
* `LogFilter.shows` — whether a filter shows an entry.
-/

namespace EventRules

structure LogDirective where
  /-- How the sources begin that the directive is about; empty for all of them. -/
  target : String
  verbosity : Nat
  deriving DecidableEq

structure LogFilter where
  directives : List LogDirective
  deriving DecidableEq

namespace LogDirective

/-- How much is shown when everything is. -/
def full : Nat := 5

def levelNames : List (String × Nat) :=
  [("off", 0), ("error", 1), ("warn", 2), ("info", 3), ("debug", 4), ("trace", 5),
    ("0", 0), ("1", 1), ("2", 2), ("3", 3), ("4", 4), ("5", 5)]

/-- The level of a word, in any case of letters. -/
def verbosity? (word : List Char) : Option Nat :=
  levelNames.lookup (String.ofList (word.map Char.toLower))

def isTargetChar (c : Char) : Bool := c.isAlphanum || ['_', ':', '-'].contains c

def isTarget (word : List Char) : Bool := !word.isEmpty && word.all isTargetChar

/-- What follows an equals sign: a level, or nothing for all of them. -/
def behindEquals? : List Char → Option Nat
  | ['='] => some full
  | '=' :: rest => verbosity? rest
  | _ => none

def ofChars? (directive : List Char) : Option LogDirective :=
  match verbosity? directive with
  | some verbosity => some ⟨"", verbosity⟩
  | none =>
      let (target, rest) := directive.span (· != '=')
      if !isTarget target then none
      else if rest.isEmpty then some ⟨String.ofList target, full⟩
      else (behindEquals? rest).map (LogDirective.mk (String.ofList target))

/-- Whether a directive is about a source. -/
def covers (directive : LogDirective) (source : String) : Bool :=
  directive.target.toList.isPrefixOf source.toList

end LogDirective

namespace LogFilter

/-- The filter that only shows entries up to a level. -/
def upTo (level : LogLevel) : LogFilter := ⟨[⟨"", level.verbosity⟩]⟩

/-- The filter of a text; without a directive only errors are shown. -/
def ofText? (text : String) : Option LogFilter := do
  let parts := (text.toList.splitOn ',').filter fun part => !part.isEmpty
  let directives ← parts.mapM fun part => LogDirective.ofChars? (Text.trimChars part)
  return if directives.isEmpty then upTo .error else ⟨directives⟩

/-- The filter of a text that may be absent or wrong. -/
def ofText (text : Option String) : LogFilter := (text.bind ofText?).getD (upTo .info)

/-- The one of two directives that is about fewer sources; the later one of two about the same. -/
def narrower (best : Option LogDirective) (next : LogDirective) : Option LogDirective :=
  match best with
  | none => some next
  | some directive =>
      some (if directive.target.length ≤ next.target.length then next else directive)

/-- How much of a source is shown. -/
def verbosity (filter : LogFilter) (source : String) : Nat :=
  let covering := filter.directives.filter fun directive => directive.covers source
  ((covering.foldl narrower none).map LogDirective.verbosity).getD 0

def shows (filter : LogFilter) (entry : LogEntry) : Bool :=
  entry.level.verbosity ≤ filter.verbosity entry.source.name

end LogFilter

end EventRules
