import EventRules.Yaml.Token.Basic

/-!
# Basic — the events that a document consists of

* `Event` — a scalar, an alias, or the beginning or end of a collection;
* `Events` — the events of the first document up to the first fault.
-/

namespace EventRules
namespace Yaml

/-- What a node may have besides its content. -/
structure Properties where
  anchor : Option String
  tag : Option String
  deriving DecidableEq

inductive Event where
  | scalar (properties : Properties) (text : String) (style : Style)
  | alias (name : String)
  | sequenceStart (properties : Properties)
  | sequenceEnd
  | mapStart (properties : Properties)
  | mapEnd
  deriving DecidableEq

structure Events where
  /-- Each event with the place where it begins. -/
  events : List (Event × Mark)
  fault : Option Malformed
  /-- Whether there is a document at all, and whether anything follows it. -/
  any : Bool
  more : Bool

end Yaml
end EventRules
