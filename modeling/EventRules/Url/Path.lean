import EventRules.Url.Basic

/-!
# Path — segments put one behind the other

A segment of one dot stays where the path is, and a segment of two dots goes one segment back; both
leave an empty segment where they end the path.  The path of a file has no empty segments in front and
may begin with the letter of a drive.

* `Path.ofTexts` — the path of the segments of a text;
* `Url.append` — a locator with further segments, none of which can lead out of the path.
-/

namespace EventRules
namespace Path

/-! ## Segments -/

def isOneDot (segment : String) : Bool := [".", "%2e"].contains segment.toLower

def isTwoDots (segment : String) : Bool :=
  ["..", ".%2e", "%2e.", "%2e%2e"].contains segment.toLower

/-- The letter of a drive with the given marks behind it. -/
def isDrive (marks : List Char) (segment : String) : Bool :=
  match segment.toList with
  | [letter, mark] => letter.isAlpha && marks.contains mark
  | _ => false

/-- Goes one segment back, but not behind the letter of a drive. -/
def back (isFile : Bool) (path : List String) : List String :=
  match path with
  | [only] => if isFile && isDrive [':'] only then [only] else []
  | _ => path.dropLast

/-- A segment as it is added to a path. -/
def added (isFile : Bool) (path : List String) (segment : String) : String :=
  if isFile && path.isEmpty && isDrive [':', '|'] segment then
    String.ofList (segment.toList.take 1 ++ [':'])
  else segment

/-- Adds an encoded segment; `isLast` says that no slash follows it. -/
def step (isFile isLast : Bool) (path : List String) (segment : String) : List String :=
  let ending := if isLast then [""] else []
  if isTwoDots segment then back isFile path ++ ending
  else if isOneDot segment then path ++ ending
  else path ++ [added isFile path segment]

def steps (isFile : Bool) (path : List String) : List String → List String
  | [] => path
  | [segment] => step isFile true path segment
  | segment :: rest => steps isFile (step isFile false path segment) rest

/-- The path of a file has no empty segments in front, unless there is nothing else. -/
def settled (isFile : Bool) (path : List String) : List String :=
  if isFile then
    match path.dropWhile (· == "") with
    | [] => [""]
    | rest => rest
  else path

/-- The path of segments that have not been encoded. -/
def ofTexts (isFile : Bool) (texts : List (List Char)) : List String :=
  settled isFile (steps isFile [] (texts.map fun cs =>
    String.ofList (Percent.encode Percent.inPath cs)))

/-! ## Appending -/

/-- Tabs and line ends have no place in a locator. -/
def isRemoved (c : Char) : Bool := c = '\t' || c = '\n' || c = '\r'

/-- Adds a text as one segment; a text of one or two dots adds nothing. -/
def push (special isFile : Bool) (path : List String) (text : String) : List String :=
  if text = "." || text = ".." then path
  else
    let before := if path = [""] then [] else path
    let encoded := Percent.encode (Percent.inSegment special)
      (text.toList.filter fun c => !isRemoved c)
    settled isFile (step isFile true before (String.ofList encoded))

/-- A path without the empty segment at its end. -/
def trimmed (path : List String) : List String :=
  if path.getLast? = some "" && path != [""] then path.dropLast else path

end Path

/-- A locator with further segments behind its path. -/
def Url.append (url : Url) (texts : List String) : Url :=
  { url with
    segments := texts.foldl (Path.push url.isKnown (url.scheme == "file"))
      (Path.trimmed url.segments) }

end EventRules
