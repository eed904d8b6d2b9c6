import EventRules.Template.Expression
import EventRules.Template.Token.Tokens

/-!
# Grammar — expressions and statements from tokens

Operators bind, from loosest to tightest: a choice with `if`, `or`, `and`, `not`, comparisons, sums,
`~`, products, `**`, a minus sign, and then attribute, item, call, filter and test behind a value.
Operators of one level associate to the left.  Nesting is limited.

* `Grammar.expression` — one expression that is a whole source;
* `Grammar.template` — the statements of a template.
-/

namespace EventRules
namespace Template
namespace Grammar

/-- A place among the tokens. -/
structure Cursor where
  rest : List Placed
  /-- Why there are no tokens behind the last one, if that is a fault. -/
  fault : Option Fault
  /-- The line of the token that was taken last. -/
  line : Nat
  /-- How many expressions and blocks are open. -/
  depth : Nat
  /-- The names of blocks so far. -/
  names : List String
  /-- The blocks with a name so far. -/
  blocks : List (String × List Statement)
  inRoutine : Bool
  /-- Whether the routine at hand has named its caller so far. -/
  usesCaller : Bool

abbrev Parser := StateT Cursor (Except Fault)

def fail {α : Type} (detail : String) : Parser α := do
  throw ((Fault.malformed detail).onLine (← get).line)

/-! ## Single tokens -/

/-- The token at the cursor. -/
def current? : Parser (Option Token) := do
  let cursor ← get
  match cursor.rest, cursor.fault with
  | placed :: _, _ => return some placed.token
  | [], some fault => throw fault
  | [], none => return none

/-- The line of the token at the cursor, or of the one before it at the end. -/
def currentLine : Parser Nat := do
  let cursor ← get
  return (cursor.rest.head?.map (·.line)).getD cursor.line

/-- Takes the token at the cursor. -/
def next? : Parser (Option Token) := do
  let token ← current?
  modify fun cursor =>
    match cursor.rest with
    | placed :: rest => { cursor with rest := rest, line := placed.line }
    | [] => cursor
  return token

def unexpected {α : Type} (token : Option Token) (expected : String) : Parser α :=
  match token with
  | some t => fail ("unexpected " ++ t.describe ++ ", expected " ++ expected)
  | none => fail ("unexpected end of input, expected " ++ expected)

/-- Takes a token that has to be there. -/
def expect (token : Token) (expected : String) : Parser Unit := do
  let found ← next?
  if found = some token then return () else unexpected found expected

def expectName (expected : String) : Parser String := do
  match ← next? with
  | some (.name s) => return s
  | found => unexpected found expected

/-- Takes a token if it is there. -/
def skip (token : Token) : Parser Bool := do
  if (← current?) = some token then
    let _ ← next?
    return true
  else return false

def isAt (token : Token) : Parser Bool := do return (← current?) = some token

def sign (s : String) : Token := .sign s

def endOfBlock : Parser Unit := expect .blockEnd "end of block"

/-! ## Nesting -/

/-- The greatest number of open expressions and blocks. -/
def depthLimit : Nat := 150

/-- Parses something one level deeper. -/
def deeper {α : Type} (parser : Parser α) : Parser α := do
  let depth := (← get).depth + 1
  if depthLimit < depth then fail "template exceeds maximum recursion limits"
  else
    modify fun cursor => { cursor with depth := depth }
    let result ← parser
    modify fun cursor => { cursor with depth := depth - 1 }
    return result

/-- Repeats a step that takes tokens until it has nothing to add. -/
def repeatWith {α : Type} (step : α → Parser (Option α)) : (steps : Nat) → α → Parser α
  | 0, value => return value
  | steps + 1, value => do
      match ← step value with
      | some grown => repeatWith step steps grown
      | none => return value

def grow {α : Type} (step : α → Parser (Option α)) (start : α) : Parser α := do
  repeatWith step ((← get).rest.length + 1) start

/-! ## Brackets and arguments -/

/-- The items up to a closing sign, with commas between them. -/
def separated {α : Type} (close comma : String) (item : Parser α) : Parser (List α) := do
  let found ← grow (fun (state : List α × Bool) => do
    let (items, finished) := state
    if finished then return none
    else if ← skip (sign close) then return some (items, true)
    else
      if !items.isEmpty then expect (sign ",") comma
      if !items.isEmpty && (← skip (sign close)) then return some (items, true)
      else return some ((← item) :: items, false)) ([], false)
  return found.1.reverse

def isNamed : Argument → Bool
  | .named _ _ => true
  | .spreadNamed _ => true
  | _ => false

/-- One argument of a call; `named` says whether one with a name has been given. -/
def argument (expr orLevel : Parser Expr) (named : Bool) : Parser Argument := do
  if ← skip (sign "**") then return .spreadNamed (← expr)
  else if ← skip (sign "*") then return .spread (← expr)
  else
    let value ← expr
    match value with
    | .var name _ =>
        if ← skip (sign "=") then return .named name (← orLevel)
        else if named then fail "non-keyword arg after keyword arg"
        else return .positional value
    | _ => if named then fail "non-keyword arg after keyword arg" else return .positional value

def arguments (expr orLevel : Parser Expr) : Parser (List Argument) := do
  expect (sign "(") "`(`"
  let found ← grow (fun (state : List Argument × Bool) => do
    let (args, finished) := state
    if finished then return none
    else if ← skip (sign ")") then return some (args, true)
    else
      if !args.isEmpty then expect (sign ",") "`,`"
      if !args.isEmpty && (← skip (sign ")")) then return some (args, true)
      else
        let arg ← argument expr orLevel (args.any isNamed)
        return some (arg :: args, false)) ([], false)
  return found.1.reverse

/-! ## Values -/

/-- Further strings that follow a string. -/
def moreStrings (first : String) : Parser String :=
  grow (fun s => do
    match ← current? with
    | some (.string t) =>
        let _ ← next?
        return some (s ++ t)
    | _ => return none) first

/-- What stands between round brackets. -/
def tupleOrGroup (expr : Parser Expr) : Parser Expr := do
  if ← skip (sign ")") then return .list []
  else
    let first ← expr
    if ← isAt (sign ",") then
      let found ← grow (fun (state : List Expr × Bool) => do
        let (items, finished) := state
        if finished then return none
        else if ← skip (sign ")") then return some (items, true)
        else
          expect (sign ",") "`,`"
          if ← skip (sign ")") then return some (items, true)
          else return some ((← expr) :: items, false)) ([first], false)
      return .list found.1.reverse
    else
      expect (sign ")") "`)`"
      return first

def mapEntry (expr : Parser Expr) : Parser (Expr × Expr) := do
  let key ← expr
  expect (sign ":") "`:`"
  let value ← expr
  return (key, value)

def primary (expr : Parser Expr) : Parser Expr := deeper do
  match ← next? with
  | none => unexpected none "expression"
  | some (.name s) =>
      if s = "true" || s = "True" then return .literal (.bool true)
      else if s = "false" || s = "False" then return .literal (.bool false)
      else if s = "none" || s = "None" then return .literal .none
      else
        if s = "caller" then modify fun cursor => { cursor with usesCaller := true }
        return .var s (← get).line
  | some (.string s) => return .literal (.string (← moreStrings s))
  | some (.integer n) => return .literal (.integer n)
  | some (.float x) => return .literal (.float x)
  | some token =>
      if token = sign "(" then tupleOrGroup expr
      else if token = sign "[" then return .list (← separated "]" "`,`" expr)
      else if token = sign "\x7b" then return .map (← separated "\x7d" "`,`" (mapEntry expr))
      else fail ("unexpected " ++ token.describe)

/-! ## Behind a value -/

/-- A part of a slice, if one stands before the next sign. -/
def slicePart (expr : Parser Expr) (atColon : Bool) : Parser (Option Expr) := do
  if (← isAt (sign "]")) || (atColon && (← isAt (sign ":"))) then return none
  else return some (← expr)

/-- An index or a slice behind its opening bracket. -/
def subscript (expr : Parser Expr) (value : Expr) (line : Nat) : Parser Expr := do
  let start ← if ← isAt (sign ":") then pure none else some <$> expr
  if ← skip (sign ":") then
    let stop ← slicePart expr true
    let step ← if ← skip (sign ":") then slicePart expr false else pure none
    expect (sign "]") "`]`"
    return .slice value start stop step line
  else
    expect (sign "]") "`]`"
    match start with
    | some index => return .item value index line
    | none => fail "empty subscript"

/-- Attributes, items and calls behind a value that begins on a line. -/
def postfixed (expr orLevel : Parser Expr) (value : Expr) (line : Nat) : Parser Expr := do
  let found ← grow (fun (state : Expr × Nat) => do
    let (value, line) := state
    let here ← currentLine
    match ← current? with
    | some (.sign ".") =>
        let _ ← next?
        match ← next? with
        | some (.name s) => return some (.attribute value s line, here)
        | some (.integer n) => return some (.item value (.literal (.integer n)) line, here)
        | other => unexpected other "identifier or integer"
    | some (.sign "[") =>
        let _ ← next?
        return some (← subscript expr value line, here)
    | some (.sign "(") => return some (.call value (← arguments expr orLevel) line, here)
    | _ => return none) (value, line)
  return found.1

/-- A value behind any number of minus signs. -/
def signedPrimary (expr : Parser Expr) : Parser Expr := do
  let lines ← grow (fun lines => do
    let here ← currentLine
    if ← skip (sign "-") then return some (here :: lines) else return none) []
  let value ← primary expr
  return lines.foldl (fun value line => .minus value line) value

/-- Whether a token can begin the one argument that a test takes without brackets. -/
def beginsArgument : Option Token → Bool
  | some (.name s) => !(s = "and" || s = "or" || s = "else" || s = "is")
  | some (.string _) | some (.integer _) | some (.float _) => true
  | some (.sign s) => s = "+" || s = "-" || s = "[" || s = "\x7b"
  | _ => false

/-- Filters and tests behind a value. -/
def filtered (expr orLevel : Parser Expr) (value : Expr) : Parser Expr :=
  grow (fun value => do
    match ← current? with
    | some (.sign "|") =>
        let _ ← next?
        let name ← expectName "identifier"
        let line := (← get).line
        let args ← if ← isAt (sign "(") then arguments expr orLevel else pure []
        return some (.filter name (some value) args line)
    | some (.name "is") =>
        let _ ← next?
        let negated ← skip (.name "not")
        let name ← expectName "identifier"
        let line := (← get).line
        let args ←
          if ← isAt (sign "(") then arguments expr orLevel
          else if beginsArgument (← current?) then do
            let start ← currentLine
            let arg ← signedPrimary expr
            pure [.positional (← postfixed expr orLevel arg start)]
          else pure []
        let test := Expr.test name value args line
        return some (if negated then .negation test else test)
    | _ => return none) value

def signed (expr orLevel : Parser Expr) : Parser Expr := do
  let start ← currentLine
  let value ← signedPrimary expr
  filtered expr orLevel (← postfixed expr orLevel value start)

/-! ## Operators -/

/-- Operands of one level with operators of that level between them. -/
def leftAssociative (op? : Token → Option BinaryOp) (operand : Parser Expr) : Parser Expr := do
  let line := (← get).line
  let first ← operand
  grow (fun left => do
    match (← current?).bind op? with
    | some op =>
        let _ ← next?
        return some (.binary op left (← operand) line)
    | none => return none) first

def powerOp? : Token → Option BinaryOp
  | .sign "**" => some .power
  | _ => none

def productOp? : Token → Option BinaryOp
  | .sign "*" => some .mul
  | .sign "/" => some .div
  | .sign "//" => some .floorDiv
  | .sign "%" => some .remainder
  | _ => none

def joinOp? : Token → Option BinaryOp
  | .sign "~" => some .join
  | _ => none

def sumOp? : Token → Option BinaryOp
  | .sign "+" => some .add
  | .sign "-" => some .sub
  | _ => none

def comparisonOp? : Token → Option BinaryOp
  | .sign "==" => some .equal
  | .sign "!=" => some .unequal
  | .sign "<" => some .less
  | .sign "<=" => some .lessOrEqual
  | .sign ">" => some .greater
  | .sign ">=" => some .greaterOrEqual
  | .name "in" => some .contained
  | _ => none

def andOp? : Token → Option BinaryOp
  | .name "and" => some .both
  | _ => none

def orOp? : Token → Option BinaryOp
  | .name "or" => some .either
  | _ => none

def sums (expr orLevel : Parser Expr) : Parser Expr :=
  leftAssociative sumOp? <|
    leftAssociative joinOp? <|
      leftAssociative productOp? <|
        leftAssociative powerOp? (signed expr orLevel)

def comparisons (expr orLevel : Parser Expr) : Parser Expr := do
  let line := (← get).line
  let first ← sums expr orLevel
  grow (fun left => do
    let token ← current?
    if token = some (.name "not") then
      let _ ← next?
      expect (.name "in") "in"
      let right ← sums expr orLevel
      return some (.negation (.binary .contained left right line))
    else
      match token.bind comparisonOp? with
      | some op =>
          let _ ← next?
          return some (.binary op left (← sums expr orLevel) line)
      | none => return none) first

def negations (expr orLevel : Parser Expr) : Parser Expr := do
  let count ← grow (fun n => do
    if ← skip (.name "not") then return some (n + 1) else return none) 0
  let value ← comparisons expr orLevel
  return count.fold (fun _ _ value => .negation value) value

/-- An expression without a choice, given how to parse what is nested in it. -/
def alternatives (expr orLevel : Parser Expr) : Parser Expr :=
  leftAssociative orOp? <| leftAssociative andOp? (negations expr orLevel)

def choices (expr orLevel : Parser Expr) : Parser Expr := do
  let first ← alternatives expr orLevel
  grow (fun yes => do
    if ← skip (.name "if") then
      let test ← alternatives expr orLevel
      let no ← if ← skip (.name "else") then some <$> expr else pure none
      return some (.choice test yes no)
    else return none) first

/-- An expression with at most so many levels of nesting, and the same without a choice. -/
def exprs : (levels : Nat) → Parser Expr × Parser Expr
  | 0 => (fail "template exceeds maximum recursion limits",
      fail "template exceeds maximum recursion limits")
  | levels + 1 =>
      let inner := exprs levels
      (deeper (choices inner.1 inner.2), alternatives inner.1 inner.2)

/-- An expression; its levels are fewer than the tokens that are left. -/
def expr : Parser Expr := do (exprs ((← get).rest.length + 1)).1

def exprWithoutChoice : Parser Expr := do (exprs ((← get).rest.length + 1)).2

/-! ## Targets of assignments -/

def reservedNames : List String :=
  ["true", "True", "false", "False", "none", "None", "loop", "self"]

def targetName : Parser String := do
  let name ← expectName "identifier"
  if reservedNames.contains name then fail ("cannot assign to reserved variable name " ++ name)
  else return name

/-- Attributes behind a target. -/
def dotted (first : Target) (line : Nat) : Parser Target :=
  grow (fun target => do
    if ← skip (sign ".") then
      let name ← expectName "identifier"
      let value :=
        match target with
        | .attribute value inner _ => Expr.attribute value inner line
        | .name s => .var s line
        | .tuple _ => .list []
      return some (.attribute value name line)
    else return none) first

def endsTargets : Option Token → Bool
  | some (.sign ")") | some .outputEnd | some .blockEnd | some (.name "in") => true
  | _ => false

def targets (allowDots : Bool) : (levels : Nat) → Parser Target
  | 0 => fail "template exceeds maximum recursion limits"
  | levels + 1 => do
      let (items, isTuple, _) ← grow (fun (state : List Target × Bool × Bool) => do
        let (items, isTuple, finished) := state
        if finished then return none
        else
          if !items.isEmpty then expect (sign ",") "`,`"
          if endsTargets (← current?) then return some (items, isTuple, true)
          else
            let item ←
              if ← skip (sign "(") then do
                let inner ← targets allowDots levels
                expect (sign ")") "`)`"
                pure inner
              else do
                let name ← targetName
                let line := (← get).line
                if allowDots then dotted (.name name) line else pure (.name name)
            if ← isAt (sign ",") then return some (item :: items, true, false)
            else return some (item :: items, isTuple, true)) ([], false, false)
      match items, isTuple with
      | [item], false => return item
      | _, _ => return .tuple items.reverse

def target (allowDots : Bool) : Parser Target := do
  targets allowDots ((← get).rest.length + 1)

/-! ## Statements -/

/-- The statements up to a block that begins with one of the given words, or to the end. -/
def statementsUntil (statement : Parser Statement) (ends : List String) :
    Parser (List Statement) := do
  let found ← grow (fun (state : List Statement × Bool) => do
    let (items, finished) := state
    if finished then return none
    else
      match ← next? with
      | none => return some (items, true)
      | some (.text s) => return some (.text s :: items, false)
      | some .outputStart =>
          let line := (← get).line
          let value ← expr
          expect .outputEnd "end of variable block"
          return some (.output value line :: items, false)
      | some .blockStart =>
          match ← current? with
          | none => unexpected none "keyword"
          | some token =>
              let stops :=
                match token with
                | .name s => ends.contains s
                | _ => false
              if stops then return some (items, true)
              else
                let item ← statement
                endOfBlock
                return some (item :: items, false)
      | some token => fail ("unexpected " ++ token.describe)) ([], false)
  return found.1.reverse

/-- The statements of a block up to the word that ends it, which is taken too. -/
def bodyUntil (statement : Parser Statement) (last : String) : Parser (List Statement) := do
  let body ← statementsUntil statement [last]
  let _ ← next?
  return body

def forBlock (statement : Parser Statement) : Parser Statement := do
  let line := (← get).line
  let target ← target false
  expect (.name "in") "in"
  let items ← exprWithoutChoice
  let only ← if ← skip (.name "if") then some <$> expr else pure none
  let recursive ← skip (.name "recursive")
  endOfBlock
  let body ← statementsUntil statement ["endfor", "else"]
  let otherwise ←
    if ← skip (.name "else") then do
      endOfBlock
      statementsUntil statement ["endfor"]
    else pure []
  let _ ← next?
  return .loop target items only recursive body otherwise line

/-- A choice behind its first word; every further `elif` is one level deeper. -/
def ifBlock (statement : Parser Statement) : (levels : Nat) → Parser Statement
  | 0 => fail "template exceeds maximum recursion limits"
  | levels + 1 => do
      let test ← expr
      endOfBlock
      let yes ← statementsUntil statement ["endif", "else", "elif"]
      match ← next? with
      | some (.name "else") =>
          endOfBlock
          let no ← bodyUntil statement "endif"
          return .choice test yes no
      | some (.name "elif") => return .choice test yes [← ifBlock statement levels]
      | _ => return .choice test yes []

def scopeBlock (statement : Parser Statement) : Parser Statement := do
  let assignments ← grow (fun (found : List (Target × Expr)) => do
    if ← isAt .blockEnd then return none
    else
      if !found.isEmpty then expect (sign ",") "comma"
      let target ←
        if ← skip (sign "(") then do
          let inner ← target false
          expect (sign ")") "`)`"
          pure inner
        else .name <$> targetName
      expect (sign "=") "assignment operator"
      let value ← expr
      return some ((target, value) :: found)) []
  endOfBlock
  let body ← bodyUntil statement "endwith"
  return .scope assignments.reverse body

/-- Filters that are applied to the text of a block. -/
def filterChain : Parser Expr := do
  let chain ← grow (fun (filter? : Option Expr) => do
    if ← isAt .blockEnd then return none
    else
      if filter?.isSome then expect (sign "|") "`|`"
      let name ← expectName "identifier"
      let line := (← get).line
      let args ← if ← isAt (sign "(") then arguments expr exprWithoutChoice else pure []
      return some (some (.filter name filter? args line))) none
  match chain with
  | some filter => return filter
  | none => fail "expected a filter"

def setBlock (statement : Parser Statement) : Parser Statement := do
  let line := (← get).line
  let inBrackets ← skip (sign "(")
  let target ← target true
  if inBrackets then expect (sign ")") "`)`"
  if !inBrackets && ((← isAt .blockEnd) || (← isAt (sign "|"))) then
    let filter ← if ← skip (sign "|") then some <$> filterChain else pure none
    endOfBlock
    let body ← bodyUntil statement "endset"
    return .assignText target filter body line
  else
    expect (sign "=") "assignment operator"
    return .assign target (← expr) line

def namedBlock (statement : Parser Statement) : Parser Statement := do
  if (← get).inRoutine then fail "block tags in macros are not allowed"
  else
    let name ← expectName "identifier"
    if (← get).names.contains name then fail ("block '" ++ name ++ "' defined twice")
    else
      modify fun cursor => { cursor with names := name :: cursor.names }
      endOfBlock
      let body ← bodyUntil statement "endblock"
      modify fun cursor => { cursor with blocks := (name, body) :: cursor.blocks }
      match ← current? with
      | some (.name trailing) =>
          if trailing = name then
            let _ ← next?
            return .block name body
          else
            fail ("mismatching name on block. Got `" ++ trailing ++ "`, expected `" ++ name ++ "`")
      | _ => return .block name body

/-- Words about the context that change nothing. -/
def skipContext : Parser Unit := do
  if (← skip (.name "without")) || (← skip (.name "with")) then
    expect (.name "context") "missing keyword"

def embedBlock : Parser Statement := do
  let line := (← get).line
  let source ← expr
  skipContext
  if ← skip (.name "ignore") then
    expect (.name "missing") "missing keyword"
    skipContext
    return .embed source true line
  else return .embed source false line

def importBlock : Parser Statement := do
  let line := (← get).line
  let source ← expr
  expect (.name "as") "as"
  let _ ← expr
  skipContext
  return .load source line

def importNames : Parser Statement := do
  let line := (← get).line
  let source ← expr
  expect (.name "import") "import"
  let _ ← grow (fun (n : Nat) => do
    if ← isAt .blockEnd then return none
    else
      if n ≠ 0 then expect (sign ",") "`,`"
      if ← isAt .blockEnd then return none
      else
        let _ ← targetName
        if ← skip (.name "as") then
          let _ ← targetName
        return some (n + 1)) 0
  skipContext
  return .load source line

/-- Parameters behind their opening bracket; behind one with a default all have one. -/
def parameters : Parser (List (String × Option Expr)) := do
  let found ← grow (fun (state : List (String × Option Expr) × Bool) => do
    let (params, finished) := state
    if finished then return none
    else if ← skip (sign ")") then return some (params, true)
    else
      if !params.isEmpty then expect (sign ",") "`,`"
      if !params.isEmpty && (← skip (sign ")")) then return some (params, true)
      else
        let name ← targetName
        if ← skip (sign "=") then return some ((name, some (← expr)) :: params, false)
        else if params.any (·.2.isSome) then
          expect (sign "=") "`=`"
          return none
        else return some ((name, none) :: params, false)) ([], false)
  return found.1.reverse

/-- A routine from its parameters on; there are no named blocks in it. -/
def routineOf (parameters : Parser (List (String × Option Expr))) (statement : Parser Statement)
    (name last : String) : Parser Routine := do
  let before ← get
  modify fun cursor => { cursor with usesCaller := false }
  let params ← parameters
  endOfBlock
  modify fun cursor => { cursor with inRoutine := true }
  let body ← bodyUntil statement last
  let usesCaller := (← get).usesCaller && !(params.any fun p => p.1 = "caller")
  modify fun cursor =>
    { cursor with inRoutine := before.inRoutine, usesCaller := before.usesCaller }
  return .mk name params body usesCaller

def routineBlock (statement : Parser Statement) : Parser Statement := do
  let name ← expectName "identifier"
  expect (sign "(") "`(`"
  return .define (← routineOf parameters statement name "endmacro")

def callBlock (statement : Parser Statement) : Parser Statement := do
  let line := (← get).line
  let params ← if ← skip (sign "(") then parameters else pure []
  match ← expr with
  | .call callee args _ =>
      return .callWith callee args (← routineOf (pure params) statement "caller" "endcall") line
  | other => fail ("expected call expression in call block, got " ++ other.describe)

def doBlock : Parser Statement := do
  match ← expr with
  | .call callee args line => return .perform (.call callee args line)
  | other => fail ("expected call expression in do block, got " ++ other.describe)

/-- The statement of a block, given how to parse those nested in it. -/
def statementWith (statement : Parser Statement) : Parser Statement := deeper do
  match ← next? with
  | none => unexpected none "keyword"
  | some (.name "for") => forBlock statement
  | some (.name "if") => ifBlock statement ((← get).rest.length + 1)
  | some (.name "with") => scopeBlock statement
  | some (.name "set") => setBlock statement
  | some (.name "autoescape") => do
      let line := (← get).line
      let mode ← expr
      endOfBlock
      return .escaping mode (← bodyUntil statement "endautoescape") line
  | some (.name "filter") => do
      let filter ← filterChain
      endOfBlock
      return .filtered filter (← bodyUntil statement "endfilter")
  | some (.name "block") => namedBlock statement
  | some (.name "extends") => do
      let line := (← get).line
      return .inherit (← expr) line
  | some (.name "include") => embedBlock
  | some (.name "import") => importBlock
  | some (.name "from") => importNames
  | some (.name "macro") => routineBlock statement
  | some (.name "call") => callBlock statement
  | some (.name "do") => doBlock
  | some (.name name) => fail ("unknown statement " ++ name)
  | some token => fail ("unknown " ++ token.describe ++ ", expected statement")

def statement : (levels : Nat) → Parser Statement
  | 0 => fail "template exceeds maximum recursion limits"
  | levels + 1 => statementWith (statement levels)

/-! ## Sources -/

def start (tokens : Tokens) : Cursor where
  rest := tokens.tokens
  fault := tokens.fault
  line := 1
  depth := 0
  names := []
  blocks := []
  inRoutine := false
  usesCaller := false

def wholeExpression : Parser Expr := do
  let value ← expr
  match ← current? with
  | none => return value
  | some _ => fail "unexpected input after expression"

/-- The expression that a source is. -/
def expression (source : String) : Except Fault Expr :=
  (wholeExpression.run (start (Tokens.ofExpression source))).map (·.1)

def wholeTemplate : Parser (List Statement) := do
  statementsUntil (statement ((← get).rest.length + 1)) []

/-- The statements of a template and its blocks with a name. -/
def template (source : String) : Except Fault Document :=
  (wholeTemplate.run (start (Tokens.ofTemplate source))).map fun (statements, cursor) =>
    ⟨statements, cursor.blocks⟩

end Grammar
end Template
end EventRules
