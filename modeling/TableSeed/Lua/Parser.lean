import TableSeed.Lua.Syntax
import TableSeed.Lua.Token

/-!
# Parsing Lua

The grammar is built level by level: a parser at one level calls those of the level below for the
expressions and statements inside its own, so nesting is bounded by the number of levels. Names
are resolved on the way, and what the grammar alone does not say is checked: jumps reach a visible
label without entering the scope of a variable, constants are not assigned, and loops are left
only from within.
-/

namespace TableSeed.Lua

/-- A local variable in scope. -/
structure LocalVariable where
  name : String
  kind : LocalKind := .regular

/-- A jump whose label has not been seen. -/
structure PendingJump where
  label : String
  /-- The number of variables in scope at the jump, or where its blocks have ended since. -/
  scope : Nat
  line : Nat

/-- What a parser has before it and around it. -/
structure ParserState where
  tokens : List Lexeme
  /-- The line of the last token taken. -/
  line : Nat := 1
  /-- The variables in scope, innermost first. -/
  locals : List LocalVariable
  /-- The number of variables of the functions around this one. -/
  base : Nat := 0
  variadic : Bool := true
  inLoop : Bool := false
  /-- The labels of the blocks around this place in this function. -/
  labels : List String := []
  pending : List PendingJump := []
  /-- The number of variables in scope where the innermost block starts. -/
  blockScope : Nat := 0

/-- A parser; it fails with the line and the fault. -/
abbrev Parser (α : Type) := StateT ParserState (Except (Nat × SourceFault)) α

namespace Parser

/-- Fails at the current token. -/
def fail {α : Type} (fault : SourceFault) : Parser α := do
  let s ← get
  throw (match s.tokens with
    | t :: _ => t.line
    | [] => s.line, fault)

/-- The next token, which stays. -/
def peek : Parser (Option Token) := do return (← get).tokens.head?.map (·.token)

/-- The token after the next, which stays. -/
def peekSecond : Parser (Option Token) := do
  match (← get).tokens with
  | _ :: t :: _ => return some t.token
  | _ => return none

/-- The line of the next token. -/
def nextLine : Parser Nat := do
  let s ← get
  match s.tokens with
  | t :: _ => return t.line
  | [] => return s.line

/-- Takes the next token away. -/
def advance : Parser Unit := modify fun s =>
  match s.tokens with
  | t :: rest => { s with tokens := rest, line := t.line }
  | [] => s

/-- Whether the next token is that symbol. -/
def isNext (symbol : Symbol) : Parser Bool := do return (← peek) == some (.symbol symbol)

/-- Takes the symbol away if it comes next. -/
def accept (symbol : Symbol) : Parser Bool := do
  if ← isNext symbol then
    advance
    return true
  else return false

/-- Takes the symbol away, which must come next. -/
def expect (symbol : Symbol) (what : String) : Parser Unit := do
  if ← accept symbol then return () else fail (.expected what)

/-- Takes a name away. -/
def name : Parser String := do
  match ← peek with
  | some (.name s) =>
    advance
    return s
  | _ => fail (.expected "<name>")

/-- The greatest number of variables of one function. -/
def maxLocals : Nat := 200

/-- Brings a variable into scope. -/
def declare (v : LocalVariable) : Parser Unit := do
  let s ← get
  if s.locals.length - s.base ≥ maxLocals then fail .tooManyLocals
  else set { s with locals := v :: s.locals }

/-- The distance of the innermost variable of that name, and its kind. -/
def resolve? (name : String) : List LocalVariable → Nat → Option (Nat × LocalKind)
  | [], _ => none
  | v :: rest, n => if v.name = name then some (n, v.kind) else resolve? name rest (n + 1)

/-- The name of the outermost variable, whose fields are the free names. -/
def environmentName : String := "_ENV"

/-- The expression that a name stands for. -/
def variableExpr (name : String) (line : Nat) : Parser Expr := do
  let s ← get
  match resolve? name s.locals 0 with
  | some (n, _) => return .var n name
  | none =>
    match resolve? environmentName s.locals 0 with
    | some (n, _) => return .index (.var n environmentName) (.const (.ofText name)) line
    | none => fail .unexpected

/-- What stands between two operands: an operator, or a connective that may skip the second. -/
inductive Connective where
  | op (op : BinaryOp)
  | both
  | either

/-- The operator of a token, with its precedence on the left and on the right. -/
def connective? : Token → Option (Connective × Nat × Nat)
  | .symbol .plus => some (.op .add, 10, 10)
  | .symbol .minus => some (.op .sub, 10, 10)
  | .symbol .star => some (.op .mul, 11, 11)
  | .symbol .percent => some (.op .mod, 11, 11)
  | .symbol .caret => some (.op .pow, 14, 13)
  | .symbol .slash => some (.op .div, 11, 11)
  | .symbol .doubleSlash => some (.op .floorDiv, 11, 11)
  | .symbol .ampersand => some (.op .bitAnd, 6, 6)
  | .symbol .bar => some (.op .bitOr, 4, 4)
  | .symbol .tilde => some (.op .bitXor, 5, 5)
  | .symbol .shiftLeft => some (.op .shiftLeft, 7, 7)
  | .symbol .shiftRight => some (.op .shiftRight, 7, 7)
  | .symbol .concat => some (.op .concat, 9, 8)
  | .symbol .equal => some (.op .eq, 3, 3)
  | .symbol .unequal => some (.op .ne, 3, 3)
  | .symbol .less => some (.op .lt, 3, 3)
  | .symbol .lessEqual => some (.op .le, 3, 3)
  | .symbol .greater => some (.op .gt, 3, 3)
  | .symbol .greaterEqual => some (.op .ge, 3, 3)
  | .symbol .wAnd => some (.both, 2, 2)
  | .symbol .wOr => some (.either, 1, 1)
  | _ => none

/-- The precedence of the operand of a unary operator. -/
def unaryPrecedence : Nat := 12

/-- The operator of a token with one operand. -/
def unaryOf? : Token → Option UnaryOp
  | .symbol .minus => some .minus
  | .symbol .tilde => some .bitNot
  | .symbol .wNot => some .not
  | .symbol .hash => some .length
  | _ => none

/-- Whether the token ends a block; `until` ends only a loop's body. -/
def endsBlock (t : Option Token) (withUntil : Bool) : Bool :=
  match t with
  | none => true
  | some (.symbol s) =>
    match s with
    | .wElse | .wElseif | .wEnd => true
    | .wUntil => withUntil
    | _ => false
  | _ => false

/-- The parsers of one level. -/
structure Level where
  /-- An expression whose operators bind more tightly than the precedence. -/
  expr : Nat → Parser Expr
  /-- One statement; some stand for none or several. -/
  statement : Parser (List Stat)

/-- The level below the lowest one: nesting is too deep. -/
def Level.none : Level := ⟨fun _ => fail .tooNested, fail .tooNested⟩

/-- Statements up to the end of a block, at most `fuel`. -/
def statements (level : Level) : Nat → List Stat → Parser (List Stat)
  | 0, out => return out
  | fuel + 1, out => do
    let next ← peek
    if endsBlock next true then return out
    else if next == some (.symbol .wReturn) then return out ++ (← level.statement)
    else statements level fuel (out ++ (← level.statement))

/-- The statements of a block, with the jumps to labels outside it left pending. -/
def scopedBlock (level : Level) (inLoop : Bool) (before : Parser Unit) : Parser (List Stat) := do
  let outer ← get
  set { outer with inLoop := outer.inLoop || inLoop, pending := [], blockScope := outer.locals.length }
  before
  let body ← statements level ((← get).tokens.length + 1) []
  let inner ← get
  let leaving := inner.pending.map fun j => { j with scope := min j.scope outer.locals.length }
  set { inner with
    locals := outer.locals, inLoop := outer.inLoop, labels := outer.labels,
    pending := outer.pending ++ leaving, blockScope := outer.blockScope }
  return body

/-- A block without variables of its own at its start. -/
def block (level : Level) : Parser (List Stat) := scopedBlock level false (pure ())

/-- Expressions with commas between them, after the first. -/
def moreExprs (level : Level) : Nat → List Expr → Parser (List Expr)
  | 0, out => return out.reverse
  | fuel + 1, out => do
    if ← accept .comma then moreExprs level fuel ((← level.expr 0) :: out) else return out.reverse

/-- One or more expressions with commas between them. -/
def exprs (level : Level) : Parser (List Expr) := do
  let first ← level.expr 0
  moreExprs level (← get).tokens.length [first]

/-- The parameters of a function up to the closing parenthesis: their names, and whether more
arguments are taken. -/
def parameters : Nat → List String → Parser (List String × Bool)
  | 0, _ => fail .unexpected
  | fuel + 1, out => do
    if ← accept .ellipsis then return (out.reverse, true)
    else
      let n ← name
      if ← accept .comma then parameters fuel (n :: out) else return ((n :: out).reverse, false)

/-- A function's parameters and body, where a method has a first parameter of its own. -/
def functionBody (level : Level) (isMethod : Bool) : Parser FunctionBody := do
  expect .openParen "'('"
  let (names, variadic) ←
    if ← isNext .closeParen then pure ([], false)
    else parameters ((← get).tokens.length + 1) []
  expect .closeParen "')'"
  let names := if isMethod then "self" :: names else names
  let outer ← get
  set { outer with base := outer.locals.length, variadic, inLoop := false, labels := [], pending := [] }
  let body ← scopedBlock level false (names.forM fun n => declare { name := n })
  let inner ← get
  match inner.pending with
  | j :: _ => throw (j.line, .unknownLabel j.label)
  | [] => pure ()
  set { inner with
    base := outer.base, variadic := outer.variadic, inLoop := outer.inLoop,
    labels := outer.labels, pending := outer.pending }
  expect .wEnd "'end'"
  return .mk names.length variadic body

/-- The fields of a table constructor up to its brace: the fields, and how many are list items and
how many other entries. -/
def fields (level : Level) : Nat → List Field → Parser (List Field)
  | 0, _ => fail .unexpected
  | fuel + 1, out => do
    if ← accept .closeBrace then return out.reverse
    else
      let field ←
        match ← peek, ← peekSecond with
        | some (.name n), some (.symbol .assign) => do
          advance
          advance
          pure (Field.entry (.const (.ofText n)) (← level.expr 0))
        | some (.symbol .openBracket), _ => do
          advance
          let key ← level.expr 0
          expect .closeBracket "']'"
          expect .assign "'='"
          pure (Field.entry key (← level.expr 0))
        | _, _ => do pure (Field.item (← level.expr 0))
      let separated ← do
        if ← accept .comma then pure true else accept .semicolon
      if separated then fields level fuel (field :: out)
      else
        expect .closeBrace "'\x7d'"
        return (field :: out).reverse

/-- Whether the expression may have any number of values. -/
def isOpen : Expr → Bool
  | .call _ _ _ => true
  | .method _ _ _ _ => true
  | .vararg => true
  | _ => false

/-- The room that a constructor asks for: its list items, without a last one of any number of
values, and its other entries. -/
def roomOf : List Field → Nat × Nat
  | [] => (0, 0)
  | [.item e] => (if isOpen e then 0 else 1, 0)
  | .item _ :: rest => let (items, entries) := roomOf rest; (items + 1, entries)
  | .entry _ _ :: rest => let (items, entries) := roomOf rest; (items, entries + 1)

/-- A table constructor. -/
def tableConstructor (level : Level) : Parser Expr := do
  let line ← nextLine
  expect .openBrace "'\x7b'"
  let fs ← fields level ((← get).tokens.length + 1) []
  let (items, entries) := roomOf fs
  return .table items entries fs line

/-- The arguments of a call: in parentheses, or one string or one table. -/
def callArgs (level : Level) : Parser (List Expr) := do
  match ← peek with
  | some (.string s) =>
    advance
    return [.const (.string s)]
  | some (.symbol .openBrace) => return [← tableConstructor level]
  | _ =>
    expect .openParen "function arguments"
    if ← accept .closeParen then return []
    else
      let args ← exprs level
      expect .closeParen "')'"
      return args

/-- What may follow an expression: fields, indices and calls, at most `fuel`. -/
def suffixes (level : Level) : Nat → Expr → Parser Expr
  | 0, e => return e
  | fuel + 1, e => do
    let line ← nextLine
    match ← peek with
    | some (.symbol .dot) =>
      advance
      let n ← name
      suffixes level fuel (.index e (.const (.ofText n)) line)
    | some (.symbol .openBracket) =>
      advance
      let key ← level.expr 0
      expect .closeBracket "']'"
      suffixes level fuel (.index e key line)
    | some (.symbol .colon) =>
      advance
      let n ← name
      let args ← callArgs level
      suffixes level fuel (.method e (Bytes.ofText n) args line)
    | some (.symbol .openParen) | some (.symbol .openBrace) | some (.string _) =>
      let args ← callArgs level
      suffixes level fuel (.call e args line)
    | _ => return e

/-- A name or an expression in parentheses, with what follows it. -/
def suffixed (level : Level) : Parser Expr := do
  let line ← nextLine
  let first ← match ← peek with
    | some (.name n) => do
      advance
      variableExpr n line
    | some (.symbol .openParen) => do
      advance
      let e ← level.expr 0
      expect .closeParen "')'"
      pure (Expr.paren e)
    | _ => fail .unexpected
  suffixes level ((← get).tokens.length + 1) first

/-- An expression without operators around it. -/
def simple (level : Level) : Parser Expr := do
  match ← peek with
  | some (.number n) =>
    advance
    return .const (.number n)
  | some (.string s) =>
    advance
    return .const (.string s)
  | some (.symbol .wNil) =>
    advance
    return .const .nil
  | some (.symbol .wTrue) =>
    advance
    return .const (.boolean true)
  | some (.symbol .wFalse) =>
    advance
    return .const (.boolean false)
  | some (.symbol .ellipsis) =>
    if (← get).variadic then
      advance
      return .vararg
    else fail .varargOutside
  | some (.symbol .openBrace) => tableConstructor level
  | some (.symbol .wFunction) =>
    advance
    return .lambda (← functionBody level false)
  | _ => suffixed level

/-- The operators that follow an operand and bind more tightly than the precedence. -/
def operators (level : Level) (precedence : Nat) : Nat → Expr → Parser Expr
  | 0, e => return e
  | fuel + 1, e => do
    match (← peek).bind connective? with
    | some (op, left, right) =>
      if left > precedence then
        let line ← nextLine
        advance
        let operand ← level.expr right
        let combined := match op with
          | .op op => Expr.binary op e operand line
          | .both => .both e operand
          | .either => .either e operand
        operators level precedence fuel combined
      else return e
    | none => return e

/-- An expression whose operators bind more tightly than the precedence. -/
def expression (level : Level) (precedence : Nat) : Parser Expr := do
  let first ← match (← peek).bind unaryOf? with
    | some op => do
      let line ← nextLine
      advance
      let operand ← level.expr unaryPrecedence
      pure (Expr.unary op operand line)
    | none => simple level
  operators level precedence ((← get).tokens.length + 1) first

/-- A block after `then`, `do` or the like, up to `end`. -/
def blockToEnd (level : Level) (inLoop : Bool) (before : Parser Unit) : Parser (List Stat) := do
  let body ← scopedBlock level inLoop before
  expect .wEnd "'end'"
  return body

/-- The rest of a conditional after `if` or `elseif`. -/
def conditional (level : Level) : Nat → Parser Stat
  | 0 => fail .unexpected
  | fuel + 1 => do
    let condition ← level.expr 0
    expect .wThen "'then'"
    let body ← block level
    if ← accept .wElseif then return .branch condition body [← conditional level fuel]
    else if ← accept .wElse then
      let otherwise ← block level
      expect .wEnd "'end'"
      return .branch condition body otherwise
    else
      expect .wEnd "'end'"
      return .branch condition body []

/-- More names with commas before them. -/
def moreNames : Nat → List String → Parser (List String)
  | 0, out => return out.reverse
  | fuel + 1, out => do
    if ← accept .comma then moreNames fuel ((← name) :: out) else return out.reverse

/-- The rest of a loop after `for`. -/
def forLoop (level : Level) : Parser Stat := do
  let line ← nextLine
  let first ← name
  if ← accept .assign then
    let start ← level.expr 0
    expect .comma "','"
    let stop ← level.expr 0
    let step ← do
      if ← accept .comma then pure (some (← level.expr 0)) else pure none
    expect .wDo "'do'"
    let body ← blockToEnd level true (declare { name := first })
    return .numericFor start stop step body line
  else
    let names ← moreNames (← get).tokens.length [first]
    expect .wIn "'=' or 'in'"
    let values ← exprs level
    expect .wDo "'do'"
    let body ← blockToEnd level true (names.forM fun n => declare { name := n })
    return .genericFor names.length values body line

/-- The attribute of a declared variable. -/
def localKind : Parser LocalKind := do
  if ← accept .less then
    let n ← name
    expect .greater "'>'"
    match n with
    | "const" => return .constant
    | "close" => return .toClose
    | n => fail (.unknownAttribute n)
  else return .regular

/-- Declared variables with commas between them, after the first ones. -/
def localNames : Nat → List LocalVariable → Parser (List LocalVariable)
  | 0, _ => fail .unexpected
  | fuel + 1, out => do
    let n ← name
    let kind ← localKind
    let out := { name := n, kind } :: out
    if ← accept .comma then localNames fuel out else return out.reverse

/-- The rest of a declaration after `local`. -/
def localStatement (level : Level) : Parser Stat := do
  let line ← nextLine
  if ← accept .wFunction then
    let n ← name
    declare { name := n }
    return .localFunction (← functionBody level false)
  else
    let names ← localNames ((← get).tokens.length + 1) []
    if (names.filter (·.kind == .toClose)).length > 1 then fail .secondToClose
    else
      let values ← do
        if ← accept .assign then exprs level else pure []
      names.forM declare
      return .locals (names.map (·.kind)) values line

/-- Fails when the expression is a variable that may not be assigned. -/
def checkAssignable : Expr → Parser Unit
  | .var _ n => do
    match resolve? n (← get).locals 0 with
    | some (_, .constant) | some (_, .toClose) => fail (.constantAssigned n)
    | _ => return ()
  | .index _ _ _ => return ()
  | _ => fail .unexpected

/-- The fields of a function's name after its first part, at most `fuel`: the place to assign to,
and whether it is a method. -/
def functionName : Nat → Expr → Parser (Expr × Bool)
  | 0, e => return (e, false)
  | fuel + 1, e => do
    let line ← nextLine
    if ← accept .dot then
      functionName fuel (.index e (.const (.ofText (← name))) line)
    else if ← accept .colon then return (.index e (.const (.ofText (← name))) line, true)
    else return (e, false)

/-- The rest of a function statement after `function`. -/
def functionStatement (level : Level) : Parser Stat := do
  let line ← nextLine
  let first ← variableExpr (← name) line
  let (target, isMethod) ← functionName ((← get).tokens.length + 1) first
  checkAssignable target
  let body ← functionBody level isMethod
  return .assign [target] [.lambda body] line

/-- More places to assign to with commas before them. -/
def moreTargets (level : Level) : Nat → List Expr → Parser (List Expr)
  | 0, out => return out.reverse
  | fuel + 1, out => do
    if ← accept .comma then
      let e ← suffixed level
      checkAssignable e
      moreTargets level fuel (e :: out)
    else return out.reverse

/-- A call or an assignment. -/
def exprStatement (level : Level) : Parser Stat := do
  let line ← nextLine
  let first ← suffixed level
  let assigns ← do
    if ← isNext .assign then pure true else isNext .comma
  if assigns then
    checkAssignable first
    let targets ← moreTargets level (← get).tokens.length [first]
    expect .assign "'='"
    return .assign targets (← exprs level) line
  else
    match first with
    | .call _ _ _ | .method _ _ _ _ => return .call first
    | _ => fail .unexpected

/-- The rest of a return statement. A single call in tail position takes the place of the running
function, unless a variable is to be closed first. -/
def returnStatement (level : Level) : Parser Stat := do
  let values ← do
    if endsBlock (← peek) true then pure []
    else if ← isNext .semicolon then pure []
    else exprs level
  let _ ← accept .semicolon
  if !endsBlock (← peek) true then fail (.expected "<eof>")
  let s ← get
  let closes := (s.locals.take (s.locals.length - s.base)).any (·.kind == .toClose)
  match values with
  | [.call f args line] =>
    if closes then return .give [.call f args line] else return .giveCall (.call f args line)
  | [.method o n args line] =>
    if closes then return .give [.method o n args line] else return .giveCall (.method o n args line)
  | values => return .give values

/-- Resolves the pending jumps to a label with that many variables in scope. -/
def resolveJumps (label : String) (scope : Nat) : Parser Unit := do
  let s ← get
  match s.pending.find? fun j => j.label = label && j.scope < scope with
  | some j => throw (j.line, .jumpIntoScope label)
  | none => set { s with pending := s.pending.filter fun j => j.label ≠ label }

/-- Empty statements and labels, at most `fuel`. -/
def voidStatements (level : Level) : Nat → List Stat → Parser (List Stat)
  | 0, out => return out
  | fuel + 1, out => do
    let isVoid ← do
      if ← isNext .semicolon then pure true else isNext .doubleColon
    if isVoid then voidStatements level fuel (out ++ (← level.statement)) else return out

/-- The rest of a label after its first colons, with the empty statements after it. A label at the
end of a block stands outside the scope of the block's variables. -/
def labelStatement (level : Level) : Parser (List Stat) := do
  let n ← name
  expect .doubleColon "'::'"
  let more ← voidStatements level ((← get).tokens.length + 1) []
  let s ← get
  if s.labels.contains n then fail (.repeatedLabel n)
  else
    let scope := if endsBlock (← peek) false then s.blockScope else s.locals.length
    set { s with labels := n :: s.labels }
    resolveJumps n scope
    return .label n scope :: more

/-- A jump to a label already seen, or to one that is still to come. -/
def jumpStatement : Parser Stat := do
  let line ← nextLine
  let n ← name
  let s ← get
  if s.labels.contains n then return .jump n
  else
    set { s with pending := ⟨n, s.locals.length, line⟩ :: s.pending }
    return .jump n

/-- One statement. -/
def statement (level : Level) : Parser (List Stat) := do
  match ← peek with
  | some (.symbol .semicolon) =>
    advance
    return []
  | some (.symbol .wIf) =>
    advance
    return [← conditional level ((← get).tokens.length + 1)]
  | some (.symbol .wWhile) =>
    advance
    let condition ← level.expr 0
    expect .wDo "'do'"
    return [.whileLoop condition (← blockToEnd level true (pure ()))]
  | some (.symbol .wDo) =>
    advance
    return [.block (← blockToEnd level false (pure ()))]
  | some (.symbol .wFor) =>
    advance
    return [← forLoop level]
  | some (.symbol .wRepeat) =>
    advance
    let outer ← get
    set { outer with inLoop := true, pending := [], blockScope := outer.locals.length }
    let body ← statements level ((← get).tokens.length + 1) []
    expect .wUntil "'until'"
    let condition ← level.expr 0
    let inner ← get
    let leaving := inner.pending.map fun j => { j with scope := min j.scope outer.locals.length }
    set { inner with
      locals := outer.locals, inLoop := outer.inLoop, labels := outer.labels,
      pending := outer.pending ++ leaving, blockScope := outer.blockScope }
    return [.loop (body ++ [.leaveIf condition])]
  | some (.symbol .wFunction) =>
    advance
    return [← functionStatement level]
  | some (.symbol .wLocal) =>
    advance
    return [← localStatement level]
  | some (.symbol .doubleColon) =>
    advance
    labelStatement level
  | some (.symbol .wReturn) =>
    advance
    return [← returnStatement level]
  | some (.symbol .wBreak) =>
    if (← get).inLoop then
      advance
      return [.leave]
    else fail .breakOutsideLoop
  | some (.symbol .wGoto) =>
    advance
    return [← jumpStatement]
  | _ => return [← exprStatement level]

/-- The parsers that may nest that deep. -/
def level : Nat → Level
  | 0 => .none
  | n + 1 => ⟨fun precedence => expression (level n) precedence, statement (level n)⟩

/-- How deep expressions and statements may nest. -/
def maxLevels : Nat := 195

/-- A whole chunk. -/
def chunk : Parser FunctionBody := do
  let body ← scopedBlock (level maxLevels) false (pure ())
  let s ← get
  match s.pending with
  | j :: _ => throw (j.line, .unknownLabel j.label)
  | [] => pure ()
  match s.tokens with
  | [] => return .mk 0 true body
  | _ => fail (.expected "<eof>")

end Parser

namespace FunctionBody

/-- The chunk that a source text is, or the line of the first fault and the fault. The chunk's only
variable from outside is its environment. -/
def parse (source : List Char) : Except (Nat × SourceFault) FunctionBody := do
  let tokens ← Token.scan source
  let (body, _) ← Parser.chunk.run
    { tokens, locals := [{ name := Parser.environmentName }], base := 1 }
  return body

end FunctionBody

end TableSeed.Lua
