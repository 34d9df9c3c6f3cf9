-- Reading a query from its tokens, one token after the other. The grammar is
--
--   expression := parameter '=>' expression | either
--   parameter  := name | '(' name ')'
--   either     := both ('||' both)*
--   both       := compared ('&&' compared)*
--   compared   := operand [comparison operand]
--   operand    := (name | string | number) ('.' name ['(' [arguments] ')'])*
--   arguments  := expression (',' expression)*
--
-- A reader holds what is open: the left sides of operators, the bodies of
-- lambdas and the argument lists. The first token that fits no continuation of
-- what was read is the error.
import CommitQuery.Query.Expr

namespace CommitQuery.Query

/-! ## What is open -/

/-- Left sides that wait for a right side, the loosest operator first. -/
structure Waiting where
  either : Option Expr
  both : Option Expr
  compared : Option (Expr × Comparison)

/-- No operator waits. -/
def Waiting.nothing : Waiting := ⟨none, none, none⟩

/-- A comparison with its right side. -/
def Waiting.closeCompared (w : Waiting) (right : Expr) : Expr :=
  match w.compared with
  | some (left, c) => .binary left (.compare c) right
  | none => right

/-- A row of operands joined by `&&`, with its last one. -/
def Waiting.closeBoth (w : Waiting) (right : Expr) : Expr :=
  match w.both with
  | some left => .binary left (.connect .and) (w.closeCompared right)
  | none => w.closeCompared right

/-- A whole expression, with its last operand. -/
def Waiting.closeEither (w : Waiting) (right : Expr) : Expr :=
  match w.either with
  | some left => .binary left (.connect .or) (w.closeBoth right)
  | none => w.closeBoth right

/-- What surrounds the expression being read. -/
inductive Frame
  | body (parameter : String)
  | argument (target : Expr) (method : String) (before : List Expr) (outer : Waiting)

/-- What the next token is read as. -/
inductive Stage
  | expression
  | operand
  | firstArgument
  | parameter
  | parameterClose (name : String)
  | parameterArrow (name : String)
  | fieldName (target : Expr)
  | afterField (target : Expr) (field : String)
  | afterOperand (operand : Expr) (parameter? : Option String)

/-- A query read up to some token. -/
structure Reader where
  stage : Stage
  waiting : Waiting
  frames : List Frame

/-- Nothing is read yet. -/
def Reader.start : Reader := ⟨.expression, .nothing, []⟩

/-! ## One token -/

/-- The lambdas that end together with their body, and what surrounds them. -/
def closeLambdas (body : Expr) : List Frame → Expr × List Frame
  | .body parameter :: frames => closeLambdas (.lambda parameter body) frames
  | frames => (body, frames)

/-- What may follow an expression that fits no operator. -/
def expectedAfter : List Frame → String
  | [] => "'.', operator or end of input"
  | _ => "',' or ')'"

/-- What a stage asks for; after an operand it depends on what surrounds it. -/
def Stage.expected (stage : Stage) (frames : List Frame) : String :=
  match stage with
  | .expression | .operand | .firstArgument => "identifier, string or number"
  | .parameter | .fieldName _ => "identifier"
  | .parameterClose _ => Lexeme.closeParen.shown
  | .parameterArrow _ => Lexeme.arrow.shown
  | .afterField _ _ | .afterOperand _ _ => expectedAfter frames

/-- The first token of an operand, if it can be one. -/
def primary? : Lexeme → Option Expr
  | .name s => some (.name s)
  | .text s => some (.text s)
  | .number n => some (.number n)
  | _ => none

/-- A lambda's body starts. -/
def Reader.openBody (r : Reader) (parameter : String) : Reader :=
  ⟨.expression, .nothing, .body parameter :: r.frames⟩

/-- The first token of an expression. -/
def Reader.startExpression (r : Reader) : Lexeme → Option Reader
  | .openParen => some { r with stage := .parameter }
  | .name s => some { r with stage := .afterOperand (.name s) (some s) }
  | lexeme => (primary? lexeme).map fun e => { r with stage := .afterOperand e none }

/-- A token after a whole expression: the next argument or the end of a call. -/
def Reader.closeExpression (r : Reader) (operand : Expr) (lexeme : Lexeme) : Option Reader :=
  match closeLambdas (r.waiting.closeEither operand) r.frames, lexeme with
  | (whole, .argument target method before outer :: frames), .comma =>
    some ⟨.expression, .nothing, .argument target method (before ++ [whole]) outer :: frames⟩
  | (whole, .argument target method before outer :: frames), .closeParen =>
    some ⟨.afterOperand (.call target method (before ++ [whole])) none, outer, frames⟩
  | _, _ => none

/-- A token after an operand: it goes on, an operator follows, or it ends. -/
def Reader.afterOperand (r : Reader) (operand : Expr) (lexeme : Lexeme) : Option Reader :=
  match lexeme with
  | .dot => some { r with stage := .fieldName operand }
  | .comparison c =>
    if r.waiting.compared.isSome then none
    else some { r with stage := .operand,
                       waiting := { r.waiting with compared := some (operand, c) } }
  | .connective .and =>
    some { r with stage := .operand,
                  waiting := ⟨r.waiting.either, some (r.waiting.closeBoth operand), none⟩ }
  | .connective .or =>
    some { r with stage := .operand,
                  waiting := ⟨some (r.waiting.closeEither operand), none, none⟩ }
  | lexeme => r.closeExpression operand lexeme

/-- The reader after one more token, if the token fits. -/
def Reader.read? (r : Reader) (lexeme : Lexeme) : Option Reader :=
  match r.stage, lexeme with
  | .expression, lexeme => r.startExpression lexeme
  | .operand, lexeme => (primary? lexeme).map fun e => { r with stage := .afterOperand e none }
  | .firstArgument, .closeParen =>
    match r.frames with
    | .argument target method before outer :: frames =>
      some ⟨.afterOperand (.call target method before) none, outer, frames⟩
    | _ => none
  | .firstArgument, lexeme => r.startExpression lexeme
  | .parameter, .name s => some { r with stage := .parameterClose s }
  | .parameterClose s, .closeParen => some { r with stage := .parameterArrow s }
  | .parameterArrow s, .arrow => some (r.openBody s)
  | .fieldName target, .name s => some { r with stage := .afterField target s }
  | .afterField target method, .openParen =>
    some ⟨.firstArgument, .nothing, .argument target method [] r.waiting :: r.frames⟩
  | .afterField target field, lexeme => r.afterOperand (.member target field) lexeme
  | .afterOperand _ (some parameter), .arrow => some (r.openBody parameter)
  | .afterOperand operand _, lexeme => r.afterOperand operand lexeme
  | _, _ => none

/-! ## The whole query -/

/-- The frames that an error message speaks about: lambdas end where their body ends. -/
def Reader.openFrames (r : Reader) : List Frame := (closeLambdas (.name "") r.frames).2

/-- What could stand where the reader is. -/
def Reader.expected (r : Reader) : String := r.stage.expected r.openFrames

/-- The reader after one more token, or the error at that token. -/
def Reader.read (r : Reader) (token : Token) : Except Malformed Reader :=
  match r.read? token.lexeme with
  | some next => .ok next
  | none => .error ⟨token.position, r.expected, token.lexeme.shown⟩

/-- The whole query, if the reader is at the end of one. -/
def Reader.result? (r : Reader) : Option Expr :=
  let ended (operand : Expr) : Option Expr :=
    match closeLambdas (r.waiting.closeEither operand) r.frames with
    | (whole, []) => some whole
    | _ => none
  match r.stage with
  | .afterOperand operand _ => ended operand
  | .afterField target field => ended (.member target field)
  | _ => none

/-- The query that a list of tokens writes. -/
def Expr.ofTokens (ts : Tokens) : Except Malformed Expr := do
  let r ← ts.list.foldlM Reader.read Reader.start
  match r.result? with
  | some e => .ok e
  | none => .error ⟨ts.stop, r.expected, endOfInput⟩

/-- The query that a text writes. -/
def Expr.parse (query : String) : Except Malformed Expr := do
  Expr.ofTokens (← tokens query)

end CommitQuery.Query
