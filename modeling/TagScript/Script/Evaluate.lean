import TagScript.Build.Invoke
import TagScript.Script
import TagScript.Value.Member

/-!
# Running statements

Operands are evaluated from left to right, then the command of the statement is invoked with them; a
statement without a command yields its operands.
-/

namespace TagScript.Build

/-- The report that a variable is not defined. -/
def undefinedVariable (env : BuildEnv) (name : String) (pos : Position) : Diagnostic :=
  Diagnostic.warning ("Variable $" ++ name ++ " is not defined") "interpreter" .undefinedVariable
    pos.fields [("variable", .str name)] env.correlationId

/-- The value of a variable. One that nobody defined is null and reported, or fails. -/
def lookup (env : BuildEnv) (scope : ScopeId) (name : String) (pos : Position) : Build Value := do
  match ← read fun s => s.scopes.lookup? scope name with
  | some v => pure v
  | none =>
    if env.settings.strictVariables then fail (.undefinedVariable name)
    else
      record (env.logger "interpreter") .warning "Undefined variable evaluates to null"
        (("variable", .str name) :: pos.fields)
      report (undefinedVariable env name pos)
      pure .null

/-- The text of a string in double quotes. -/
def interpolate (env : BuildEnv) (scope : ScopeId) (pos : Position) :
    List StringPart → Build (List Char)
  | [] => pure []
  | .char c :: rest => do
    let cs ← interpolate env scope pos rest
    pure (c :: cs)
  | .variable name :: rest => do
    let v ← lookup env scope name pos
    let cs ← interpolate env scope pos rest
    pure (v.textOrEmpty.toList ++ cs)
  | .unterminated :: _ => fail (.badSyntax .unterminatedInterpolation pos)

/-- The type that a cast is written with, in lower case. -/
def castType (t : Token) : String :=
  Text.lower (String.ofList ((t.text.toList.drop 1).dropLast))

/-- Casts a value. A value that is refused is the statement's failure. -/
def castValue (r : Registry) (t : Token) (v : Value) : Except Fault Value :=
  let type := castType t
  match Cast.ofName? type with
  | none => .error (.runtime (.unknownType t.text type t.pos))
  | some c =>
    (c.apply r v).mapError fun fault =>
      if fault.isAboutValue then
        .runtime (.refusedCast v.shown t.text fault.message type t.pos)
      else fault

/-- One value for the operands joined by commas. -/
def joined : List Value → Value
  | [v] => v
  | vs => .list vs

/-- The value of statements between parentheses: nothing, the only value or a list. -/
def unwrapped : List Value → Value
  | [] => .null
  | [v] => v
  | vs => .list vs

mutual

/-- The value of an operand. -/
def operand (E : Engine) (env : BuildEnv) (scope : ScopeId) : Operand → Build Value
  | .constant v => pure v
  | .string parts pos => do
    let cs ← interpolate env scope pos parts
    pure (.str (String.ofList cs))
  | .variable name members pos => do
    let v ← lookup env scope name pos
    read fun s => v.path s.scopes.parent? members
  | .group source line => pure (.block ⟨source, some scope, line⟩)
  | .paren body => do
    let vs ← statements E env scope body
    pure (unwrapped vs)
  | .cast type o => do
    let v ← operand E env scope o
    lift (castValue (← read (·.registry)) type v)
  | .faulty fault => fail fault

/-- The values of operands. -/
def operands (E : Engine) (env : BuildEnv) (scope : ScopeId) : List Operand → Build (List Value)
  | [] => pure []
  | o :: os => do
    let v ← operand E env scope o
    let vs ← operands E env scope os
    pure (v :: vs)

/-- The values of the operands of a statement, those joined by commas together. -/
def rows (E : Engine) (env : BuildEnv) (scope : ScopeId) :
    List (List Operand) → Build (List Value)
  | [] => pure []
  | row :: more => do
    let vs ← operands E env scope row
    let rest ← rows E env scope more
    pure (joined vs :: rest)

/-- What a statement yields, flat. -/
def statement (E : Engine) (env : BuildEnv) (scope : ScopeId) : Statement → Build (List Value)
  | .mk command content => do
    let args ← rows E env scope content
    match command with
    | some name =>
      let v ← invoke E env ⟨name, args, scope⟩
      pure v.spread
    | none => pure (Value.spreadAll args)

/-- What a row of statements yields. -/
def statements (E : Engine) (env : BuildEnv) (scope : ScopeId) :
    List Statement → Build (List Value)
  | [] => pure []
  | s :: ss => do
    let vs ← statement E env scope s
    let rest ← statements E env scope ss
    pure (vs ++ rest)

end

end TagScript.Build
