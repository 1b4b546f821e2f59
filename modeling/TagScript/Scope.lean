import TagScript.Text.Case
import TagScript.Value

/-!
# Scopes

Variables live in scopes, and a scope may stand inside another one. All scopes of a build are kept
in one store, where a scope is known by its number and lies inside scopes with smaller numbers.
Names are the same in any case; three of them are constants.
-/

namespace TagScript

/-- One scope. -/
structure Scope where
  /-- Its own variables, by their names in lower case. -/
  own : List (String × Value)
  /-- The scope around it. -/
  parent : Option ScopeId
  deriving Inhabited

/-- All scopes, by their numbers. -/
structure Scopes where
  /-- The scopes. -/
  all : Array Scope
  deriving Inhabited

/-- The value of a constant, by its name in lower case. -/
def constant? (key : String) : Option Value :=
  match key with
  | "true" => some (.bool true)
  | "false" => some (.bool false)
  | "null" => some .null
  | _ => none

namespace Scopes

/-- No scopes. -/
def empty : Scopes := ⟨#[]⟩

/-- The variables of a scope and of the scopes around it, the inner ones first. -/
def chain (s : Scopes) (id : ScopeId) : List (List (String × Value)) :=
  match s.all[id]? with
  | none => []
  | some scope =>
    scope.own :: match scope.parent with
      | none => []
      | some outer => if outer < id then chain s outer else []
termination_by id

/-- The value of a variable as a scope sees it. -/
def lookup? (s : Scopes) (id : ScopeId) (name : String) : Option Value :=
  let key := Text.lower name
  (constant? key).or ((s.chain id).findSome? fun own => Fields.get? own key)

/-- The variables that a scope sees; those of inner scopes hide those of outer ones. -/
def visible (s : Scopes) (id : ScopeId) : List (String × Value) :=
  (s.chain id).reverse.foldl Fields.update []

/-- Adds a variable to those of a scope. -/
def define (own : List (String × Value)) (name : String) (v : Value) :
    Except Fault (List (String × Value)) :=
  if name = "" then .error (.invalid .emptyVariableName)
  else .ok (Fields.insert own (Text.lower name) v)

/-- Sets a variable in a scope itself, whether or not a scope around it has it. -/
def set (s : Scopes) (id : ScopeId) (name : String) (v : Value) : Except Fault Scopes :=
  match s.all[id]? with
  | none => .error .missingMember
  | some scope =>
    (define scope.own name v).map fun own => ⟨s.all.setIfInBounds id { scope with own }⟩

/-- The variables of a new scope. -/
def ownOf (vars : List (String × Value)) : Except Fault (List (String × Value)) :=
  (Fields.ofList vars).foldlM (fun own p => define own p.1 p.2) []

/-- A new scope with variables, inside another one or on its own. -/
def add (s : Scopes) (parent : Option ScopeId) (vars : List (String × Value)) :
    Except Fault (ScopeId × Scopes) :=
  (ownOf vars).map fun own => (s.all.size, ⟨s.all.push ⟨own, parent⟩⟩)

/-- The scope around a scope. -/
def parent? (s : Scopes) (id : ScopeId) : Option ScopeId :=
  s.all[id]?.bind Scope.parent

/-- Puts a scope inside another one. -/
def enclose (s : Scopes) (id outer : ScopeId) : Scopes :=
  ⟨s.all.modify id fun scope => { scope with parent := some outer }⟩

/-- A constant is never hidden. -/
theorem lookup?_constant {name : String} {v : Value} (h : constant? (Text.lower name) = some v)
    (s : Scopes) (id : ScopeId) : s.lookup? id name = some v := by
  simp [lookup?, h]

end Scopes

end TagScript
