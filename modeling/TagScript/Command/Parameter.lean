import TagScript.Text.Case
import TagScript.Value.Text

/-!
# Parameters of commands

The arguments of a command are read from the left. A parameter is a text that begins with a hyphen;
case and colons at its end do not matter. A switch stands alone and an option takes the argument
after it, whatever it is; all other arguments are positional.
-/

namespace TagScript

/-- The arguments of a command, sorted. -/
structure Parameters where
  /-- The parameters by their names in lower case. -/
  named : List (String × Value) := []
  /-- The other arguments in order. -/
  positional : List Value := []

namespace Parameters

/-- The value of a parameter. -/
def get? (p : Parameters) (name : String) : Option Value :=
  Fields.get? p.named name

/-- The name of the parameter that an argument is written as. -/
def nameOf? : Value → Option String
  | .str s =>
    match s.toList with
    | '-' :: rest =>
      some (Text.lower (String.ofList (rest.reverse.dropWhile (· = ':')).reverse))
    | _ => none
  | _ => none

/-- What an argument is. -/
inductive Role where
  /-- A switch. -/
  | switch (name : String)
  /-- An option. -/
  | option (name : String)
  /-- Neither. -/
  | positional
  deriving Repr, DecidableEq

/-- What an argument is when these are the switches and options, in lower case. -/
def role (switches options : List String) (arg : Value) : Role :=
  match nameOf? arg with
  | none => .positional
  | some name =>
    if switches.contains name then .switch name
    else if options.contains name then .option name
    else .positional

/-- Sorts the arguments behind those that were sorted before. An option at the very end has no
value. -/
def sort (switches options : List String) (done : Parameters) :
    List Value → Except Fault Parameters
  | [] => .ok done
  | arg :: rest =>
    match role switches options arg with
    | .switch name =>
      sort switches options { done with named := Fields.insert done.named name (.bool true) } rest
    | .positional =>
      sort switches options { done with positional := done.positional ++ [arg] } rest
    | .option name =>
      match rest with
      | [] => .error (.runtime (.valueRequired arg.plain))
      | value :: rest =>
        sort switches options { done with named := Fields.insert done.named name value } rest

/-- The arguments of a command sorted, given the names of its switches and options. -/
def ofArguments (switches options : List String) (args : List Value) : Except Fault Parameters :=
  sort (switches.map Text.lower) (options.map Text.lower) {} args

end Parameters

end TagScript
