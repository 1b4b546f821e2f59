import TagScript.Command.Parameter
import TagScript.Value.Cast

/-!
# Commands

A command is a name for something that can be done with arguments. A plain command is a function of
its arguments; an acting command also reads or changes the build it is invoked in.
-/

namespace TagScript

/-- What an acting command does. -/
inductive Act where
  /-- Builds an element; lists among the arguments are spread. -/
  | newElement
  /-- Makes a namespace. -/
  | newNamespace
  /-- Runs a block once for each item. -/
  | forEachItem
  /-- Builds an element; the arguments are taken as they are. -/
  | buildElement
  /-- Lists the bound prefixes. -/
  | listPrefixes
  /-- Yields the URI of a prefix. -/
  | uriOfPrefix
  /-- Binds a prefix. -/
  | bindPrefix
  /-- Runs a block with variables. -/
  | runBlock (vars : List (String × Value))
  /-- Runs a block once and yields everything twice. -/
  | runBlockTwice
  /-- Sets a variable where the command is invoked. -/
  | setVariable
  /-- Lists the names of all visible variables. -/
  | listVariables
  /-- Yields the name the command is invoked by. -/
  | invokedName
  /-- Yields the number of elements being built. -/
  | nestingDepth
  /-- Registers a command that yields a value. -/
  | registerConstant
  /-- Fails. -/
  | fail (fault : Fault)
  deriving Inhabited

/-- How a command works. -/
inductive Action where
  /-- As a function of its arguments. -/
  | plain (f : List Value → Except Fault Value)
  /-- By acting on the build. -/
  | acting (act : Act)

/-- Whether a command is given the build it is invoked in. -/
def Action.isActing : Action → Bool
  | .plain _ => false
  | .acting _ => true

/-- A command. -/
structure Command where
  /-- The primary name. -/
  name : String
  /-- How it works. -/
  action : Action
  /-- Other names. -/
  aliases : List String := []
  /-- What it is for. -/
  description : String := ""

namespace Command

/-- Runs a plain command. A value that is refused is the command's failure. -/
def applyPlain (c : Command) (f : List Value → Except Fault Value) (args : List Value) :
    Except Fault Value :=
  (f args).mapError fun fault =>
    if fault.isAboutValue then .runtime (.commandFailed c.name fault.message) else fault

/-- A command that always yields one value. -/
def constant (name : String) (v : Value) (aliases : List String) : Command where
  name
  action := .plain fun _ => .ok v
  aliases

end Command

end TagScript
