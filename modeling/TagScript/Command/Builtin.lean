import TagScript.Command
import TagScript.Command.Date

/-!
# Built-in commands
-/

namespace TagScript.Command

/-- The items of a row of values, each walked through, without the null ones. -/
def joinedItems (vs : List Value) : List Value :=
  (vs.flatMap Value.items).filter fun v => match v with
    | .null => false
    | _ => true

/-- Joins values to one text. -/
def joinText (args : List Value) : Except Fault Value := do
  let p ← Parameters.ofArguments [] ["Separator"] args
  let separator := ((p.get? "separator").map Value.plain).getD ""
  .ok (.str (separator.intercalate ((joinedItems p.positional).map Value.plain)))

/-- The name of the command that builds elements. -/
def elementConstructor : String := "New-XElement"

/-- The built-in commands. -/
def builtins (clock : Clock) : List Command := [
  { name := elementConstructor
    action := .acting .newElement
    aliases := ["xe"]
    description := "Build an element from a name and builder arguments" },
  { name := "New-XNamespace"
    action := .acting .newNamespace
    aliases := ["ns"]
    description := "Make a namespace value from a URI" },
  { name := "ForEach-Item"
    action := .acting .forEachItem
    description := "Run a block once per item with $_ bound" },
  { name := "Write-Output"
    action := .plain fun args => .ok (.list args)
    description := "Emit the arguments" },
  { name := "Get-Date"
    action := .plain (dateText clock)
    description := "Current date and time as text" },
  { name := "Join-Text"
    action := .plain joinText
    description := "Join values into one string" }]

end TagScript.Command
