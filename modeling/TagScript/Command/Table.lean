import TagScript.Command.Builtin

/-!
# The command table

The names by which commands are known. Registering a command gives it all of its names, also those
that led to other commands before; removing it takes all of its names away. Every change has a new
version, so that what was found out about names can be forgotten in time.
-/

namespace TagScript

/-- Commands by their names. -/
structure CommandTable where
  /-- Whether names are the same in any case. -/
  foldsCase : Bool
  /-- The names, and for each the number and the command registered under it. -/
  entries : List (String × Nat × Command)
  /-- How often the table was changed. -/
  version : Nat

namespace CommandTable

/-- A table without commands. -/
def empty (foldsCase : Bool) : CommandTable := ⟨foldsCase, [], 0⟩

/-- A name as the table keeps it. -/
def key (t : CommandTable) (name : String) : String :=
  if t.foldsCase then Text.lower name else name

/-- Gives a command all of its names. The version before the change is its number. -/
def install (t : CommandTable) (c : Command) : CommandTable where
  foldsCase := t.foldsCase
  entries := (c.name :: c.aliases).foldl
    (fun entries name => Fields.insert entries (t.key name) (t.version, c)) t.entries
  version := t.version + 1

/-- A table with the built-in commands. -/
def withBuiltins (foldsCase : Bool) (clock : Clock) : CommandTable :=
  (Command.builtins clock).foldl install (empty foldsCase)

/-- Registers a command, whose name must be a word. -/
def register (t : CommandTable) (c : Command) : Except Fault CommandTable :=
  if c.name = "" || c.name.toList.any Text.isBlank then .error (.invalid .commandName)
  else .ok (t.install c)

/-- The number and the command behind a name. -/
def find? (t : CommandTable) (name : String) : Option (Nat × Command) :=
  Fields.get? t.entries (t.key name)

/-- Whether a name leads to a command. -/
def canResolve (t : CommandTable) (name : String) : Bool :=
  (t.find? name).isSome

/-- The command behind a name. -/
def lookup (t : CommandTable) (name : String) : Except Fault Command :=
  match t.find? name with
  | some (_, c) => .ok c
  | none => .error (.unknownCommand name)

/-- Removes the command behind a name, with all of its names. -/
def unregister (t : CommandTable) (name : String) : Except Fault CommandTable :=
  match t.find? name with
  | none => .error (.unknownCommand name)
  | some (number, _) =>
    .ok { t with
      entries := t.entries.filter fun e => e.2.1 ≠ number
      version := t.version + 1 }

/-- The primary names of the commands in the table, sorted. -/
def names (t : CommandTable) : List String :=
  (t.entries.map fun e => e.2.2.name).eraseDups.mergeSort fun a b => decide (a ≤ b)

/-- The number of commands in the table. -/
def size (t : CommandTable) : Nat := t.names.length

theorem version_install (t : CommandTable) (c : Command) :
    (t.install c).version = t.version + 1 := rfl

end CommandTable

end TagScript
