/-!
# UTF-7

An encoding in bytes below 128 that writes letters, digits and a few signs as they are and puts runs
of other characters, in units of two bytes, into groups of six bits. A run begins with a plus sign;
it ends before the next character that is written as it is, with a hyphen between the two where that
character could belong to the run. A run at the end of a text is left open.
-/

namespace TagScript.Xml.Utf7

/-- The signs of groups of six bits, in the order of their values. -/
def groupSigns : List Char :=
  "ABCDEFGHIJKLMNOPQRSTUVWXYZabcdefghijklmnopqrstuvwxyz0123456789+/".toList

/-- Whether a character is written as it is. -/
def isDirect (c : Char) : Bool :=
  c.isAlphanum || c ∈ "'(),-./:? \t\n\x0d".toList

/-- Whether a character behind a run could belong to it. -/
def needsHyphen (c : Char) : Bool :=
  c = '-' || c ∈ groupSigns

/-- The sign of a group of six bits. -/
def sign (group : Nat) : Char :=
  groupSigns.getD group 'A'

/-- A run that is open: where it began, and the bits that do not fill a group yet. -/
structure Run where
  /-- How many bytes come before the run. -/
  start : Nat
  /-- The number of bits that are left over. -/
  count : Nat
  /-- Their value. -/
  value : Nat
  deriving Repr, DecidableEq

/-- A text as written: what is written, and the run that is open at its end. -/
structure Output where
  /-- What is written, in characters of one byte. -/
  written : Array Char
  /-- The open run. -/
  run : Option Run
  deriving Repr, DecidableEq

namespace Output

/-- Adds a unit of two bytes to a run: with at most four bits left over there are two or three
groups. -/
def addUnit (run : Run) (unit : Nat) (written : Array Char) : Run × Array Char :=
  let count := run.count + 16
  let value := run.value * 0x10000 + unit
  let left := count % 6
  let groups := count / 6
  let signs := (List.range groups).map fun i =>
    sign (value / Nat.pow 2 left / Nat.pow 64 (groups - 1 - i) % 64)
  (⟨run.start, left, value % Nat.pow 2 left⟩, written ++ signs.toArray)

/-- The units of two bytes of a character. -/
def units (c : Char) : List Nat :=
  let n := c.toNat
  if n < 0x10000 then [n] else [0xd800 + (n - 0x10000) / 0x400, 0xdc00 + (n - 0x10000) % 0x400]

/-- Adds a character to a run. -/
def addToRun (run : Run) (c : Char) (written : Array Char) : Output :=
  let (run, written) := (units c).foldl (fun (run, written) unit => addUnit run unit written)
    (run, written)
  ⟨written, some run⟩

/-- The bits that are left over, as a group filled up with zeros. -/
def rest (run : Run) : List Char :=
  if run.count = 0 then [] else [sign (run.value * Nat.pow 2 (6 - run.count))]

/-- Adds a character. -/
def add (out : Output) (c : Char) : Output :=
  match out.run with
  | none =>
    if isDirect c then ⟨out.written.push c, none⟩
    else if c = '+' then ⟨out.written ++ #['+', '-'], none⟩
    else addToRun ⟨out.written.size, 0, 0⟩ c (out.written.push '+')
  | some run =>
    if isDirect c then
      ⟨out.written ++ (rest run ++ (if needsHyphen c then ['-'] else []) ++ [c]).toArray, none⟩
    else addToRun run c out.written

/-- Where a run began that a reader cannot finish, because bits are left over. -/
def unfinished? (out : Output) : Option Nat :=
  (out.run.filter fun run => run.count ≠ 0).map (·.start)

/-- The bytes of what is written. -/
def bytes (out : Output) : List UInt8 :=
  (out.written.map fun c => UInt8.ofNat c.toNat).toList

end Output

/-- A text in UTF-7. -/
def write (cs : List Char) : Output :=
  cs.foldl Output.add ⟨#[], none⟩

/-- Text of characters that are written as they are stays as it is. -/
theorem written_foldl_direct (cs : List Char) (h : ∀ c ∈ cs, isDirect c = true)
    (written : Array Char) :
    cs.foldl Output.add ⟨written, none⟩ = ⟨written ++ cs.toArray, none⟩ := by
  induction cs generalizing written with
  | nil => simp
  | cons c cs ih =>
    have hc : isDirect c = true := h c (by simp)
    have step : Output.add ⟨written, none⟩ c = ⟨written.push c, none⟩ := by
      simp [Output.add, hc]
    rw [List.foldl_cons, step, ih (fun d hd => h d (by simp [hd]))]
    simp

end TagScript.Xml.Utf7
