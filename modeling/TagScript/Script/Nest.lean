import TagScript.Token

/-!
# Nested tokens

Tokens with their brackets paired. `Nest.step` keeps the rows that are still open, `Nest.read` walks
over all tokens; `Nest.tokens` is the way back.
-/

namespace TagScript

/-- A token, or what stands between two brackets together with them. -/
inductive Nest where
  /-- A token that is no bracket. -/
  | token (t : Token)
  /-- Two brackets and the row between them. -/
  | bracket (opener : Token) (inner : List Nest) (closer : Token)
  deriving Repr, Inhabited

namespace Nest

/-- The innermost open row, and around it each opening bracket with the row before it. Rows are kept
backwards. -/
structure Open where
  /-- The innermost row. -/
  row : List Nest
  /-- The opening brackets and the rows before them. -/
  outer : List (Token × List Nest)

/-- What a token does to the open rows. A closing bracket without an opening one is refused. -/
def step (s : Open) (t : Token) : Option Open :=
  match t.kind with
  | .groupStart | .parenStart => some ⟨[], (t, s.row) :: s.outer⟩
  | .groupEnd | .parenEnd =>
    match s.outer with
    | (opener, before) :: outer => some ⟨.bracket opener s.row.reverse t :: before, outer⟩
    | [] => none
  | _ => some { s with row := .token t :: s.row }

/-- The open rows after more tokens. -/
def run (s : Open) : List Token → Option Open
  | [] => some s
  | t :: ts => (step s t).bind fun s => run s ts

/-- The tokens with their brackets paired, if every bracket has its partner. -/
def read (ts : List Token) : Option (List Nest) :=
  match run ⟨[], []⟩ ts with
  | some ⟨row, []⟩ => some row.reverse
  | _ => none

mutual

/-- The tokens of a nest. -/
def tokens : Nest → List Token
  | .token t => [t]
  | .bracket opener inner closer => opener :: tokensOfAll inner ++ [closer]

/-- The tokens of a row of nests. -/
def tokensOfAll : List Nest → List Token
  | [] => []
  | n :: ns => tokens n ++ tokensOfAll ns

end

theorem run_append (s : Open) (ts us : List Token) :
    run s (ts ++ us) = (run s ts).bind fun s => run s us := by
  induction ts generalizing s with
  | nil => rfl
  | cons t ts ih =>
    simp only [List.cons_append, run, Option.bind_assoc]
    cases step s t <;> simp [ih]

theorem tokensOfAll_append (ns ms : List Nest) :
    tokensOfAll (ns ++ ms) = tokensOfAll ns ++ tokensOfAll ms := by
  induction ns with
  | nil => rfl
  | cons n ns ih => simp [tokensOfAll, ih]

end Nest

end TagScript
