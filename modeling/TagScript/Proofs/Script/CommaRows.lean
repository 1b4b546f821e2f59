import TagScript.Script

/-!
# Commas between operands

A comma joins the operands around it to one argument. Which operands a statement has, and their
order, does not depend on the commas between them, nor on the places of the tokens.

* `Operand.unplaced`, `Script.Atom.unplaced` — operands and atoms without their places.
* `Script.bare` — a row of atoms without the commas that stand between two operands.
* **`Script.operands_bare`** — such commas and the places make no difference to the operands.
* **`Script.rows_pieces_append`** — an argument ends where an operand follows another one without a
  comma.
-/

namespace TagScript

/-! ## What is written, without its place -/

/-- A token without its place: its kind and its text. -/
def Token.unplaced (t : Token) : Token :=
  ⟨t.kind, t.text, .start, 0, 0, 0⟩

/-- A fault without the place it tells. -/
def Fault.unplaced : Fault → Fault
  | .badSyntax problem _ => .badSyntax problem .start
  | .runtime (.unknownType cast type _) => .runtime (.unknownType cast type .start)
  | .runtime (.refusedCast value cast reason type _) =>
    .runtime (.refusedCast value cast reason type .start)
  | fault => fault

theorem Fault.unplaced_unplaced (fault : Fault) : fault.unplaced.unplaced = fault.unplaced := by
  cases fault with
  | runtime problem => cases problem <;> rfl
  | _ => rfl

mutual

/-- An operand without its place. The line of a brace group is part of its value and stays. -/
def Operand.unplaced : Operand → Operand
  | .constant v => .constant v
  | .string parts _ => .string parts .start
  | .variable name members _ => .variable name members .start
  | .group source line => .group source line
  | .paren body => .paren (Statement.unplacedAll body)
  | .cast type o => .cast type.unplaced o.unplaced
  | .faulty fault => .faulty fault.unplaced

/-- A statement without its place. -/
def Statement.unplaced : Statement → Statement
  | .mk command rows => .mk command (Operand.unplacedRows rows)

/-- A row of statements without their places. -/
def Statement.unplacedAll : List Statement → List Statement
  | [] => []
  | s :: ss => s.unplaced :: Statement.unplacedAll ss

/-- Rows of operands without their places. -/
def Operand.unplacedRows : List (List Operand) → List (List Operand)
  | [] => []
  | row :: more => Operand.unplacedAll row :: Operand.unplacedRows more

/-- A row of operands without their places. -/
def Operand.unplacedAll : List Operand → List Operand
  | [] => []
  | o :: os => o.unplaced :: Operand.unplacedAll os

end

theorem Operand.unplacedAll_eq_map (os : List Operand) :
    Operand.unplacedAll os = os.map Operand.unplaced := by
  induction os with
  | nil => rfl
  | cons o os ih => rw [Operand.unplacedAll, ih, List.map_cons]

theorem Operand.unplacedRows_eq_map (rows : List (List Operand)) :
    Operand.unplacedRows rows = rows.map (List.map Operand.unplaced) := by
  induction rows with
  | nil => rfl
  | cons row more ih =>
    rw [Operand.unplacedRows, ih, Operand.unplacedAll_eq_map, List.map_cons]

namespace Script

/-- An atom without its place. -/
def Atom.unplaced : Atom → Atom
  | .token t => .token t.unplaced
  | .bracketed o => .bracketed o.unplaced

/-- An operand or a comma without its place. -/
def Piece.unplaced : Piece → Piece
  | .operand o => .operand o.unplaced
  | .comma t => .comma t.unplaced

theorem number_unplaced (text : String) : (number text).unplaced = number text := by
  unfold number
  extract_lets digits
  split
  · split <;> rfl
  · split <;> rfl

theorem word_unplaced (t : Token) : word t.unplaced = (word t).unplaced := by
  unfold word
  rw [show t.unplaced.kind = t.kind from rfl]
  split
  · unfold quotedString
    rw [show t.unplaced.text = t.text from rfl]
    split <;> rfl
  · exact (number_unplaced t.text).symm
  · unfold variableWithMembers
    rw [show t.unplaced.text = t.text from rfl]
    split <;> rfl
  · rfl
  · rfl
  · rfl
  · rfl

theorem castNext_unplaced (t : Token) (ps : List Piece) :
    castNext t.unplaced (ps.map Piece.unplaced) = (castNext t ps).map Piece.unplaced := by
  rcases ps with _ | ⟨_ | _, ps⟩ <;> rfl

theorem pieces_unplaced (as : List Atom) :
    pieces (as.map Atom.unplaced) = (pieces as).map Piece.unplaced := by
  induction as with
  | nil => rfl
  | cons a as ih =>
    rw [List.map_cons]
    cases a with
    | bracketed o => rw [Atom.unplaced, pieces, pieces, ih, List.map_cons, Piece.unplaced]
    | token t =>
      rw [Atom.unplaced, pieces, pieces, ih, show t.unplaced.kind = t.kind from rfl]
      split
      · rfl
      · exact castNext_unplaced t _
      · rw [List.map_cons, Piece.unplaced, word_unplaced]

theorem rows_unplaced : ∀ ps : List Piece,
    rows (ps.map Piece.unplaced) = (rows ps).map (List.map Operand.unplaced)
  | [] => rfl
  | .comma t :: ps => by
    rw [List.map_cons, Piece.unplaced, rows, rows, rows_unplaced ps]
    rfl
  | [.operand o] => rfl
  | .operand o :: .operand o' :: ps =>
    congrArg ([o.unplaced] :: ·) (rows_unplaced (.operand o' :: ps))
  | .operand o :: .comma t :: ps => by
    simp only [List.map_cons, Piece.unplaced, rows]
    rw [rows_unplaced ps]
    cases rows ps <;> rfl

/-! ## Pieces -/

/-- Whether a piece is a comma. -/
def Piece.isComma : Piece → Bool
  | .operand _ => false
  | .comma _ => true

/-- A cast is put before an operand, also when there is none. -/
theorem exists_castNext (t : Token) (ps : List Piece) :
    ∃ o rest, castNext t ps = .operand o :: rest := by
  unfold castNext
  split
  · exact ⟨_, _, rfl⟩
  · exact ⟨_, _, rfl⟩

/-- The pieces of a row begin with a comma when the row does. -/
theorem head?_pieces (row : List Atom) :
    (pieces row).head?.any Piece.isComma = row.head?.any (Atom.isKind .comma) := by
  cases row with
  | nil => rfl
  | cons a row =>
    cases a with
    | bracketed o => rfl
    | token t =>
      simp only [pieces, List.head?_cons, Option.any_some, Atom.isKind]
      cases hkind : t.kind with
      | cast =>
        obtain ⟨o, rest, hcast⟩ := exists_castNext t (pieces row)
        rw [hcast]
        rfl
      | _ => rfl

/-- An operand stands alone when no comma follows. -/
theorem rows_operand (o : Operand) {ps : List Piece} (h : ps.head?.any Piece.isComma = false) :
    rows (.operand o :: ps) = [o] :: rows ps := by
  cases ps with
  | nil => rfl
  | cons p ps =>
    cases p with
    | operand o' => rfl
    | comma t => cases h

/-- Operands that begin with a comma are faulty where they begin. -/
theorem exists_rows_comma {ps : List Piece} (h : ps.head?.any Piece.isComma = true) :
    ∃ problem pos more, rows ps = [.faulty (.badSyntax problem pos)] :: more := by
  cases ps with
  | nil => cases h
  | cons p ps =>
    cases p with
    | operand o => cases h
    | comma t => exact ⟨_, _, _, rfl⟩

/-! ## Commas between operands -/

/-- Whether an operand can end with an atom. A cast needs an operand behind it. -/
def Atom.endsOperand (a : Atom) : Bool :=
  !a.isKind .comma && !a.isKind .cast

/-- A row of atoms without the commas that stand between two operands. `behind` says whether the row
stands behind an operand. -/
def bareFrom (behind : Bool) : List Atom → List Atom
  | [] => []
  | a :: rest =>
    if behind && a.isKind .comma && rest.head?.any fun b => !b.isKind .comma then
      bareFrom false rest
    else a :: bareFrom a.endsOperand rest

/-- A row of atoms without the commas that stand between two operands. A comma that the row begins
with is not one of them. -/
def bare (as : List Atom) : List Atom :=
  bareFrom false as

@[simp] theorem Atom.endsOperand_unplaced (a : Atom) : a.unplaced.endsOperand = a.endsOperand := by
  cases a <;> rfl

/-- The operands of a row of pieces, without regard to what joins them. -/
def operandsOf (ps : List Piece) : List Operand :=
  (rows ps).flatten

/-- The operands of what stands behind an operand: a comma at its beginning joins the operand to
what follows. -/
def operandsBehind : List Piece → List Operand
  | [.comma t] => [.faulty (.badSyntax (.missingOperand (Text.quoted t.text)) t.pos)]
  | .comma _ :: rest => operandsOf rest
  | rest => operandsOf rest

theorem rows_ne_nil (p : Piece) (ps : List Piece) : rows (p :: ps) ≠ [] := by
  rcases p with o | t
  · rcases ps with _ | ⟨o' | t, ps⟩
    · exact List.cons_ne_nil _ _
    · exact List.cons_ne_nil _ _
    · rw [rows]
      cases rows ps <;> exact List.cons_ne_nil _ _
  · exact List.cons_ne_nil _ _

theorem operandsOf_comma (t : Token) (ps : List Piece) :
    operandsOf (.comma t :: ps) =
      .faulty (.badSyntax (.unexpectedToken t.text) t.pos) :: operandsOf ps := by
  rw [operandsOf, rows, List.flatten_cons]
  rfl

theorem operandsOf_operand (o : Operand) (ps : List Piece) :
    operandsOf (.operand o :: ps) = o :: operandsBehind ps := by
  rcases ps with _ | ⟨_ | t, ps⟩
  · rfl
  · rfl
  · rcases ps with _ | ⟨p, ps⟩
    · rfl
    · rw [operandsBehind, operandsOf, operandsOf, rows]
      · cases hrest : rows (p :: ps) with
        | nil => exact absurd hrest (rows_ne_nil p ps)
        | cons row more => rfl
      · exact nofun

theorem operandsBehind_of_not_comma {ps : List Piece} (h : ps.head?.any Piece.isComma = false) :
    operandsBehind ps = operandsOf ps := by
  rcases ps with _ | ⟨_ | t, ps⟩
  · rfl
  · rfl
  · cases h

theorem operandsBehind_comma (t : Token) {ps : List Piece} (h : ps ≠ []) :
    operandsBehind (.comma t :: ps) = operandsOf ps := by
  rcases ps with _ | ⟨p, ps⟩
  · exact absurd rfl h
  · rfl

theorem pieces_ne_nil (a : Atom) (as : List Atom) : pieces (a :: as) ≠ [] := by
  cases a with
  | bracketed o => exact List.cons_ne_nil _ _
  | token t =>
    rw [pieces]
    split
    · exact List.cons_ne_nil _ _
    · rcases pieces as with _ | ⟨_ | _, ps⟩ <;> exact List.cons_ne_nil _ _
    · exact List.cons_ne_nil _ _

/-- Casts of the same operands are the same. -/
theorem operandsOf_castNext (t : Token) {ps qs : List Piece} (h : operandsOf ps = operandsOf qs)
    (hbehind : operandsBehind ps = operandsBehind qs)
    (hcommas : ps.head?.any Piece.isComma = qs.head?.any Piece.isComma) :
    operandsOf (castNext t ps) = operandsOf (castNext t qs) := by
  rcases ps with _ | ⟨o | c, ps⟩ <;> rcases qs with _ | ⟨o' | c', qs⟩
  · rfl
  · rw [operandsOf_operand] at h
    cases h
  · cases hcommas
  · rw [operandsOf_operand] at h
    cases h
  · rw [operandsOf_operand, operandsOf_operand] at h
    obtain ⟨rfl, hrest⟩ := List.cons.inj h
    rw [castNext, castNext, operandsOf_operand, operandsOf_operand, hrest]
  · cases hcommas
  · cases hcommas
  · cases hcommas
  · rw [castNext, castNext, operandsOf_operand, operandsOf_operand, hbehind]
    · exact nofun
    · exact nofun

theorem bareFrom_false_cons (a : Atom) (as : List Atom) :
    bareFrom false (a :: as) = a :: bareFrom a.endsOperand as := by
  rw [bareFrom, Bool.false_and, Bool.false_and, if_neg Bool.false_ne_true]

theorem head?_pieces_bareFrom (as : List Atom) :
    (pieces (bareFrom false as)).head?.any Piece.isComma = (pieces as).head?.any Piece.isComma := by
  cases as with
  | nil => rfl
  | cons a as =>
    rw [bareFrom_false_cons, head?_pieces, head?_pieces, List.head?_cons, List.head?_cons]

theorem pieces_comma {a : Atom} (h : a.isKind .comma = true) :
    a.endsOperand = false ∧ ∃ t, ∀ as, pieces (a :: as) = .comma t :: pieces as := by
  refine ⟨by rw [Atom.endsOperand, h]; rfl, ?_⟩
  cases a with
  | bracketed o => cases h
  | token t =>
    have hkind : t.kind = .comma := by simpa [Atom.isKind] using h
    exact ⟨t, fun as => by rw [pieces, hkind]⟩

/-- An atom in front of rows with the same operands. -/
theorem operandsOf_pieces_cons (a : Atom) (as : List Atom)
    (h : operandsOf (pieces (bareFrom false as)) = operandsOf (pieces as))
    (hbehind : ∀ behind,
      operandsBehind (pieces (bareFrom behind as)) = operandsBehind (pieces as)) :
    operandsOf (pieces (a :: bareFrom a.endsOperand as)) = operandsOf (pieces (a :: as)) := by
  cases a with
  | bracketed o => rw [pieces, pieces, operandsOf_operand, operandsOf_operand, hbehind]
  | token t =>
    rw [pieces, pieces]
    split
    · next hkind =>
      rw [show (Atom.token t).endsOperand = false by simp [Atom.endsOperand, Atom.isKind, hkind],
        operandsOf_comma, operandsOf_comma, h]
    · next hkind =>
      rw [show (Atom.token t).endsOperand = false by simp [Atom.endsOperand, Atom.isKind, hkind]]
      exact operandsOf_castNext t h (hbehind false) (head?_pieces_bareFrom as)
    · rw [operandsOf_operand, operandsOf_operand, hbehind]

/-- Without the commas between operands, a row has the same operands, also behind an operand. -/
theorem operandsOf_bareFrom (as : List Atom) :
    operandsOf (pieces (bareFrom false as)) = operandsOf (pieces as) ∧
      ∀ behind, operandsBehind (pieces (bareFrom behind as)) = operandsBehind (pieces as) := by
  induction as with
  | nil => exact ⟨rfl, fun _ => rfl⟩
  | cons a as ih =>
    obtain ⟨hof, hbehind⟩ := ih
    have hkept := operandsOf_pieces_cons a as hof hbehind
    refine ⟨by rw [bareFrom_false_cons, hkept], fun behind => ?_⟩
    rw [bareFrom]
    split
    · next hdropped =>
      rw [Bool.and_eq_true_iff, Bool.and_eq_true_iff] at hdropped
      obtain ⟨⟨-, hcomma⟩, hnext⟩ := hdropped
      obtain ⟨-, t, hpieces⟩ := pieces_comma hcomma
      cases as with
      | nil => cases hnext
      | cons b as =>
        have hb : b.isKind .comma = false := by simpa using hnext
        have hbegins : (pieces (bareFrom false (b :: as))).head?.any Piece.isComma = false := by
          rw [head?_pieces_bareFrom, head?_pieces, List.head?_cons, Option.any_some, hb]
        rw [operandsBehind_of_not_comma hbegins, hof, hpieces,
          operandsBehind_comma t (pieces_ne_nil b as)]
    · cases hcomma : a.isKind .comma with
      | false =>
        have hbegins (row : List Atom) : (pieces (a :: row)).head?.any Piece.isComma = false := by
          rw [head?_pieces, List.head?_cons, Option.any_some, hcomma]
        rw [operandsBehind_of_not_comma (hbegins _), operandsBehind_of_not_comma (hbegins _), hkept]
      | true =>
        obtain ⟨hends, t, hpieces⟩ := pieces_comma hcomma
        rw [hends, hpieces, hpieces]
        cases as with
        | nil => rfl
        | cons b as =>
          rw [operandsBehind_comma t (pieces_ne_nil b as), ← hof, bareFrom_false_cons,
            operandsBehind_comma t (pieces_ne_nil b _)]

theorem operandsOf_unplaced (ps : List Piece) :
    operandsOf (ps.map Piece.unplaced) = (operandsOf ps).map Operand.unplaced := by
  rw [operandsOf, rows_unplaced, ← List.map_flatten, operandsOf]

/-- **Commas between operands, and places, make no difference to the operands.** -/
theorem operands_bare {as bs : List Atom}
    (h : (bare as).map Atom.unplaced = (bare bs).map Atom.unplaced) :
    (operandsOf (pieces as)).map Operand.unplaced =
      (operandsOf (pieces bs)).map Operand.unplaced := by
  have hbare (as : List Atom) : (operandsOf (pieces as)).map Operand.unplaced =
      operandsOf (pieces ((bare as).map Atom.unplaced)) := by
    rw [pieces_unplaced, operandsOf_unplaced, bare, (operandsOf_bareFrom as).1]
  rw [hbare, hbare, h]

/-! ## Where arguments end -/

/-- What stands behind an operand does not change the pieces in front. -/
theorem exists_pieces_append (as : List Atom) {a : Atom} (h : a.endsOperand = true) :
    ∃ front o, ∀ bs, pieces (as ++ a :: bs) = front ++ .operand o :: pieces bs := by
  induction as with
  | nil =>
    cases a with
    | bracketed o => exact ⟨[], o, fun _ => rfl⟩
    | token t =>
      refine ⟨[], word t, fun bs => ?_⟩
      have hkind : t.kind ≠ .comma ∧ t.kind ≠ .cast := by
        simpa [Atom.endsOperand, Atom.isKind] using h
      rw [List.nil_append, pieces]
      split
      · next hcomma => exact absurd hcomma hkind.1
      · next hcast => exact absurd hcast hkind.2
      · rfl
  | cons b as ih =>
    obtain ⟨front, o, ih⟩ := ih
    cases b with
    | bracketed o' =>
      exact ⟨.operand o' :: front, o, fun bs => by
        rw [List.cons_append, pieces, ih, List.cons_append]⟩
    | token t =>
      cases hkind : t.kind with
      | comma =>
        exact ⟨.comma t :: front, o, fun bs => by
          rw [List.cons_append, pieces, hkind, ih, List.cons_append]⟩
      | cast =>
        cases front with
        | nil =>
          exact ⟨[], .cast t o, fun bs => by rw [List.cons_append, pieces, hkind, ih]; rfl⟩
        | cons p front =>
          refine ⟨castNext t (p :: front), o, fun bs => ?_⟩
          rw [List.cons_append, pieces, hkind, ih]
          cases p <;> rfl
      | _ =>
        exact ⟨.operand (word t) :: front, o, fun bs => by
          rw [List.cons_append, pieces, hkind, ih, List.cons_append]⟩

/-- Rows end where an operand follows another one without a comma. -/
theorem rows_append (o : Operand) {qs : List Piece} (h : qs.head?.any Piece.isComma = false) :
    ∀ front : List Piece,
      rows (front ++ .operand o :: qs) = rows (front ++ [.operand o]) ++ rows qs
  | [] => rows_operand o h
  | .comma t :: front => by
    rw [List.cons_append, List.cons_append, rows, rows, rows_append o h front, List.cons_append]
  | [.operand o'] => by
    rw [List.cons_append, List.cons_append, rows_operand o' rfl, rows_operand o' rfl,
      rows_append o h [], List.cons_append]
  | .operand o' :: .operand o'' :: front => by
    have hrest := rows_append o h (.operand o'' :: front)
    simp only [List.cons_append] at hrest ⊢
    rw [rows_operand o' rfl, rows_operand o' rfl, hrest, List.cons_append]
  | .operand o' :: .comma t :: front => by
    have hrest := rows_append o h front
    simp only [List.cons_append, rows]
    rw [hrest]
    cases hrows : rows (front ++ [.operand o]) with
    | nil =>
      cases front with
      | nil => cases hrows
      | cons p front => exact absurd hrows (rows_ne_nil p _)
    | cons row more => rfl

/-- **An argument ends where an operand follows another one without a comma.** -/
theorem rows_pieces_append (as : List Atom) {a : Atom} (ha : a.endsOperand = true)
    {bs : List Atom} (hbs : bs.head?.all fun b => !b.isKind .comma) :
    rows (pieces (as ++ a :: bs)) = rows (pieces (as ++ [a])) ++ rows (pieces bs) := by
  obtain ⟨front, o, hpieces⟩ := exists_pieces_append as ha
  have hbegins : (pieces bs).head?.any Piece.isComma = false := by
    cases bs with
    | nil => rfl
    | cons b bs => simpa [head?_pieces] using hbs
  rw [hpieces, hpieces]
  exact rows_append o hbegins front

/-- Rows of atoms behind a command that are the same but for places and for commas between operands
behind the first argument. -/
inductive SameButCommas : List Atom → List Atom → Prop
  /-- The first argument, or more of them, with `last` at the end, and what stands behind. -/
  | intro {head head' rest rest' : List Atom} {last last' : Atom}
    (heads : head.map Atom.unplaced = head'.map Atom.unplaced)
    (lasts : last.unplaced = last'.unplaced)
    (ends : last.endsOperand = true)
    (next : rest.head?.all fun a => !a.isKind .comma)
    (next' : rest'.head?.all fun a => !a.isKind .comma)
    (rests : (bare rest).map Atom.unplaced = (bare rest').map Atom.unplaced) :
    SameButCommas (head ++ last :: rest) (head' ++ last' :: rest')

/-- **Such rows have the same first argument and behind it the same operands**, but for places. -/
theorem SameButCommas.exists_rows {as as' : List Atom} (h : SameButCommas as as') :
    ∃ first first' more more',
      rows (pieces as) = first ++ more ∧ rows (pieces as') = first' ++ more' ∧ first ≠ [] ∧
      first.map (List.map Operand.unplaced) = first'.map (List.map Operand.unplaced) ∧
      more.flatten.map Operand.unplaced = more'.flatten.map Operand.unplaced := by
  cases h with
  | @intro head head' rest rest' last last' heads lasts ends next next' rests =>
    have ends' : last'.endsOperand = true := by
      rw [← last'.endsOperand_unplaced, ← lasts, last.endsOperand_unplaced, ends]
    refine ⟨_, _, _, _, rows_pieces_append head ends next, rows_pieces_append head' ends' next', ?_,
      ?_, operands_bare rests⟩
    · obtain ⟨front, o, hpieces⟩ := exists_pieces_append head ends
      rw [hpieces]
      cases front with
      | nil => exact rows_ne_nil _ _
      | cons p front => exact rows_ne_nil p _
    · have hfirst : (head ++ [last]).map Atom.unplaced = (head' ++ [last']).map Atom.unplaced := by
        rw [List.map_append, List.map_append, heads, List.map_singleton, lasts, List.map_singleton]
      rw [← rows_unplaced, ← rows_unplaced, ← pieces_unplaced, ← pieces_unplaced, hfirst]

end Script

end TagScript
