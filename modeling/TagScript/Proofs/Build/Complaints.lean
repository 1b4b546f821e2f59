import Mathlib.Logic.Relation
import TagScript.Build.Run
import TagScript.Proofs.Value.Refusals

/-!
# Complaints about places

While statements run, a build complains about their tokens: it reports a variable that nobody
defined, and it fails at a cast that is refused and at an operand that is missing or malformed. Such
a complaint tells a place. Any other one that tells a place is made by a command that the statements
invoke or by whoever takes what they yield.

* `Complaint`, `Complaint.IsPlaced`, `Complaint.Tells` — a report or a fault, and the place it tells.
* `Build.Raises`, `Build.Answers` — a step makes a complaint; all that it makes have a property.
* `Token.Blamed` — all complaints about a token. They tell the place of the token.
* `Operand.BlamesOnly`, `Statement.BlamesOnly` — what is wrong is wrong with certain tokens.
* `Build.Enters`, `Build.Delegated` — what an evaluation comes to, and a complaint that is made by a
  command or a consumer there.
* `Build.answers_operand_and_statement` — any other complaint of a statement is about its tokens.
* **`Build.answers_drain`** — the same for all statements of a block, one after another.
-/

namespace TagScript

/-! ## Complaints -/

/-- What a build tells about a problem. -/
inductive Complaint where
  /-- The problem is tolerated and reported. -/
  | reported (d : Diagnostic)
  /-- The problem ends the build. -/
  | raised (fault : Fault)

/-- Whether a complaint is one that tells a place of a text: about a variable that nobody defined, a
cast that is unknown or refused, or a text that is malformed. -/
def Complaint.IsPlaced : Complaint → Prop
  | .reported d => d.code = .undefinedVariable
  | .raised (.badSyntax ..) => True
  | .raised (.runtime (.unknownType ..)) => True
  | .raised (.runtime (.refusedCast ..)) => True
  | .raised _ => False

/-- Whether a complaint tells this place. -/
def Complaint.Tells (pos : Position) : Complaint → Prop
  | .reported d => d.position = pos.fields
  | .raised (.badSyntax _ p) => p = pos
  | .raised (.runtime (.unknownType _ _ p)) => p = pos
  | .raised (.runtime (.refusedCast _ _ _ _ p)) => p = pos
  | .raised _ => False

/-- Whether an operand reads a variable of this name. -/
def Operand.Reads (name : String) : Operand → Prop
  | .variable other _ _ => other = name
  | .string parts _ => .variable name ∈ parts
  | _ => False

/-- What can be said against a token. -/
inductive Token.Blamed (env : BuildEnv) (t : Token) : Complaint → Prop where
  /-- A variable that it reads is not defined. -/
  | undefined {name : String} (h : (Script.word t).Reads name) :
      t.Blamed env (.reported (Build.undefinedVariable env name t.pos))
  /-- It is a string in which a variable is not closed. -/
  | unterminated {parts : List StringPart} (h : Script.word t = .string parts t.pos) :
      t.Blamed env (.raised (.badSyntax .unterminatedInterpolation t.pos))
  /-- It is a cast to a type that nobody knows. -/
  | unknownType (h : t.kind = .cast) :
      t.Blamed env (.raised (.runtime (.unknownType t.text (Build.castType t) t.pos)))
  /-- It is a cast that refuses a value. -/
  | refusedCast (h : t.kind = .cast) (value reason : String) :
      t.Blamed env (.raised (.runtime (.refusedCast value t.text reason (Build.castType t) t.pos)))
  /-- It is a cast without an operand, or a comma without one behind it. -/
  | missingOperand (h : t.kind = .cast ∨ t.kind = .comma) (text : String) :
      t.Blamed env (.raised (.badSyntax (.missingOperand text) t.pos))
  /-- It is no operand. -/
  | unexpected (h : Script.word t = .faulty (.badSyntax (.unexpectedToken t.text) t.pos)) :
      t.Blamed env (.raised (.badSyntax (.unexpectedToken t.text) t.pos))

/-! ## Operands and their tokens -/

section

variable (env : BuildEnv) (T : Token → Prop)

/-- Whether a complaint that tells a place is about one of some tokens. -/
def Complaint.About (c : Complaint) : Prop :=
  c.IsPlaced → ∃ t, T t ∧ t.Blamed env c

mutual

/-- Whether all that can be wrong with an operand is wrong with one of some tokens, apart from what
its statements invoke. -/
def Operand.BlamesOnly : Operand → Prop
  | .constant _ | .group .. => True
  | .string parts pos => ∃ t, T t ∧ t.pos = pos ∧ Script.word t = .string parts pos
  | .variable name members pos =>
    ∃ t, T t ∧ t.pos = pos ∧ Script.word t = .variable name members pos
  | .paren body => Statement.BlameOnly body
  | .cast type o => (T type ∧ type.kind = .cast) ∧ o.BlamesOnly
  | .faulty fault => (Complaint.raised fault).About env T

/-- Whether it is so with all operands of a row. -/
def Operand.BlameOnly : List Operand → Prop
  | [] => True
  | o :: os => o.BlamesOnly ∧ Operand.BlameOnly os

/-- Whether it is so with all operands of a statement. -/
def Operand.RowsBlameOnly : List (List Operand) → Prop
  | [] => True
  | row :: rows => Operand.BlameOnly row ∧ Operand.RowsBlameOnly rows

/-- Whether it is so with a statement. -/
def Statement.BlamesOnly : Statement → Prop
  | .mk _ rows => Operand.RowsBlameOnly rows

/-- Whether it is so with all statements of a row. -/
def Statement.BlameOnly : List Statement → Prop
  | [] => True
  | s :: ss => s.BlamesOnly ∧ Statement.BlameOnly ss

end

end

namespace Build

/-! ## Steps that complain -/

section

variable {α β : Type} {m : Build α} {s : BuildState} {P : Complaint → Prop}

/-- Whether a step makes a complaint when it begins in a state: it adds the report, or it fails
so. -/
def Raises (m : Build α) (s : BuildState) : Complaint → Prop
  | .reported d => d ∈ (m s).2.diagnostics ∧ d ∉ s.diagnostics
  | .raised fault => (m s).1 = .error fault

/-- Whether all complaints that tell a place and that a step makes, when it begins in a state, have a
property. -/
def Answers (m : Build α) (s : BuildState) (P : Complaint → Prop) : Prop :=
  ∀ c, Raises m s c → c.IsPlaced → P c

/-- A complaint of two steps is one of the first, or one of the second. -/
theorem raises_bind {f : α → Build β} {c : Complaint} (h : Raises (m >>= f) s c) :
    Raises m s c ∨ ∃ a s₁, m s = (.ok a, s₁) ∧ Raises (f a) s₁ c := by
  rcases hrun : m s with ⟨fault | a, s₁⟩
  · left
    cases c with
    | reported d =>
      rw [Raises, bind_of_error hrun] at h
      rwa [Raises, hrun]
    | raised f =>
      rw [Raises, bind_of_error hrun] at h
      rw [Raises, hrun, Except.error.inj h]
  · cases c with
    | raised f => exact .inr ⟨a, s₁, rfl, by rwa [Raises, bind_of_ok hrun] at h⟩
    | reported d =>
      obtain ⟨hnow, hbefore⟩ := h
      rw [bind_of_ok hrun] at hnow
      by_cases hfirst : d ∈ s₁.diagnostics
      · exact .inl ⟨by rwa [hrun], hbefore⟩
      · exact .inr ⟨a, s₁, rfl, hnow, hfirst⟩

namespace Answers

theorem bind {f : α → Build β} (h : Answers m s P)
    (hf : ∀ a s₁, m s = (.ok a, s₁) → Answers (f a) s₁ P) : Answers (m >>= f) s P := by
  intro c hc hplaced
  rcases raises_bind hc with hfirst | ⟨a, s₁, hrun, hsecond⟩
  · exact h c hfirst hplaced
  · exact hf a s₁ hrun c hsecond hplaced

/-- A step that reports nothing, and whose faults have the property. -/
theorem of_silent (hreports : (m s).2.diagnostics = s.diagnostics)
    (hfaults : ∀ fault, (m s).1 = .error fault → (Complaint.raised fault).IsPlaced →
      P (.raised fault)) : Answers m s P := by
  intro c hc hplaced
  cases c with
  | reported d =>
    obtain ⟨hnow, hbefore⟩ := hc
    rw [hreports] at hnow
    exact absurd hnow hbefore
  | raised fault => exact hfaults fault hc hplaced

/-- A step that comes to a value and reports nothing. -/
theorem of_quiet {a : α} {s' : BuildState} (hrun : m s = (.ok a, s'))
    (hsame : s'.diagnostics = s.diagnostics) : Answers m s P := by
  refine of_silent (by rwa [hrun]) fun fault hfault => ?_
  rw [hrun] at hfault
  cases hfault

theorem value (a : α) : Answers (pure a) s P :=
  of_quiet rfl rfl

theorem read (f : BuildState → α) : Answers (Build.read f) s P :=
  of_quiet rfl rfl

theorem lift {r : Except Fault α} (h : ∀ fault, r = .error fault →
    (Complaint.raised fault).IsPlaced → P (.raised fault)) : Answers (Build.lift r) s P :=
  of_silent rfl h

theorem fail {fault : Fault} (h : (Complaint.raised fault).IsPlaced → P (.raised fault)) :
    Answers (Build.fail fault : Build α) s P :=
  of_silent rfl fun _ heq => Except.error.inj heq ▸ h

/-- Writing to the log complains about nothing. -/
theorem record (logger : Logger) (level : LogLevel) (message : String)
    (extra : List (String × Json)) : Answers (Build.record logger level message extra) s P :=
  of_quiet rfl rfl

theorem report {d : Diagnostic} (h : P (.reported d)) : Answers (Build.report d) s P := by
  intro c hc _
  cases c with
  | raised fault => cases hc
  | reported d' =>
    obtain ⟨hnow, hbefore⟩ := hc
    rcases Array.mem_push.mp hnow with hold | rfl
    · exact absurd hold hbefore
    · exact h

end Answers

end

/-! ## Complaints about tokens -/

section

variable {env : BuildEnv} {s : BuildState} {P : Complaint → Prop}

/-- Reading a variable complains about the token that reads it. -/
theorem answers_lookup {t : Token} (hP : ∀ c, t.Blamed env c → P c) (scope : ScopeId) {name : String}
    (h : (Script.word t).Reads name) : Answers (lookup env scope name t.pos) s P := by
  unfold lookup
  refine .bind (.read _) fun v _ _ => ?_
  split
  · exact .value _
  · split
    · exact .fail fun hplaced => absurd hplaced id
    · exact .bind (.record _ _ _ _) fun _ _ _ =>
        .bind (.report (hP _ (.undefined h))) fun _ _ _ => .value _

/-- So does reading the variables of a string. -/
theorem answers_interpolate {t : Token} (hP : ∀ c, t.Blamed env c → P c) {parts : List StringPart}
    (h : Script.word t = .string parts t.pos) (scope : ScopeId) {rest : List StringPart}
    (hrest : ∀ part ∈ rest, part ∈ parts) : Answers (interpolate env scope t.pos rest) s P := by
  induction rest generalizing s with
  | nil => exact .value []
  | cons part rest ih =>
    obtain ⟨hpart, hmore⟩ := List.forall_mem_cons.mp hrest
    match part with
    | .char c => exact .bind (ih hmore) fun cs _ _ => .value _
    | .variable name =>
      have hreads : (Script.word t).Reads name := by
        rw [h]
        exact hpart
      exact .bind (answers_lookup hP scope hreads) fun v _ _ =>
        .bind (ih hmore) fun cs _ _ => .value _
    | .unterminated => exact .fail fun _ => hP _ (.unterminated h)

/-- A cast complains about itself. -/
theorem answers_castValue {type : Token} (hP : ∀ c, type.Blamed env c → P c)
    (hkind : type.kind = .cast) (r : Registry) (v : Value) :
    Answers (lift (castValue r type v)) s P := by
  refine .lift fun fault hfault => ?_
  unfold castValue at hfault
  dsimp only at hfault
  split at hfault
  · cases hfault
    exact fun _ => hP _ (.unknownType hkind)
  · rename_i c _
    cases happly : c.apply r v with
    | ok w =>
      rw [happly] at hfault
      cases hfault
    | error refused =>
      rw [happly] at hfault
      cases hfault
      rcases Cast.apply_error happly with habout | ⟨wording, rfl⟩
      · dsimp only
        rw [if_pos habout]
        exact fun _ => hP _ (.refusedCast hkind _ _)
      · exact fun hplaced => absurd hplaced id

end

/-! ## What an evaluation comes to -/

/-- What is evaluated while a block runs whose values go to a consumer. -/
inductive Code (σ : Type) where
  /-- The statements of the block, from one of them on, with what the consumer made so far. -/
  | block (ss : List Statement) (acc : σ)
  /-- The statements between parentheses, from one of them on. -/
  | statements (ss : List Statement)
  /-- A statement. -/
  | statement (st : Statement)
  /-- The operands of a statement, from one row on. -/
  | rows (rs : List (List Operand))
  /-- The operands of a row, from one of them on. -/
  | operands (os : List Operand)
  /-- An operand. -/
  | operand (o : Operand)
  /-- A command with its arguments. -/
  | command (i : Invocation)
  /-- The consumer with what a statement yielded. -/
  | consumer (acc : σ) (vs : List Value)

section

variable {σ : Type} (E : Engine) (env : BuildEnv) (scope : ScopeId)
  (consume : σ → List Value → Build σ)

/-- What the evaluation of something, begun in a state, comes to next, and in which state: whatever
stands before it came to its value. -/
inductive Enters : Code σ × BuildState → Code σ × BuildState → Prop where
  | first {st : Statement} {ss : List Statement} {acc : σ} {s : BuildState} :
      Enters (.block (st :: ss) acc, s) (.statement st, s)
  | consumer {st : Statement} {ss : List Statement} {acc : σ} {vs : List Value} {s s₁ : BuildState}
      (h : statement E env scope st s = (.ok vs, s₁)) :
      Enters (.block (st :: ss) acc, s) (.consumer acc vs, s₁)
  | later {st : Statement} {ss : List Statement} {acc acc' : σ} {vs : List Value}
      {s s₁ s₂ : BuildState} (h : statement E env scope st s = (.ok vs, s₁))
      (htaken : consume acc vs s₁ = (.ok acc', s₂)) :
      Enters (.block (st :: ss) acc, s) (.block ss acc', s₂)
  | statement {st : Statement} {ss : List Statement} {s : BuildState} :
      Enters (.statements (st :: ss), s) (.statement st, s)
  | statements {st : Statement} {ss : List Statement} {vs : List Value} {s s₁ : BuildState}
      (h : statement E env scope st s = (.ok vs, s₁)) :
      Enters (.statements (st :: ss), s) (.statements ss, s₁)
  | content {name : Option String} {rs : List (List Operand)} {s : BuildState} :
      Enters (.statement (.mk name rs), s) (.rows rs, s)
  | command {name : String} {rs : List (List Operand)} {args : List Value} {s s₁ : BuildState}
      (h : rows E env scope rs s = (.ok args, s₁)) :
      Enters (.statement (.mk (some name) rs), s) (.command ⟨name, args, scope⟩, s₁)
  | row {os : List Operand} {rs : List (List Operand)} {s : BuildState} :
      Enters (.rows (os :: rs), s) (.operands os, s)
  | rows {os : List Operand} {rs : List (List Operand)} {vs : List Value} {s s₁ : BuildState}
      (h : operands E env scope os s = (.ok vs, s₁)) : Enters (.rows (os :: rs), s) (.rows rs, s₁)
  | operand {o : Operand} {os : List Operand} {s : BuildState} :
      Enters (.operands (o :: os), s) (.operand o, s)
  | operands {o : Operand} {os : List Operand} {v : Value} {s s₁ : BuildState}
      (h : operand E env scope o s = (.ok v, s₁)) :
      Enters (.operands (o :: os), s) (.operands os, s₁)
  | paren {body : List Statement} {s : BuildState} :
      Enters (.operand (.paren body), s) (.statements body, s)
  | cast {type : Token} {o : Operand} {s : BuildState} :
      Enters (.operand (.cast type o), s) (.operand o, s)

/-- Whether a complaint is made by a command or by the consumer, to which an evaluation comes. -/
def Delegated (a : Code σ) (s : BuildState) (c : Complaint) : Prop :=
  (∃ i s', Relation.ReflTransGen (Enters E env scope consume) (a, s) (.command i, s') ∧
      Raises (invoke E env i) s' c) ∨
    ∃ acc vs s', Relation.ReflTransGen (Enters E env scope consume) (a, s)
      (.consumer acc vs, s') ∧ Raises (consume acc vs) s' c

/-- Whether a complaint of an evaluation is explained: it is made by a command or by the consumer, or
it is about one of some tokens. -/
def Explained (T : Token → Prop) (a : Code σ) (s : BuildState) (c : Complaint) : Prop :=
  Delegated E env scope consume a s c ∨ ∃ t, T t ∧ t.Blamed env c

end

section

variable {σ : Type} {E : Engine} {env : BuildEnv} {scope : ScopeId}
  {consume : σ → List Value → Build σ} {T : Token → Prop}

/-- What explains a complaint of something explains it where the evaluation comes to that. -/
theorem Explained.enter {a b : Code σ} {s s₁ : BuildState}
    (h : Enters E env scope consume (a, s) (b, s₁)) {c : Complaint}
    (hc : Explained E env scope consume T b s₁ c) : Explained E env scope consume T a s c := by
  rcases hc with (⟨i, s', hreach, hraises⟩ | ⟨acc, vs, s', hreach, hraises⟩) | hblamed
  · exact .inl (.inl ⟨i, s', .head h hreach, hraises⟩)
  · exact .inl (.inr ⟨acc, vs, s', .head h hreach, hraises⟩)
  · exact .inr hblamed

/-- So a step may be taken to where the evaluation comes. -/
theorem Answers.enter {α : Type} {m : Build α} {a b : Code σ} {s s₁ : BuildState}
    (h : Answers m s₁ (Explained E env scope consume T b s₁))
    (henter : Enters E env scope consume (a, s) (b, s₁)) :
    Answers m s₁ (Explained E env scope consume T a s) :=
  fun c hc hplaced => (h c hc hplaced).enter henter

/-- **Operands, their rows, statements and rows of statements**: their complaints are explained. -/
theorem answers_operand_and_statement :
    (∀ o, Operand.BlamesOnly env T o → ∀ s,
      Answers (operand E env scope o) s (Explained E env scope consume T (.operand o) s)) ∧
    (∀ ss, Statement.BlameOnly env T ss → ∀ s,
      Answers (statements E env scope ss) s (Explained E env scope consume T (.statements ss) s)) ∧
    (∀ st, Statement.BlamesOnly env T st → ∀ s,
      Answers (statement E env scope st) s (Explained E env scope consume T (.statement st) s)) ∧
    (∀ rs, Operand.RowsBlameOnly env T rs → ∀ s,
      Answers (rows E env scope rs) s (Explained E env scope consume T (.rows rs) s)) ∧
    ∀ os, Operand.BlameOnly env T os → ∀ s,
      Answers (operands E env scope os) s (Explained E env scope consume T (.operands os) s) := by
  apply Build.operand.mutual_induct
  case case1 =>
    intro v _ s
    rw [operand]
    exact .value v
  case case2 =>
    rintro parts _ ⟨t, ht, rfl, hword⟩ s
    rw [operand]
    exact .bind (answers_interpolate (fun c hc => .inr ⟨t, ht, hc⟩) hword scope fun _ hpart => hpart)
      fun cs _ _ => .value _
  case case3 =>
    rintro name members _ ⟨t, ht, rfl, hword⟩ s
    rw [operand]
    have hreads : (Script.word t).Reads name := by
      rw [hword]
      exact rfl
    exact .bind (answers_lookup (fun c hc => .inr ⟨t, ht, hc⟩) scope hreads) fun v _ _ => .read _
  case case4 =>
    intro source line _ s
    rw [operand]
    exact .value _
  case case5 =>
    intro body ih h s
    rw [operand]
    exact .bind ((ih h s).enter .paren) fun vs _ _ => .value _
  case case6 =>
    rintro type o ih ⟨⟨htype, hkind⟩, ho⟩ s
    rw [operand]
    refine .bind ((ih ho s).enter .cast) fun v _ _ => .bind (.read _) fun registry _ _ => ?_
    exact answers_castValue (fun c hc => .inr ⟨type, htype, hc⟩) hkind registry v
  case case7 =>
    intro fault h s
    rw [operand]
    exact .fail fun hplaced => .inr (h hplaced)
  case case8 =>
    intro command content ih h s
    rw [statement]
    refine .bind ((ih h s).enter .content) fun args s₁ hargs => ?_
    cases command with
    | some name =>
      have hinvoke : Answers (invoke E env ⟨name, args, scope⟩) s₁
          (Explained E env scope consume T (.statement (.mk (some name) content)) s) := fun c hc _ =>
        .inl (.inl ⟨_, s₁, .single (.command hargs), hc⟩)
      exact hinvoke.bind fun v _ _ => .value _
    | none => exact .value _
  case case9 =>
    intro _ s
    rw [statements]
    exact .value []
  case case10 =>
    rintro st ss ihst ihss ⟨hst, hss⟩ s
    rw [statements]
    exact .bind ((ihst hst s).enter .statement) fun vs s₁ hrun =>
      .bind ((ihss hss s₁).enter (.statements hrun)) fun rest _ _ => .value _
  case case11 =>
    intro _ s
    rw [rows]
    exact .value []
  case case12 =>
    rintro row more ihrow ihmore ⟨hrow, hmore⟩ s
    rw [rows]
    exact .bind ((ihrow hrow s).enter .row) fun vs s₁ hrun =>
      .bind ((ihmore hmore s₁).enter (.rows hrun)) fun rest _ _ => .value _
  case case13 =>
    intro _ s
    rw [operands]
    exact .value []
  case case14 =>
    rintro o os iho ihos ⟨ho, hos⟩ s
    rw [operands]
    exact .bind ((iho ho s).enter .operand) fun v s₁ hrun =>
      .bind ((ihos hos s₁).enter (.operands hrun)) fun vs _ _ => .value _

/-- **The statements of a block, one after another.** A complaint that tells a place is made by a
command that they come to, or by whoever takes what they yield, or it is about one of the tokens. -/
theorem answers_drain {kind : String} {ss : List Statement} (hss : Statement.BlameOnly env T ss)
    {yielded : Nat} {acc : σ} {s : BuildState} :
    Answers (drain E env scope kind consume (ss.map .statement) yielded acc) s
      (Explained E env scope consume T (.block ss acc) s) := by
  induction ss generalizing yielded acc s with
  | nil =>
    have hnote {P : Complaint → Prop} : Answers (noteBlock env kind yielded) s P := .of_quiet rfl rfl
    exact hnote.bind fun _ _ _ => .value acc
  | cons st ss ih =>
    obtain ⟨hst, hss⟩ := hss
    obtain ⟨-, -, hstatement, -⟩ := @answers_operand_and_statement σ E env scope consume T
    refine .bind ((hstatement st hst s).enter .first) fun vs s₁ hrun => ?_
    have htake : Answers (consume acc vs) s₁
        (Explained E env scope consume T (.block (st :: ss) acc) s) := fun c hc _ =>
      .inl (.inr ⟨acc, vs, s₁, .single (.consumer hrun), hc⟩)
    exact htake.bind fun acc' s₂ htaken => (ih hss).enter (.later hrun htaken)

end

end Build

end TagScript
