import Logo.Proofs.Program.Expressions

/-!
# Chains of operators

Infix operators have no precedence: an expression takes its first operand, and
everything after the first operator is the second one.  So a chain of operands
with operators between them nests to the right, whatever the operators are.

One token can end a chain early.  A minus sign that stands apart from the
operand before it but not from what comes after it begins a new expression, and
the chain ends right before it.

A chain is given by its tokens here, operand by operand, and what is known of an
operand is that it is read as far as the next operator and no further.
-/

namespace Logo.Program

/-! ## Chains -/

/-- An infix operator and the tokens of the operand after it, with the value of the operand. -/
structure Link where
  operator : Token
  glyph : String
  operand : List Token
  value : Value

/-- The tokens of links one after the other. -/
def Link.row (links : List Link) : List Token :=
  links.flatMap fun link => link.operator :: link.operand

@[simp]
theorem Link.row_nil : row [] = [] :=
  rfl

@[simp]
theorem Link.row_cons (link : Link) (links : List Link) :
    row (link :: links) = link.operator :: (link.operand ++ row links) :=
  rfl

/-- Two rows of links make one. -/
@[simp]
theorem Link.row_append (front back : List Link) : row (front ++ back) = row front ++ row back :=
  List.flatMap_append ..

/--
The operator of a link is the sign of the operand after it: a minus sign with a
gap between it and the token before, and none between it and a number, a
reference or a parenthesis.
-/
structure Link.BeginsNegative (link : Link) (previous : Token) : Prop where
  minus : link.operator.kind = .operator "-"
  gap : previous.stop < link.operator.start
  glued : ∃ first ∈ link.operand.head?, first.start = link.operator.stop ∧
    (first.kind = .number ∨ (∃ name, first.kind = .reference name) ∨ first.kind = .openParen)

theorem Link.BeginsNegative.ne_nil {link : Link} {previous : Token}
    (begins : link.BeginsNegative previous) : link.operand ≠ [] := by
  obtain ⟨-, -, first, ahead, -⟩ := begins
  rintro none
  rw [none] at ahead
  cases ahead

/-- No operator of a chain is the sign of the operand after it. -/
def Joined (behind : Token) (operand : List Token) (links : List Link) : Prop :=
  ∀ front link back, links = front ++ link :: back →
    ¬ link.BeginsNegative ((operand ++ Link.row front).getLastD behind)

/-- The value of a chain: each operator is applied to one operand and to all that follows. -/
def nestRight (first : Value) : List Link → Value
  | [] => first
  | link :: links => .operation link.glyph first (nestRight link.value links)

/-- The tokens of an operand are read as its value, up to what comes after and no further. -/
structure Operand (arities : Arities) (behind : Token) (operand : List Token) (value : Value)
    (after : List Token) : Prop where
  read : primary none arities (4 * (operand ++ after).length + 1) ⟨behind, operand ++ after⟩ =
    .ok (value, ⟨operand.getLastD behind, after⟩)
  allowed : allowsOperand value = true

/-- Operands with operators between them, followed by other tokens. -/
inductive Chain (arities : Arities) (after : List Token) :
    Token → List Token → Value → List Link → Prop where
  | operand {behind : Token} {operand : List Token} {value : Value}
      (read : Operand arities behind operand value after) :
      Chain arities after behind operand value []
  | link {behind : Token} {operand : List Token} {value : Value} {link : Link} {links : List Link}
      (read : Operand arities behind operand value (Link.row (link :: links) ++ after))
      (kind : link.operator.kind = .operator link.glyph)
      (others : Chain arities after link.operator link.operand link.value links) :
      Chain arities after behind operand value (link :: links)

variable {arities : Arities} {behind : Token} {operand after : List Token} {value : Value}
  {links : List Link} {link : Link}

/-- An operand is a primary. -/
theorem Operand.primary (read : Operand arities behind operand value after) :
    Grammar.Primary arities ⟨behind, operand ++ after⟩ value ⟨operand.getLastD behind, after⟩ :=
  (Grammar.keeps arities _).primary (Nat.le_refl _) (Nat.le_refl _) read.read

theorem Operand.ne_nil (read : Operand arities behind operand value after) : operand ≠ [] := by
  rintro rfl
  exact Nat.lt_irrefl _ read.primary.isPast.length_lt

theorem Chain.ne_nil (chain : Chain arities after behind operand value links) : operand ≠ [] := by
  cases chain with
  | operand read => exact read.ne_nil
  | link read => exact read.ne_nil

/-- The last token of a chain is that of its last operand. -/
theorem Link.getLastD_row (link : Link) (links : List Link) (operand : List Token)
    (behind : Token) :
    (operand ++ row (link :: links)).getLastD behind =
      (link.operand ++ row links).getLastD link.operator := by
  rw [row_cons]
  rw [List.getLastD_eq_getLast?, List.getLastD_eq_getLast?, List.getLast?_append,
    List.getLast?_cons]
  rfl

/-- A minus sign that begins a new expression is seen from its tokens. -/
theorem Link.atNegative_iff (link : Link) (previous : Token) (rest : List Token)
    (nonempty : link.operand ≠ []) :
    Cursor.atNegative ⟨previous, link.operator :: (link.operand ++ rest)⟩ = true ↔
      link.BeginsNegative previous := by
  obtain ⟨first, others, ahead⟩ := List.exists_cons_of_ne_nil nonempty
  have negatable : isNegatable first.kind = true ↔
      first.kind = .number ∨ (∃ name, first.kind = .reference name) ∨ first.kind = .openParen := by
    cases first.kind <;> simp [isNegatable]
  rw [ahead, List.cons_append]
  simp only [Cursor.atNegative, Bool.and_eq_true, beq_iff_eq, decide_eq_true_eq, negatable,
    Token.follows]
  constructor
  · rintro ⟨⟨⟨minus, kind⟩, glued⟩, gap⟩
    exact ⟨minus, gap, first, by rw [ahead]; rfl, glued.symm, kind⟩
  · rintro ⟨minus, gap, _, begins, glued, kind⟩
    rw [ahead] at begins
    cases begins
    exact ⟨⟨⟨minus, kind⟩, glued.symm⟩, gap⟩

/-! ## Chains are expressions -/

/-- A chain without such a sign is one expression, if none of it is left over. -/
theorem Chain.expression (chain : Chain arities after behind operand value links)
    (joined : Joined behind operand links)
    (complete : Cursor.EndsExpression ⟨(operand ++ Link.row links).getLastD behind, after⟩) :
    Grammar.Expression arities ⟨behind, operand ++ Link.row links ++ after⟩ (nestRight value links)
        ⟨(operand ++ Link.row links).getLastD behind, after⟩ ∧
      allowsOperand (nestRight value links) = true := by
  induction chain with
  | operand read =>
      simp only [Link.row_nil, List.append_nil] at complete ⊢
      exact ⟨.single read.primary complete, read.allowed⟩
  | @link behind operand value link links read kind others hypothesis =>
      rw [Link.getLastD_row] at complete ⊢
      have tail : Joined link.operator link.operand links := by
        intro front other back split
        rw [← Link.getLastD_row link front operand behind]
        exact joined (link :: front) other back (by rw [split]; rfl)
      obtain ⟨second, allowed⟩ := hypothesis tail complete
      have between : Cursor.atNegative
          ⟨operand.getLastD behind, link.operator :: (link.operand ++ (Link.row links ++ after))⟩ =
            false := by
        rw [Bool.eq_false_iff, ne_eq, link.atNegative_iff _ _ others.ne_nil]
        simpa using joined [] link links rfl
      have first := read.primary
      simp only [Link.row_cons, List.cons_append, List.append_assoc] at first second ⊢
      exact ⟨.operation first kind between second read.allowed allowed, rfl⟩

/-- The front of a chain is a chain, followed by the rest of it. -/
theorem Chain.front {front back : List Link}
    (chain : Chain arities after behind operand value (front ++ link :: back)) :
    Chain arities (Link.row (link :: back) ++ after) behind operand value front := by
  induction front generalizing behind operand value with
  | nil =>
      cases chain with
      | link read _ _ => exact .operand read
  | cons earlier front hypothesis =>
      cases chain with
      | link read kind others =>
          refine .link ?_ kind (hypothesis others)
          rw [List.append_eq, ← List.cons_append, Link.row_append, List.append_assoc] at read
          exact read

/--
Operators nest to the right.  A chain of operands, each of which is read as far
as the next operator, is read as a whole if no operator follows and none of its
operators is the sign of what comes after it; each operator is applied to the
operand before it and to all that follows.  If there is such a sign, reading
stops right before the first one, with the value of the chain so far.
-/
theorem expression_nests_right (chain : Chain arities after behind operand value links)
    {budget : Nat} (enough : 4 * (operand ++ Link.row links ++ after).length + 2 ≤ budget) :
    (Joined behind operand links →
      (∀ token ∈ after.head?, ∀ glyph, token.kind ≠ .operator glyph) →
        expression none arities budget ⟨behind, operand ++ Link.row links ++ after⟩ =
          .ok (nestRight value links, ⟨(operand ++ Link.row links).getLastD behind, after⟩)) ∧
    ∀ front link back, links = front ++ link :: back →
      Joined behind operand front →
      link.BeginsNegative ((operand ++ Link.row front).getLastD behind) →
        expression none arities budget ⟨behind, operand ++ Link.row links ++ after⟩ =
          .ok (nestRight value front,
            ⟨(operand ++ Link.row front).getLastD behind, Link.row (link :: back) ++ after⟩) := by
  constructor
  · intro joined ended
    refine (chain.expression joined ?_).1.reads budget enough
    intro token rest glyph ahead kind
    refine absurd kind (ended token ?_ glyph)
    rw [show after = token :: rest from ahead]
    rfl
  · rintro front link back rfl joined begins
    have stops : Cursor.EndsExpression
        ⟨(operand ++ Link.row front).getLastD behind, Link.row (link :: back) ++ after⟩ := by
      intro _ _ _ _ _
      have sign := (link.atNegative_iff _ (Link.row back ++ after) begins.ne_nil).mpr begins
      rwa [← List.append_assoc] at sign
    have read := (chain.front.expression joined stops).1.reads budget
    rw [Link.row_append, ← List.append_assoc, List.append_assoc _ _ after] at enough ⊢
    exact read enough

/--
The second minus sign is the sign of an operand and the third one begins a new
expression: only the first one subtracts.
-/
theorem minus_sign_ends_chain :
    let a : Token := ⟨.reference "a", ":a", 0, 2⟩
    let minus : Token := ⟨.operator "-", "-", 3, 4⟩
    let opens : Token := ⟨.openParen, "(", 5, 6⟩
    let b : Token := ⟨.reference "b", ":b", 6, 8⟩
    let closes : Token := ⟨.closeParen, ")", 8, 9⟩
    let times : Token := ⟨.operator "*", "*", 10, 11⟩
    let sign : Token := ⟨.operator "-", "-", 12, 13⟩
    let c : Token := ⟨.reference "c", ":c", 13, 15⟩
    let apart : Token := ⟨.operator "-", "-", 16, 17⟩
    let d : Token := ⟨.reference "d", ":d", 17, 19⟩
    let negated : Value := .operation "-" (.number 0) (.reference "c")
    let front : List Link :=
      [⟨minus, "-", [opens, b, closes], .reference "b"⟩, ⟨times, "*", [sign, c], negated⟩]
    let last : Link := ⟨apart, "-", [d], .reference "d"⟩
    Token.scan ":a - (:b) * -:c -:d" = [a] ++ Link.row (front ++ [last]) ∧
      Chain [] [] a [a] (.reference "a") (front ++ [last]) ∧ last.BeginsNegative c ∧
      expression none [] 42 ⟨a, [a, minus, opens, b, closes, times, sign, c, apart, d]⟩ =
        .ok (.operation "-" (.reference "a") (.operation "*" (.reference "b") negated),
          ⟨c, [apart, d]⟩) := by
  intro a minus opens b closes times sign c apart d negated front last
  have chain : Chain [] [] a [a] (.reference "a") (front ++ [last]) :=
    .link ⟨rfl, rfl⟩ rfl (.link ⟨rfl, rfl⟩ rfl (.link ⟨rfl, rfl⟩ rfl (.operand ⟨rfl, rfl⟩)))
  have begins : last.BeginsNegative c :=
    ⟨rfl, by decide, d, rfl, rfl, Or.inr (Or.inl ⟨_, rfl⟩)⟩
  have joined : Joined a [a] front := by
    rintro (_ | ⟨_, _ | ⟨_, _ | _⟩⟩) other later split negative <;> simp only [front] at split
    · cases split
      obtain ⟨-, -, _, ⟨⟩, glued, -⟩ := negative
      cases glued
    · cases split
      exact absurd negative.minus (by decide)
    · cases split
    · cases split
  exact ⟨by decide +kernel, chain, begins,
    (expression_nests_right chain (Nat.le_refl 42)).2 front last [] rfl joined begins⟩

end Logo.Program
