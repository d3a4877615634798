import Logo.Proofs.Program.Relocation

/-!
# Expressions read side by side

Two readers work side by side: one on the tokens of a text, the other on the
same tokens relocated, each with a budget of its own that is large enough.
They take the same decisions, so they end alike.  Either both give the same
tree, its origins relocated, and stand after the same token; or both stop with
the same complaint about the same token.

Along the way it is seen what a single reader can do.  It gives a place further
on among the tokens of the text, or an issue that points to one of them, and it
never complains of its own limits: not of a number that it cannot read, not of
a budget that has run out, and, if its room is not limited, not of that either.
-/

namespace Logo

/-- Complaints about the limits of the readers, and not about a text. -/
def Complaint.isTrip : Complaint → Bool
  | .tooNested => true
  | .noRoom => true
  | .unreadableNumber _ => true
  | _ => false

/-- An issue with a text of these tokens. -/
structure Issue.IsAbout (tokens : List Token) (issue : Issue) : Prop where
  fair : issue.complaint.isTrip = false
  points : issue.token ∈ tokens

/-- Tokens whose numbers can be read and whose seams a relocation keeps. -/
structure Relocation.Suits (relocation : Relocation) (tokens : List Token) : Prop where
  spelled : ∀ token ∈ tokens, token.kind = .number → ∃ value, Number.read? token.lexeme = some value
  seams : tokens.IsChain relocation.KeepsSeam

theorem Relocation.Suits.isChain {relocation : Relocation} {tokens rest : List Token}
    (suits : relocation.Suits tokens) (suffix : rest <:+ tokens) :
    rest.IsChain relocation.KeepsSeam :=
  suits.seams.suffix suffix

namespace Program

variable {relocation : Relocation} {tokens row : List Token} {arities : Arities}

/-! ## Results side by side -/

/-- Two results are parallel: their values correspond, or they are one issue in two places. -/
inductive Parallel (relocation : Relocation) (tokens : List Token) {α β : Type}
    (values : α → β → Prop) : Except Issue α → Except Issue β → Prop where
  | value {left : α} {right : β} (corresponds : values left right) :
      Parallel relocation tokens values (.ok left) (.ok right)
  | issue {issue : Issue} (about : issue.IsAbout tokens) :
      Parallel relocation tokens values (.error issue) (.error (issue.relocate relocation))

/-- Two things that were read and where: the second is the first relocated, further on in a row. -/
structure Placed (relocation : Relocation) {α : Type} (image : α → α) (row : List Token)
    (left right : α × Cursor) : Prop where
  further : left.2.row <:+ row
  same : right = (image left.1, left.2.relocate relocation)

/-- Two readings give the same value. -/
abbrev ReadValue (relocation : Relocation) (tokens row : List Token) :
    Except Issue (Value × Cursor) → Except Issue (Value × Cursor) → Prop :=
  Parallel relocation tokens (Placed relocation (Value.mapOrigins relocation.origin) row)

/-- Two readings give the same values. -/
abbrev ReadValues (relocation : Relocation) (tokens row : List Token) :
    Except Issue (List Value × Cursor) → Except Issue (List Value × Cursor) → Prop :=
  Parallel relocation tokens (Placed relocation (valuesMapOrigins relocation.origin) row)

namespace Parallel

theorem given {α : Type} {image : α → α} {result : α} {last : Cursor}
    (further : last.row <:+ row) :
    Parallel relocation tokens (Placed relocation image row) (.ok (result, last))
      (.ok (image result, last.relocate relocation)) :=
  .value ⟨further, rfl⟩

theorem imp {α β : Type} {values others : α → β → Prop} {left : Except Issue α}
    {right : Except Issue β} (parallel : Parallel relocation tokens values left right)
    (weaker : ∀ value value', values value value' → others value value') :
    Parallel relocation tokens others left right := by
  cases parallel with
  | value corresponds => exact .value (weaker _ _ corresponds)
  | issue about => exact .issue about

/-- One reader after another goes in parallel. -/
theorem bind {α β γ δ : Type} {values : α → β → Prop} {others : γ → δ → Prop}
    {left : Except Issue α} {right : Except Issue β} {next : α → Except Issue γ}
    {next' : β → Except Issue δ} (first : Parallel relocation tokens values left right)
    (rest : ∀ value value', values value value' →
      Parallel relocation tokens others (next value) (next' value')) :
    Parallel relocation tokens others (left >>= next) (right >>= next') := by
  cases first with
  | value corresponds => exact rest _ _ corresponds
  | issue about => exact .issue about

/-- Sequencing after something was read. -/
theorem andThen {α γ δ : Type} {image : α → α} {others : γ → δ → Prop}
    {left right : Except Issue (α × Cursor)} {next : α × Cursor → Except Issue γ}
    {next' : α × Cursor → Except Issue δ}
    (first : Parallel relocation tokens (Placed relocation image row) left right)
    (rest : ∀ result last, last.row <:+ row →
      Parallel relocation tokens others (next (result, last))
        (next' (image result, last.relocate relocation))) :
    Parallel relocation tokens others (left >>= next) (right >>= next') := by
  refine first.bind ?_
  rintro ⟨result, last⟩ _ ⟨further, rfl⟩
  exact rest result last further

/-- Both sides decide alike. -/
theorem choose {α β : Type} {values : α → β → Prop} {holds holds' : Prop} [Decidable holds]
    [Decidable holds'] {left other : Except Issue α} {right other' : Except Issue β}
    (same : holds' ↔ holds) (yes : Parallel relocation tokens values left right)
    (no : Parallel relocation tokens values other other') :
    Parallel relocation tokens values (if holds then left else other)
      (if holds' then right else other') := by
  by_cases decided : holds
  · rw [if_pos decided, if_pos (same.mpr decided)]
    exact yes
  · rw [if_neg decided, if_neg (mt same.mp decided)]
    exact no

/-- One more value in front of others. -/
theorem cons {row' : List Token} {left right : Except Issue (List Value × Cursor)} (first : Value)
    (others : ReadValues relocation tokens row left right) (wider : row <:+ row') :
    ReadValues relocation tokens row'
      (do
        let (values, last) ← left
        return (first :: values, last))
      (do
        let (values, last) ← right
        return (first.mapOrigins relocation.origin :: values, last)) := by
  refine others.andThen ?_
  intro values last further
  exact .given (further.trans wider)

end Parallel

/-! ## Places in a text -/

/-- What is ahead of a place further on is an end of the row. -/
theorem ahead_suffix {last : Cursor} (further : last.row <:+ row) : last.ahead <:+ row :=
  (List.suffix_cons last.behind last.ahead).trans further

theorem Cursor.length_lt_of_row {last : Cursor} (further : last.row <:+ row) :
    last.ahead.length < row.length :=
  further.length_le

theorem Cursor.row_tail {behind token : Token} {rest : List Token}
    (place : Cursor.row ⟨behind, token :: rest⟩ <:+ tokens) : token :: rest <:+ tokens :=
  (List.suffix_cons behind (token :: rest)).trans place

theorem Cursor.next_mem {cursor : Cursor} (place : cursor.row <:+ tokens) : cursor.next ∈ tokens :=
  place.subset cursor.next_mem_row

/-! ## Checks -/

theorem numberOf_eq_ok (suits : relocation.Suits tokens) {token : Token} (member : token ∈ tokens)
    (kind : token.kind = .number) :
    ∃ value, numberOf token = .ok value ∧ numberOf (token.relocate relocation) = .ok value := by
  obtain ⟨value, spelled⟩ := suits.spelled token member kind
  exact ⟨value, numberOf_eq_ok_iff.mpr spelled, numberOf_eq_ok_iff.mpr spelled⟩

theorem checkOperand_parallel (glyph : String) (value : Value) {token : Token}
    (member : token ∈ tokens) :
    Parallel relocation tokens (fun _ _ => True) (checkOperand glyph value token)
      (checkOperand glyph (value.mapOrigins relocation.origin) (token.relocate relocation)) := by
  simp only [checkOperand, allowsOperand_mapOrigins, Value.describe, Value.render_mapOrigins]
  split
  · exact .value trivial
  · exact .issue ⟨rfl, member⟩

theorem checkInput_parallel (name : String) (shape : Shape) (value : Value) {token : Token}
    (member : token ∈ tokens) :
    Parallel relocation tokens (fun _ _ => True) (checkInput name shape value token)
      (checkInput name shape (value.mapOrigins relocation.origin) (token.relocate relocation)) := by
  simp only [checkInput, allowsInput_mapOrigins, Value.describe, Value.render_mapOrigins]
  split
  · exact .value trivial
  · exact .issue ⟨rfl, member⟩

/-! ## Lists -/

theorem Grammar.isItem_eq_false {kind : Kind} (other : isItem kind = false) :
    kind = .openBracket ∨ kind = .closeBracket ∨ kind = .number := by
  cases kind <;> simp_all [isItem]

theorem listItems_word {opener behind token : Token} {budget : Nat} {rest : List Token}
    (kind : Grammar.isItem token.kind = true) (unsigned : Grammar.isSignOf token rest = false) :
    listItems none opener (budget + 1) ⟨behind, token :: rest⟩ = (do
      let (items, last) ← listItems none opener budget ⟨token, rest⟩
      return (.word token.lexeme :: items, last)) := by
  rw [listItems]
  dsimp only
  split
  · simp_all [Grammar.isItem]
  · simp_all [Grammar.isItem]
  · simp_all [Grammar.isItem]
  · cases rest with
    | nil => rfl
    | cons digits rest =>
        dsimp only [Grammar.isSignOf] at unsigned
        simp only [unsigned]
        rfl

theorem listItems_negative {opener behind token digits : Token} {budget : Nat} {rest : List Token}
    (sign : Grammar.isSignOf token (digits :: rest) = true) :
    listItems none opener (budget + 1) ⟨behind, token :: digits :: rest⟩ = (do
      let value ← numberOf digits
      let (items, last) ← listItems none opener budget ⟨digits, rest⟩
      return (.number (-value) :: items, last)) := by
  simp only [Grammar.isSignOf, Bool.and_eq_true, beq_iff_eq] at sign
  simp [listItems, sign]

/--
Items are read in parallel.  Where an item was read up to a place further on,
the items after it are read from there.
-/
theorem listItems_parallel (suits : relocation.Suits tokens) {opener : Token} {cursor : Cursor}
    {budget budget' : Nat} (opens : opener ∈ tokens) (place : cursor.row <:+ tokens)
    (enough : cursor.ahead.length < budget) (enough' : cursor.ahead.length < budget') :
    ReadValues relocation tokens cursor.ahead (listItems none opener budget cursor)
      (listItems none (opener.relocate relocation) budget' (cursor.relocate relocation)) := by
  induction budget generalizing opener cursor budget' with
  | zero => cases enough
  | succ budget hypothesis =>
      obtain _ | budget' := budget'
      · cases enough'
      obtain ⟨behind, _ | ⟨token, rest⟩⟩ := cursor
      · exact .issue ⟨rfl, opens⟩
      have here := Cursor.row_tail place
      have member : token ∈ tokens := here.subset (List.mem_cons_self ..)
      have room := Nat.lt_of_succ_lt_succ enough
      have room' := Nat.lt_of_succ_lt_succ enough'
      have item (first : Value) {last : Cursor} (further : last.row <:+ token :: rest) :
          ReadValues relocation tokens (token :: rest)
            (do
              let (items, final) ← listItems none opener budget last
              return (first :: items, final))
            (do
              let (items, final) ←
                listItems none (opener.relocate relocation) budget' (last.relocate relocation)
              return (first.mapOrigins relocation.origin :: items, final)) := by
        have shorter := Nat.le_of_lt_succ (Cursor.length_lt_of_row further)
        refine .cons first (hypothesis opens (further.trans here) ?_ ?_) (ahead_suffix further)
        · exact Nat.lt_of_le_of_lt shorter room
        · exact Nat.lt_of_le_of_lt shorter room'
      cases within : Grammar.isItem token.kind with
      | true =>
          have same := Grammar.isSignOf_relocate (suits.isChain here)
          cases sign : Grammar.isSignOf token rest with
          | false =>
              have within' : Grammar.isItem (token.relocate relocation).kind = true := within
              rw [sign] at same
              rw [Cursor.relocate_mk, List.map_cons, listItems_word within sign,
                listItems_word within' same]
              exact item (.word token.lexeme) (List.suffix_refl _)
          | true =>
              obtain _ | ⟨digits, rest⟩ := rest
              · cases sign
              have signs := sign
              simp only [Grammar.isSignOf, Bool.and_eq_true, beq_iff_eq] at signs
              obtain ⟨value, spelled, spelled'⟩ :=
                numberOf_eq_ok suits (here.subset (by simp)) signs.1.2
              rw [sign] at same
              rw [Cursor.relocate_mk, List.map_cons, List.map_cons, listItems_negative sign,
                listItems_negative same, spelled, spelled', ok_bind, ok_bind]
              exact item (.number (-value)) (List.suffix_cons token (digits :: rest))
      | false =>
          rcases Grammar.isItem_eq_false within with kind | kind | kind
          · simp only [listItems, Cursor.relocate_mk, List.map_cons, Token.kind_relocate, kind]
            have inside : Cursor.row ⟨token, rest⟩ <:+ tokens := here
            refine (hypothesis member inside room room').andThen ?_
            intro inner between further
            exact item (.list inner) (further.trans (List.suffix_cons token rest))
          · simp only [listItems, Cursor.relocate_mk, List.map_cons, Token.kind_relocate, kind]
            exact .given (List.suffix_refl _)
          · obtain ⟨value, spelled, spelled'⟩ := numberOf_eq_ok suits member kind
            simp only [listItems, Cursor.relocate_mk, List.map_cons, Token.kind_relocate, kind,
              spelled, spelled', ok_bind]
            exact item (.number value) (List.suffix_refl _)

/-! ## Expressions and inputs -/

/-- The readers of expressions work side by side as long as they need no more than a demand. -/
structure ReadSideBySide (relocation : Relocation) (tokens : List Token) (arities : Arities)
    (demand : Nat) : Prop where
  expression {cursor : Cursor} {budget budget' : Nat} (place : cursor.row <:+ tokens)
    (within : cursor.demand ≤ demand) (enough : cursor.demand ≤ budget)
    (enough' : cursor.demand ≤ budget') :
    ReadValue relocation tokens cursor.ahead (expression none arities budget cursor)
      (expression none arities budget' (cursor.relocate relocation))
  primary {cursor : Cursor} {budget budget' : Nat} (place : cursor.row <:+ tokens)
    (within : 4 * cursor.ahead.length + 1 ≤ demand) (enough : 4 * cursor.ahead.length + 1 ≤ budget)
    (enough' : 4 * cursor.ahead.length + 1 ≤ budget') :
    ReadValue relocation tokens cursor.ahead (primary none arities budget cursor)
      (primary none arities budget' (cursor.relocate relocation))
  each {token : Token} {cursor : Cursor} {budget budget' : Nat} (primitive : Primitive)
    (shapes : List Shape) (member : token ∈ tokens) (place : cursor.row <:+ tokens)
    (within : 4 * cursor.ahead.length + 3 ≤ demand) (enough : 4 * cursor.ahead.length + 3 ≤ budget)
    (enough' : 4 * cursor.ahead.length + 3 ≤ budget') :
    ReadValues relocation tokens cursor.row
      (reporterInputs none arities primitive token budget shapes cursor)
      (reporterInputs none arities primitive (token.relocate relocation) budget' shapes
        (cursor.relocate relocation))
  exact {token : Token} {cursor : Cursor} {budget budget' : Nat} (name : String)
    (arity missing : Nat) (member : token ∈ tokens) (place : cursor.row <:+ tokens)
    (within : 4 * cursor.ahead.length + 3 ≤ demand) (enough : 4 * cursor.ahead.length + 3 ≤ budget)
    (enough' : 4 * cursor.ahead.length + 3 ≤ budget') :
    ReadValues relocation tokens cursor.row
      (exactInputs none arities name arity token budget missing cursor)
      (exactInputs none arities name arity (token.relocate relocation) budget' missing
        (cursor.relocate relocation))
  following {cursor : Cursor} {budget budget' : Nat} (place : cursor.row <:+ tokens)
    (within : 4 * cursor.ahead.length + 3 ≤ demand) (enough : 4 * cursor.ahead.length + 3 ≤ budget)
    (enough' : 4 * cursor.ahead.length + 3 ≤ budget') :
    ReadValues relocation tokens cursor.row (followingInputs none arities budget cursor)
      (followingInputs none arities budget' (cursor.relocate relocation))

namespace ReadSideBySide

variable {demand : Nat} {cursor : Cursor} {budget budget' : Nat}

/-- Expressions are read in parallel, if what is inside of them is. -/
theorem expression_succ (suits : relocation.Suits tokens)
    (read : ReadSideBySide relocation tokens arities demand) (place : cursor.row <:+ tokens)
    (within : cursor.demand ≤ demand + 1) (enough : cursor.demand ≤ budget)
    (enough' : cursor.demand ≤ budget') :
    ReadValue relocation tokens cursor.ahead (Program.expression none arities budget cursor)
      (Program.expression none arities budget' (cursor.relocate relocation)) := by
  obtain _ | budget := budget
  · cases enough
  obtain _ | budget' := budget'
  · cases enough'
  rw [Program.expression, Program.expression]
  refine (read.primary place (Nat.le_of_succ_le_succ within) (Nat.le_of_succ_le_succ enough)
    (Nat.le_of_succ_le_succ enough')).andThen ?_
  rintro left ⟨behind, _ | ⟨token, rest⟩⟩ further
  · exact .given further
  have inside := further.trans ((List.suffix_cons _ _).trans place)
  have here := Cursor.row_tail inside
  have negative := Cursor.atNegative_relocate (suits.isChain inside)
  have shorter := Cursor.length_lt_of_row further
  simp only [Cursor.demand] at within enough enough'
  simp only [Cursor.relocate_mk, List.map_cons, Token.kind_relocate] at negative ⊢
  cases kind : token.kind with
  | operator glyph =>
      refine .choose (by rw [negative]) (.given further) ?_
      refine .choose (by rw [List.isEmpty_map])
        (.issue ⟨rfl, here.subset (List.mem_cons_self ..)⟩) ?_
      have second : Cursor.row ⟨token, rest⟩ <:+ tokens := here
      have demanded : Cursor.demand ⟨token, rest⟩ + 1 ≤ 4 * cursor.ahead.length + 2 := by
        simp only [Cursor.demand, List.length_cons] at shorter ⊢
        omega
      have right := read.expression second (Nat.le_of_succ_le_succ (demanded.trans within))
        (Nat.le_of_succ_le_succ (demanded.trans enough))
        (Nat.le_of_succ_le_succ (demanded.trans enough'))
      refine right.andThen ?_
      intro value last beyond
      rw [Cursor.next_relocate, ← Cursor.relocate_mk, Cursor.next_relocate]
      refine (checkOperand_parallel glyph left (Cursor.next_mem place)).bind fun _ _ _ => ?_
      refine (checkOperand_parallel glyph value (Cursor.next_mem second)).bind fun _ _ _ => ?_
      exact .given ((beyond.trans (List.suffix_cons token rest)).trans (ahead_suffix further))
  | _ => exact .given further

theorem call (read : ReadSideBySide relocation tokens arities demand) (name : String)
    {token : Token}
    (member : token ∈ tokens) (place : cursor.row <:+ tokens)
    (within : 4 * cursor.ahead.length + 3 ≤ demand) (enough : 4 * cursor.ahead.length + 4 ≤ budget)
    (enough' : 4 * cursor.ahead.length + 4 ≤ budget') :
    ReadValues relocation tokens cursor.row (callInputs none arities name token budget cursor)
      (callInputs none arities name (token.relocate relocation) budget'
        (cursor.relocate relocation)) := by
  obtain _ | budget := budget
  · cases enough
  obtain _ | budget' := budget'
  · cases enough'
  have room := Nat.le_of_succ_le_succ enough
  have room' := Nat.le_of_succ_le_succ enough'
  rw [callInputs, callInputs]
  cases arities.lookup name with
  | some arity => exact read.exact name arity arity member place within room room'
  | none => exact read.following place within room room'

/-- So are primaries. -/
theorem primary_succ (suits : relocation.Suits tokens)
    (read : ReadSideBySide relocation tokens arities demand) (place : cursor.row <:+ tokens)
    (within : 4 * cursor.ahead.length + 1 ≤ demand + 1)
    (enough : 4 * cursor.ahead.length + 1 ≤ budget)
    (enough' : 4 * cursor.ahead.length + 1 ≤ budget') :
    ReadValue relocation tokens cursor.ahead (Program.primary none arities budget cursor)
      (Program.primary none arities budget' (cursor.relocate relocation)) := by
  obtain _ | budget := budget
  · cases enough
  obtain _ | budget' := budget'
  · cases enough'
  obtain ⟨behind, _ | ⟨token, rest⟩⟩ := cursor
  · exact .issue ⟨rfl, place.subset (List.mem_singleton_self behind)⟩
  have here := Cursor.row_tail place
  have inside : Cursor.row ⟨token, rest⟩ <:+ tokens := here
  have member : token ∈ tokens := here.subset (List.mem_cons_self ..)
  simp only [List.length_cons] at within enough enough'
  simp only [Program.primary, Cursor.relocate_mk, List.map_cons, Token.kind_relocate]
  cases kind : token.kind with
  | number =>
      obtain ⟨value, spelled, spelled'⟩ := numberOf_eq_ok suits member kind
      simp only [spelled, spelled', ok_bind]
      exact .given (List.suffix_refl _)
  | word text => exact .given (List.suffix_refl _)
  | reference name => exact .given (List.suffix_refl _)
  | openBracket =>
      refine (listItems_parallel suits member inside (by dsimp only; omega)
        (by dsimp only; omega)).andThen ?_
      intro items last further
      exact .given (further.trans (List.suffix_cons token rest))
  | openParen =>
      have demanded : Cursor.demand ⟨token, rest⟩ = 4 * rest.length + 2 := rfl
      refine (read.expression inside (by omega) (by omega) (by omega)).andThen ?_
      rintro value ⟨before, _ | ⟨closer, others⟩⟩ further
      · exact .issue ⟨rfl, member⟩
      have beyond : Cursor.row ⟨closer, others⟩ <:+ token :: rest :=
        (Cursor.row_tail further).trans (List.suffix_cons token rest)
      exact .choose Iff.rfl (.given beyond) (.issue ⟨rfl, member⟩)
  | operator glyph =>
      refine .choose Iff.rfl ?_ (.issue ⟨rfl, member⟩)
      refine (read.primary inside (by dsimp only; omega) (by dsimp only; omega)
        (by dsimp only; omega)).andThen ?_
      intro operand last further
      rw [← Cursor.relocate_mk, Cursor.next_relocate, applySign_mapOrigins]
      refine (checkOperand_parallel glyph operand (Cursor.next_mem inside)).bind fun _ _ _ => ?_
      exact .given (further.trans (List.suffix_cons token rest))
  | command primitive =>
      dsimp only
      cases primitive.spec.form with
      | command slots => exact .issue ⟨rfl, member⟩
      | reporter shapes =>
          refine (read.each primitive shapes member inside (by dsimp only; omega)
            (by dsimp only; omega) (by dsimp only; omega)).andThen ?_
          intro inputs last further
          exact .given further
  | procedure name =>
      refine (read.call name member inside (by dsimp only; omega) (by dsimp only; omega)
        (by dsimp only; omega)).andThen ?_
      intro inputs last further
      exact .given further
  | closeBracket | closeParen | toWord | endWord => exact .issue ⟨rfl, member⟩

theorem each_succ (read : ReadSideBySide relocation tokens arities demand) {token : Token}
    (primitive : Primitive) (shapes : List Shape) (member : token ∈ tokens)
    (place : cursor.row <:+ tokens) (within : 4 * cursor.ahead.length + 3 ≤ demand + 1)
    (enough : 4 * cursor.ahead.length + 3 ≤ budget)
    (enough' : 4 * cursor.ahead.length + 3 ≤ budget') :
    ReadValues relocation tokens cursor.row
      (reporterInputs none arities primitive token budget shapes cursor)
      (reporterInputs none arities primitive (token.relocate relocation) budget' shapes
        (cursor.relocate relocation)) := by
  obtain _ | budget := budget
  · cases enough
  obtain _ | budget' := budget'
  · cases enough'
  cases shapes with
  | nil => exact .given (List.suffix_refl _)
  | cons shape shapes =>
      rw [reporterInputs, reporterInputs]
      refine .choose (by rw [Cursor.atEnd_relocate]) (.issue ⟨rfl, member⟩) ?_
      refine (read.expression place (Nat.le_of_succ_le_succ within) (Nat.le_of_succ_le_succ enough)
        (Nat.le_of_succ_le_succ enough')).andThen ?_
      intro value next further
      have shorter := Cursor.length_lt_of_row further
      have inside := further.trans ((List.suffix_cons _ _).trans place)
      rw [Cursor.next_relocate]
      refine (checkInput_parallel primitive.name shape value (Cursor.next_mem place)).bind
        fun _ _ _ => ?_
      exact .cons value (read.each primitive shapes member inside (by omega) (by omega) (by omega))
        (further.trans (List.suffix_cons _ _))

theorem exact_succ (read : ReadSideBySide relocation tokens arities demand) {token : Token}
    (name : String) (arity missing : Nat) (member : token ∈ tokens)
    (place : cursor.row <:+ tokens) (within : 4 * cursor.ahead.length + 3 ≤ demand + 1)
    (enough : 4 * cursor.ahead.length + 3 ≤ budget)
    (enough' : 4 * cursor.ahead.length + 3 ≤ budget') :
    ReadValues relocation tokens cursor.row
      (exactInputs none arities name arity token budget missing cursor)
      (exactInputs none arities name arity (token.relocate relocation) budget' missing
        (cursor.relocate relocation)) := by
  obtain _ | budget := budget
  · cases enough
  obtain _ | budget' := budget'
  · cases enough'
  cases missing with
  | zero => exact .given (List.suffix_refl _)
  | succ missing =>
      rw [exactInputs, exactInputs]
      refine .choose (by rw [Cursor.atEnd_relocate]) (.issue ⟨rfl, member⟩) ?_
      refine (read.expression place (Nat.le_of_succ_le_succ within) (Nat.le_of_succ_le_succ enough)
        (Nat.le_of_succ_le_succ enough')).andThen ?_
      intro value next further
      have shorter := Cursor.length_lt_of_row further
      have inside := further.trans ((List.suffix_cons _ _).trans place)
      exact .cons value (read.exact name arity missing member inside (by omega) (by omega)
        (by omega)) (further.trans (List.suffix_cons _ _))

/--
So are inputs as many as follow.  What stops the left reader stops the right
one, and both calls end there.
-/
theorem following_succ (read : ReadSideBySide relocation tokens arities demand)
    (place : cursor.row <:+ tokens) (within : 4 * cursor.ahead.length + 3 ≤ demand + 1)
    (enough : 4 * cursor.ahead.length + 3 ≤ budget)
    (enough' : 4 * cursor.ahead.length + 3 ≤ budget') :
    ReadValues relocation tokens cursor.row (followingInputs none arities budget cursor)
      (followingInputs none arities budget' (cursor.relocate relocation)) := by
  obtain _ | budget := budget
  · cases enough
  obtain _ | budget' := budget'
  · cases enough'
  rw [followingInputs, followingInputs]
  simp only [descend_none, recover_none]
  refine .choose (by rw [Cursor.atInput_relocate]) ?_ (.given (List.suffix_refl _))
  have first := read.expression place (Nat.le_of_succ_le_succ within)
    (Nat.le_of_succ_le_succ enough) (Nat.le_of_succ_le_succ enough')
  generalize Program.expression none arities budget cursor = left at first
  generalize Program.expression none arities budget' (cursor.relocate relocation) = right at first
  cases first with
  | issue about => exact .given (List.suffix_refl _)
  | @value left _ corresponds =>
      obtain ⟨further, rfl⟩ := corresponds
      have shorter := Cursor.length_lt_of_row further
      have inside := further.trans ((List.suffix_cons _ _).trans place)
      exact .cons left.1 (read.following inside (by omega) (by omega) (by omega))
        (further.trans (List.suffix_cons _ _))

end ReadSideBySide

/-- Readers of expressions work side by side, whatever they need. -/
theorem readSideBySide (suits : relocation.Suits tokens) (arities : Arities) (demand : Nat) :
    ReadSideBySide relocation tokens arities demand := by
  induction demand with
  | zero => constructor <;> intros <;> contradiction
  | succ demand hypothesis =>
      exact ⟨hypothesis.expression_succ suits, hypothesis.primary_succ suits, hypothesis.each_succ,
        hypothesis.exact_succ, hypothesis.following_succ⟩

end Program

end Logo
