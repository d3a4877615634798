import Logo.Proofs.Program.Progress
import Logo.Proofs.Token.Places

/-!
# Spacing and comments do not matter

Two texts with the same words are read alike, however the words are spaced and
whatever comments stand between them, unless spacing changes at a minus sign.
There a gap decides whether the sign belongs to what comes after it.

Since the tokens of a text do not overlap, there is a relocation that takes the
tokens of one text to those of the other.  It keeps the seams at minus signs, so
the readers work side by side.
-/

namespace Logo

/-! ## Relocations between rows of tokens -/

/-- Take each key to the value in the same place. -/
def carry (keys values : List Nat) (key : Nat) : Nat :=
  ((keys.zip values).lookup key).getD 0

theorem map_carry {keys values : List Nat} (distinct : keys.Nodup)
    (size : keys.length = values.length) : keys.map (carry keys values) = values := by
  induction keys generalizing values with
  | nil => exact (List.length_eq_zero_iff.mp size.symm).symm
  | cons key keys hypothesis =>
      obtain _ | ⟨value, values⟩ := values
      · cases size
      obtain ⟨fresh, distinct⟩ := List.nodup_cons.mp distinct
      have first : carry (key :: keys) (value :: values) key = value := by simp [carry]
      have others : ∀ other ∈ keys,
          carry (key :: keys) (value :: values) other = carry keys values other := by
        intro other member
        have apart : (other == key) = false :=
          beq_eq_false_iff_ne.mpr fun same => fresh (same ▸ member)
        simp [carry, List.lookup_cons, apart]
      rw [List.map_cons, first, List.map_congr_left others,
        hypothesis distinct (Nat.succ.inj size)]

/-- The relocation that takes tokens of one text to those in the same places of another one. -/
def Relocation.between (left right : List Token) : Relocation :=
  ⟨carry (left.map Token.start) (right.map Token.start),
    carry (left.map Token.stop) (right.map Token.stop)⟩

namespace Token

theorem eq_of_maps {left right : List Token} (kinds : left.map kind = right.map kind)
    (lexemes : left.map lexeme = right.map lexeme) (starts : left.map start = right.map start)
    (stops : left.map stop = right.map stop) : left = right := by
  induction left generalizing right with
  | nil => simpa using kinds
  | cons token left hypothesis =>
      obtain _ | ⟨other, right⟩ := right
      · cases kinds
      simp only [List.map_cons, List.cons.injEq] at kinds lexemes starts stops
      rw [hypothesis kinds.2 lexemes.2 starts.2 stops.2]
      obtain ⟨kind, lexeme, start, stop⟩ := token
      obtain ⟨rfl, -⟩ := kinds
      obtain ⟨rfl, -⟩ := lexemes
      obtain ⟨rfl, -⟩ := starts
      obtain ⟨rfl, -⟩ := stops
      rfl

theorem nodup_starts (text : String) : ((scan text).map start).Nodup := by
  refine List.pairwise_map.mpr ((pairwise_scan text).imp_of_mem ?_)
  intro left right leftMember _ before
  exact Nat.ne_of_lt ((start_lt_stop leftMember).trans_le before)

theorem nodup_stops (text : String) : ((scan text).map stop).Nodup := by
  refine List.pairwise_map.mpr ((pairwise_scan text).imp_of_mem ?_)
  intro left right _ rightMember before
  exact Nat.ne_of_lt (before.trans_lt (start_lt_stop rightMember))

/-- Texts with the same words differ by a relocation. -/
theorem scan_eq_relocate {left right : String}
    (same : (scan left).map lexeme = (scan right).map lexeme) :
    scan right = (scan left).map (relocate (.between (scan left) (scan right))) := by
  have size : (scan left).length = (scan right).length := by
    simpa using congrArg List.length same
  have kinds (text : String) : (scan text).map kind = ((scan text).map lexeme).map Kind.ofText := by
    rw [List.map_map]
    exact List.map_congr_left (Program.genuine_scan text)
  refine (eq_of_maps ?_ ?_ ?_ ?_).symm
  · simpa [kinds, List.map_map, Function.comp_def] using congrArg (List.map Kind.ofText) same
  · simpa [Function.comp_def] using same
  · have moved : _ = (scan right).map start := map_carry (nodup_starts left) (by simp [size])
    rw [List.map_map] at moved ⊢
    exact moved
  · have moved : _ = (scan right).map stop := map_carry (nodup_stops left) (by simp [size])
    rw [List.map_map] at moved ⊢
    exact moved

/-! ## Seams -/

/-- Whether neighbours touch, if one of them is a minus sign. -/
def seam? (left right : Token) : Option Bool :=
  if left.kind == .operator "-" || right.kind == .operator "-" then
    some (right.follows left)
  else
    none

/-- The seams between neighbours. -/
def seams : List Token → List (Option Bool)
  | left :: right :: rest => seam? left right :: seams (right :: rest)
  | _ => []

/-- Tokens that stand one after the other. -/
abbrev Ordered (tokens : List Token) : Prop :=
  tokens.Pairwise fun left right => left.stop ≤ right.start

/-- A relocation keeps a seam, if the neighbours touch before and after or at neither time. -/
theorem keepsSeam_of_seam? {relocation : Relocation} {left right : Token}
    (same : seam? (left.relocate relocation) (right.relocate relocation) = seam? left right)
    (before : left.stop ≤ right.start)
    (before' : (left.relocate relocation).stop ≤ (right.relocate relocation).start) :
    relocation.KeepsSeam left right := by
  simp only [seam?, kind_relocate] at same
  constructor
  · intro minus
    simpa [minus] using same
  · intro minus
    have touch : (right.relocate relocation).follows (left.relocate relocation) =
        right.follows left := by
      simpa [minus] using same
    rw [Bool.eq_iff_iff] at touch
    simp only [follows, beq_iff_eq] at touch
    omega

/-- Tokens that are in order on both sides, with the same seams, keep their seams. -/
theorem isChain_keepsSeam {relocation : Relocation} {tokens : List Token} (ordered : Ordered tokens)
    (ordered' : Ordered (tokens.map (relocate relocation)))
    (same : seams (tokens.map (relocate relocation)) = seams tokens) :
    tokens.IsChain relocation.KeepsSeam := by
  induction tokens with
  | nil => exact .nil
  | cons left tokens hypothesis =>
      obtain _ | ⟨right, rest⟩ := tokens
      · exact .singleton left
      simp only [List.map_cons, seams, List.cons.injEq] at same
      have before := List.rel_of_pairwise_cons ordered (List.mem_cons_self ..)
      have before' := List.rel_of_pairwise_cons ordered' (List.mem_cons_self ..)
      exact .cons_cons (keepsSeam_of_seam? same.1 before before')
        (hypothesis ordered.of_cons ordered'.of_cons same.2)

end Token

namespace Program

/-! ## Reading texts that differ in spacing -/

/-- Two issues are the same complaint about tokens in the same place among their tokens. -/
def SameIssue (tokens tokens' : List Token) (issue issue' : Issue) : Prop :=
  issue.complaint = issue'.complaint ∧
    ∃ index : Nat, tokens[index]? = some issue.token ∧ tokens'[index]? = some issue'.token

/-- An issue is the same elsewhere. -/
theorem sameIssue_relocate (relocation : Relocation) {tokens : List Token} {issue : Issue}
    (about : issue.IsAbout tokens) :
    SameIssue tokens (tokens.map (Token.relocate relocation)) issue
      (issue.relocate relocation) := by
  obtain ⟨index, found⟩ := List.getElem?_of_mem about.points
  refine ⟨rfl, index, found, ?_⟩
  rw [List.getElem?_map, found]
  rfl

/--
Spacing and comments do not matter, except next to a minus sign.  Two texts
with the same words, whose neighbours touch alike wherever one of them is a
minus sign, are read as the same commands, and what is wrong with one is wrong
with the other at the same token.
-/
theorem reading_ignores_spacing (left right : String)
    (words : (Token.scan left).map (Token.slice left) = (Token.scan right).map (Token.slice right))
    (touching : Token.seams (Token.scan left) = Token.seams (Token.scan right)) :
    withoutOrigins (ofText left).commands = withoutOrigins (ofText right).commands ∧
      List.Forall₂ (SameIssue (Token.scan left) (Token.scan right)) (ofText left).issues
        (ofText right).issues := by
  have lexemes : (Token.scan left).map Token.lexeme = (Token.scan right).map Token.lexeme := by
    rwa [List.map_congr_left fun _ => Token.slice_of_mem_scan,
      List.map_congr_left fun _ => Token.slice_of_mem_scan] at words
  have moved := Token.scan_eq_relocate lexemes
  have ordered := Token.pairwise_scan right
  rw [moved] at touching ordered
  have suits := (genuine_scan left).suits
    (Token.isChain_keepsSeam (Token.pairwise_scan left) ordered touching.symm)
  have enough : 4 * (Token.scan left).length + 2 ≤ budgetFor (Token.scan right) := by
    rw [← List.length_map (f := Token.lexeme), lexemes, List.length_map]
    exact Grammar.enough_budgetFor _
  obtain ⟨commands, issues, about⟩ := run_statements_relocate suits [] left enough
  rw [← moved] at commands issues
  refine ⟨?_, ?_⟩
  · have same : (ofText right).commands = _ := commands
    rw [same, withoutOrigins_mapOrigins]
    rfl
  · have same : (ofText right).issues = _ := issues
    rw [same]
    refine List.forall₂_map_right_iff.mpr (List.forall₂_same.mpr fun issue member => ?_)
    have parallel := sameIssue_relocate (.between (Token.scan left) (Token.scan right))
      (about issue member)
    rwa [← moved] at parallel

/-- The minus sign stands apart from the number before it in both texts, so both subtract
nothing. -/
theorem comment_and_lines_ignored :
    let left := "fd 10 -3 * 2 print [a -3] rt"
    let right := "fd 10;forward\n   -3*2\n\nprint[ a\t-3 ]rt ; right"
    (Token.scan left).map (Token.slice left) = (Token.scan right).map (Token.slice right) ∧
      Token.seams (Token.scan left) = Token.seams (Token.scan right) ∧
      Token.scan left ≠ Token.scan right ∧
      (ofText left).issues.map Issue.complaint =
        [.notCommand "-", .notCommand "3", .notCommand "*", .notCommand "2",
          .notEnoughInputs "RIGHT" 1] ∧
      withoutOrigins (ofText left).commands = withoutOrigins (ofText right).commands ∧
      List.Forall₂ (SameIssue (Token.scan left) (Token.scan right)) (ofText left).issues
        (ofText right).issues :=
  ⟨by decide +kernel, by decide +kernel, by decide +kernel, by decide +kernel,
    reading_ignores_spacing _ _ (by decide +kernel) (by decide +kernel)⟩

end Program

end Logo
