import Logo.Machine.Coercion
import Logo.Proofs.Number.Folding
import Logo.Proofs.Number.Order

/-!
# Equality of data is an equivalence

Data are compared by number where both sides spell a finite number, by their
letters without case where not, and lists item by item.  Whatever way is taken,
what is compared is one and the same thing on both sides: their sense.  So
equality holds of a value and itself, holds both ways, and is passed on.

A number out of range stops a comparison wherever it stands on the left, or on
the right of a number; against a word it is compared by its letters.
-/

namespace Logo.Value

/-- Data built from some numbers, words, truth values, and lists of data. -/
inductive DataOf (numbers : Float → Prop) : Value → Prop where
  | number {value : Float} (known : numbers value) : DataOf numbers (.number value)
  | word (text : String) : DataOf numbers (.word text)
  | truth (value : Bool) : DataOf numbers (.truth value)
  | list {items : List Value} (data : ∀ item ∈ items, DataOf numbers item) :
      DataOf numbers (.list items)

/-- Numbers, words, truth values, and lists of data. -/
abbrev IsDatum : Value → Prop :=
  DataOf fun _ => True

/-- Data without numbers out of range. -/
abbrev IsFinite : Value → Prop :=
  DataOf fun number => number.isFinite = true

/-- What a comparison looks at. -/
inductive Sense where
  | number (place : Int ×ₗ Int ×ₗ Int)
  | word (folded : String)
  | truth (value : Bool)
  | list (items : List Sense)
  | nothing

mutual

/-- What a comparison looks at in a value; of what is no datum, nothing. -/
def sense : Value → Sense
  | .number value =>
      if value.isFinite then
        .number (Number.place value)
      else
        .word (Text.fold (Number.plain value))
  | .word text =>
      match Number.finite? text with
      | some value => .number (Number.place value)
      | none => .word (Text.fold text)
  | .truth value => .truth value
  | .list items => .list (sensesOf items)
  | _ => .nothing

/-- What a comparison looks at in the items of a list. -/
def sensesOf : List Value → List Sense
  | [] => []
  | item :: rest => item.sense :: sensesOf rest

end

/-- Numbers and words are compared with each other, truth values and lists only with their like. -/
inductive Shape where
  | atom | truth | list | other

/-- The shape of a value. -/
def shape : Value → Shape
  | .number _ | .word _ => .atom
  | .truth _ => .truth
  | .list _ => .list
  | _ => .other

/-- The shape of the values that have a sense. -/
def Sense.shape : Sense → Shape
  | .number _ | .word _ => .atom
  | .truth _ => .truth
  | .list _ => .list
  | .nothing => .other

theorem shape_sense (value : Value) : value.sense.shape = value.shape := by
  cases value with
  | number number =>
      rw [sense]
      split <;> rfl
  | word text =>
      rw [sense]
      split <;> rfl
  | _ => rfl

/-- A list makes as many senses as it has items. -/
theorem length_sensesOf (items : List Value) : (sensesOf items).length = items.length := by
  induction items with
  | nil => rfl
  | cons item rest hypothesis => rw [sensesOf, List.length_cons, List.length_cons, hypothesis]

/-! ## Numbers and words -/

/-- The three kinds of numbers and words: spelling a finite number, spelling none, out of range. -/
inductive Reading (value : Value) : Prop where
  | numeric {number again : Float} {text : String} (finite : number.isFinite = true)
      (counts : value.asNumber "EQUALP" = .ok number) (spells : value.asWord "EQUALP" = .ok text)
      (reads : Number.finite? text = some again)
      (means : value.sense = .number (Number.place number))
  | verbal {text shown : String}
      (counts : value.asNumber "EQUALP" = .error (.rejectedInput "EQUALP" shown))
      (spells : value.asWord "EQUALP" = .ok text) (reads : Number.finite? text = none)
      (means : value.sense = .word (Text.fold text))
  | outOfRange {text : String} (counts : value.asNumber "EQUALP" = .error (.tooBig "EQUALP"))
      (spells : value.asWord "EQUALP" = .ok text) (means : value.sense = .word (Text.fold text))

theorem reading_number (number : Float) : Reading (.number number) := by
  cases finite : number.isFinite with
  | true =>
      obtain ⟨again, reads⟩ := Number.exists_finite?_plain finite
      refine .numeric finite ?_ rfl reads ?_
      · rw [asNumber, Value.finite, finite]
        rfl
      · rw [sense, finite]
        rfl
  | false =>
      refine .outOfRange ?_ rfl ?_
      · rw [asNumber, Value.finite, finite]
        rfl
      · rw [sense, finite]
        rfl

theorem reading_word (text : String) : Reading (.word text) := by
  cases reads : Number.finite? text with
  | some number =>
      have read := Option.filter_eq_some_iff.mp reads
      refine .numeric read.2 ?_ rfl reads ?_
      · rw [asNumber, read.1]
        exact if_pos read.2
      · rw [sense, reads]
  | none =>
      have rejected : asNumber "EQUALP" (.word text) =
          .error (.rejectedInput "EQUALP" (describe (.word text))) := by
        rw [asNumber]
        split
        · rename_i number read
          refine if_neg fun finite => ?_
          rw [Number.finite?, read, Option.filter_some, if_pos finite] at reads
          cases reads
        · rfl
      exact .verbal rejected rfl reads (by rw [sense, reads])

variable {left right : Value} {answer : Bool}

/-- Words are compared without regard to case. -/
theorem equalWords_of_asWord {text other : String} (spells : left.asWord "EQUALP" = .ok text)
    (spells' : right.asWord "EQUALP" = .ok other) :
    equalWords left right = .ok (Text.fold text == Text.fold other) := by
  rw [equalWords, spells, spells']
  rfl

/-- Words of which one spells a finite number and the other does not are different. -/
theorem fold_beq_eq_false {text other : String} {number : Float}
    (reads : Number.finite? text = some number) (none : Number.finite? other = none) :
    (Text.fold text == Text.fold other) = false := by
  rw [beq_eq_false_iff_ne]
  intro same
  rw [Number.finite?_eq_of_fold same, none] at reads
  cases reads

/-- Numbers and words are equal when their senses are. -/
theorem equalAtoms_iff (first : Reading left) (second : Reading right)
    (returns : equalAtoms left right = .ok answer) :
    answer = true ↔ left.sense = right.sense := by
  rw [equalAtoms] at returns
  cases first with
  | numeric finite counts spells reads means =>
      cases second with
      | numeric finite' counts' spells' reads' means' =>
          rw [counts, counts'] at returns
          cases returns
          rw [means, means', Number.beq_iff_place_eq, Sense.number.injEq]
          exact ⟨fun same => same.2.2, fun same =>
            ⟨Number.number_of_isFinite finite, Number.number_of_isFinite finite', same⟩⟩
      | verbal counts' spells' reads' means' =>
          rw [counts, counts'] at returns
          dsimp only at returns
          rw [equalWords_of_asWord spells spells', fold_beq_eq_false reads reads'] at returns
          cases returns
          simp [means, means']
      | outOfRange counts' =>
          rw [counts, counts'] at returns
          cases returns
  | verbal counts spells reads means =>
      rw [counts] at returns
      dsimp only at returns
      cases second with
      | numeric finite' counts' spells' reads' means' =>
          rw [equalWords_of_asWord spells spells', BEq.comm, fold_beq_eq_false reads' reads]
            at returns
          cases returns
          simp [means, means']
      | verbal counts' spells' reads' means' =>
          rw [equalWords_of_asWord spells spells'] at returns
          cases returns
          rw [means, means', beq_iff_eq, Sense.word.injEq]
      | outOfRange counts' spells' means' =>
          rw [equalWords_of_asWord spells spells'] at returns
          cases returns
          rw [means, means', beq_iff_eq, Sense.word.injEq]
  | outOfRange counts =>
      rw [counts] at returns
      cases returns

theorem isFinite_of_equalAtoms {number : Float}
    (returns : equalAtoms (.number number) right = .ok answer) : number.isFinite = true := by
  rw [← Bool.not_eq_false]
  intro infinite
  rw [equalAtoms, asNumber, Value.finite, infinite] at returns
  cases returns

/-- Numbers and words can be compared if no number out of range stands in the way. -/
theorem equalAtoms_returns (first : Reading left) (second : Reading right)
    (inRange : left.asNumber "EQUALP" ≠ .error (.tooBig "EQUALP"))
    (known : right.asNumber "EQUALP" ≠ .error (.tooBig "EQUALP") ∨ left.sense = right.sense) :
    ∃ answer, equalAtoms left right = .ok answer := by
  rw [equalAtoms]
  cases first with
  | numeric finite counts spells reads means =>
      cases second with
      | numeric finite' counts' =>
          rw [counts, counts']
          exact ⟨_, rfl⟩
      | verbal counts' spells' =>
          rw [counts, counts']
          exact ⟨_, equalWords_of_asWord spells spells'⟩
      | outOfRange counts' spells' means' =>
          rw [counts', means, means'] at known
          simp at known
  | verbal counts spells =>
      rw [counts]
      cases second with
      | numeric _ _ spells' => exact ⟨_, equalWords_of_asWord spells spells'⟩
      | verbal _ spells' => exact ⟨_, equalWords_of_asWord spells spells'⟩
      | outOfRange _ spells' => exact ⟨_, equalWords_of_asWord spells spells'⟩
  | outOfRange counts => exact absurd counts inRange

/-! ## Lists -/

/-- Items are compared up to the first that differ, and are equal when their senses are. -/
theorem equalItems_iff {lefts rights : List Value}
    (each : ∀ left ∈ lefts, ∀ right ∈ rights, ∀ answer, left.equal right = .ok answer →
      (answer = true ↔ left.sense = right.sense) ∧ (answer = true → left.IsFinite))
    (length : lefts.length = rights.length) (returns : equalItems lefts rights = .ok answer) :
    (answer = true ↔ sensesOf lefts = sensesOf rights) ∧
      (answer = true → ∀ left ∈ lefts, left.IsFinite) := by
  induction lefts generalizing rights with
  | nil =>
      rw [List.eq_nil_of_length_eq_zero length.symm] at returns ⊢
      cases returns
      simp
  | cons left lefts hypothesis =>
      cases rights with
      | nil => cases length
      | cons right rights =>
          rw [equalItems] at returns
          cases here : left.equal right with
          | error =>
              rw [here] at returns
              cases returns
          | ok same =>
              obtain ⟨heads, finite⟩ := each left (by simp) right (by simp) same here
              rw [here] at returns
              simp only [sensesOf, List.cons.injEq, ← heads]
              cases same with
              | false =>
                  cases returns
                  simp
              | true =>
                  obtain ⟨tails, others⟩ := hypothesis
                    (fun left member right member' => each left (List.mem_cons_of_mem _ member)
                      right (List.mem_cons_of_mem _ member'))
                    (Nat.succ.inj length) returns
                  refine ⟨by rw [tails]; simp, fun whole => ?_⟩
                  exact List.forall_mem_cons.mpr ⟨finite rfl, others whole⟩

/-- Values of different shapes are not equal. -/
theorem equal_of_shape_ne (datum : left.IsDatum) (datum' : right.IsDatum)
    (apart : left.shape ≠ right.shape) : left.equal right = .ok false := by
  cases datum <;> cases datum' <;> first
    | rfl
    | exact absurd rfl apart

/-- Numbers and words are compared as atoms. -/
theorem equal_of_atom (atom : left.shape = .atom) (atom' : right.shape = .atom) :
    left.equal right = equalAtoms left right := by
  cases left <;> cases atom <;> cases right <;> cases atom' <;> rw [equal]

theorem reading_of_atom (atom : left.shape = .atom) : Reading left := by
  cases left with
  | number number => exact reading_number number
  | word text => exact reading_word text
  | _ => cases atom

/-- Values of different shapes are not equal, and make different senses. -/
theorem equal_iff_of_shape_ne (datum : left.IsDatum) (datum' : right.IsDatum)
    (apart : left.shape ≠ right.shape) (returns : left.equal right = .ok answer) :
    (answer = true ↔ left.sense = right.sense) ∧ (answer = true → left.IsFinite) := by
  have differ : left.sense ≠ right.sense := by
    intro same
    rw [← shape_sense, ← shape_sense, same] at apart
    exact apart rfl
  rw [equal_of_shape_ne datum datum' apart] at returns
  cases returns
  simp [differ]

/-- An atom is equal to what makes the same sense. -/
theorem equal_iff_of_atom (atom : left.shape = .atom) (datum : left.IsDatum)
    (datum' : right.IsDatum) (returns : left.equal right = .ok answer) :
    (answer = true ↔ left.sense = right.sense) ∧ (answer = true → left.IsFinite) := by
  by_cases atom' : right.shape = .atom
  · rw [equal_of_atom atom atom'] at returns
    refine ⟨equalAtoms_iff (reading_of_atom atom) (reading_of_atom atom') returns, fun _ => ?_⟩
    cases datum with
    | number => exact .number (isFinite_of_equalAtoms returns)
    | word text => exact .word text
    | _ => cases atom
  · exact equal_iff_of_shape_ne datum datum' (fun same => atom' (same.symm.trans atom)) returns

/-- Data are equal when their senses are, and then the left ones are in range. -/
theorem equal_iff (datum : left.IsDatum) (datum' : right.IsDatum)
    (returns : left.equal right = .ok answer) :
    (answer = true ↔ left.sense = right.sense) ∧ (answer = true → left.IsFinite) := by
  induction datum generalizing right answer with
  | number known => exact equal_iff_of_atom rfl (.number known) datum' returns
  | word text => exact equal_iff_of_atom rfl (.word text) datum' returns
  | truth value =>
      by_cases alike : right.shape = .truth
      · cases datum' with
        | truth value' =>
            cases returns
            simp [same, sense, DataOf.truth]
        | _ => cases alike
      · exact equal_iff_of_shape_ne (.truth value) datum' (Ne.symm alike) returns
  | @list items data hypothesis =>
      by_cases alike : right.shape = .list
      · cases datum' with
        | @list items' data' =>
            rw [equal] at returns
            rw [sense, sense, Sense.list.injEq]
            split at returns
            · rename_i length
              obtain ⟨whole, finite⟩ := equalItems_iff
                (fun item member item' member' answer =>
                  hypothesis item member (data' item' member'))
                (beq_iff_eq.mp length) returns
              exact ⟨whole, fun same => .list (finite same)⟩
            · rename_i length
              cases returns
              have differ : sensesOf items ≠ sensesOf items' := by
                intro same
                apply length
                rw [beq_iff_eq, ← length_sensesOf items, same, length_sensesOf]
              simp [differ]
        | _ => cases alike
      · exact equal_iff_of_shape_ne (.list data) datum' (Ne.symm alike) returns

/-! ## Comparisons that return -/

theorem DataOf.isDatum {numbers : Float → Prop} (data : left.DataOf numbers) : left.IsDatum := by
  induction data with
  | number => exact .number trivial
  | word text => exact .word text
  | truth value => exact .truth value
  | list data hypothesis => exact .list hypothesis

theorem asNumber_ne_tooBig (finite : left.IsFinite) :
    left.asNumber "EQUALP" ≠ .error (.tooBig "EQUALP") := by
  cases finite with
  | number finite =>
      rw [asNumber, Value.finite, if_pos finite]
      exact nofun
  | word text =>
      rw [asNumber]
      split
      · split <;> exact nofun
      · exact nofun
  | truth => exact nofun
  | list => exact nofun

/-- A comparison of lists returns if the comparisons of their items do. -/
theorem equalItems_returns {lefts rights : List Value}
    (each : ∀ left ∈ lefts, ∀ right ∈ rights, right.IsFinite ∨ left.sense = right.sense →
      ∃ answer, left.equal right = .ok answer)
    (known : (∀ right ∈ rights, right.IsFinite) ∨ sensesOf lefts = sensesOf rights) :
    ∃ answer, equalItems lefts rights = .ok answer := by
  induction lefts generalizing rights with
  | nil => exact ⟨true, by rw [equalItems]; simp⟩
  | cons left lefts hypothesis =>
      cases rights with
      | nil => exact ⟨true, by rw [equalItems]; simp⟩
      | cons right rights =>
          have heads : right.IsFinite ∨ left.sense = right.sense :=
            known.imp (fun finite => finite right (List.mem_cons_self ..))
              fun same => (List.cons.inj same).1
          have tails : (∀ right ∈ rights, right.IsFinite) ∨ sensesOf lefts = sensesOf rights :=
            known.imp (fun finite other member => finite other (List.mem_cons_of_mem _ member))
              fun same => (List.cons.inj same).2
          obtain ⟨same, here⟩ :=
            each left (List.mem_cons_self ..) right (List.mem_cons_self ..) heads
          rw [equalItems, here]
          cases same with
          | false => exact ⟨false, rfl⟩
          | true =>
              refine hypothesis (fun left member right member' => ?_) tails
              exact each left (List.mem_cons_of_mem _ member) right
                (List.mem_cons_of_mem _ member')

/-- A comparison with a finite atom returns. -/
theorem equal_returns_of_atom (atom : left.shape = .atom) (finite : left.IsFinite)
    (datum' : right.IsDatum) (known : right.IsFinite ∨ left.sense = right.sense) :
    ∃ answer, left.equal right = .ok answer := by
  by_cases atom' : right.shape = .atom
  · rw [equal_of_atom atom atom']
    exact equalAtoms_returns (reading_of_atom atom) (reading_of_atom atom')
      (asNumber_ne_tooBig finite) (known.imp_left asNumber_ne_tooBig)
  · exact ⟨false, equal_of_shape_ne finite.isDatum datum' fun same => atom' (same.symm.trans atom)⟩

/-- Data in range can be compared with data in range, and with whatever has the same sense. -/
theorem equal_returns (finite : left.IsFinite) (datum' : right.IsDatum)
    (known : right.IsFinite ∨ left.sense = right.sense) :
    ∃ answer, left.equal right = .ok answer := by
  induction finite generalizing right with
  | number finite => exact equal_returns_of_atom rfl (.number finite) datum' known
  | word text => exact equal_returns_of_atom rfl (.word text) datum' known
  | truth value => cases datum' <;> exact ⟨_, rfl⟩
  | @list items data hypothesis =>
      by_cases alike : right.shape = .list
      · cases datum' with
        | @list items' data' =>
            rw [equal]
            split
            · refine equalItems_returns (fun item member item' member' =>
                hypothesis item member (data' item' member')) (known.imp ?_ ?_)
              · intro finite
                cases finite with
                | list finite => exact finite
              · intro same
                rw [sense, sense] at same
                exact Sense.list.inj same
            · exact ⟨false, rfl⟩
        | _ => cases alike
      · exact ⟨false, equal_of_shape_ne (DataOf.list data).isDatum datum' (Ne.symm alike)⟩

/-- Data are found equal when they have the same sense and those on the left are in range. -/
theorem equal_eq_true_iff (datum : left.IsDatum) (datum' : right.IsDatum) :
    left.equal right = .ok true ↔ left.IsFinite ∧ left.sense = right.sense := by
  constructor
  · intro returns
    obtain ⟨same, finite⟩ := equal_iff datum datum' returns
    exact ⟨finite rfl, same.mp rfl⟩
  · rintro ⟨finite, same⟩
    obtain ⟨answer, returns⟩ := equal_returns finite datum' (.inr same)
    rwa [← (equal_iff datum datum' returns).1.mpr same]

/-! ## An equivalence -/

/--
Equality of data, wherever it gives an answer, is an equivalence: a value is
equal to itself, it makes no difference which of two values is on the left, and
of three values the first is equal to the third if both are equal to the second.
It does give an answer for data without numbers out of range, however deep the
lists.
-/
theorem equal_is_equivalence {first second third : Value} (datum : first.IsDatum)
    (datum' : second.IsDatum) (datum'' : third.IsDatum) :
    (∀ answer, first.equal first = .ok answer → answer = true) ∧
      (∀ answer answer', first.equal second = .ok answer → second.equal first = .ok answer' →
        answer = answer') ∧
      (first.equal second = .ok true → second.equal third = .ok true →
        first.equal third = .ok true) ∧
      (first.IsFinite → second.IsFinite → ∃ answer, first.equal second = .ok answer) := by
  refine ⟨?_, ?_, ?_, ?_⟩
  · intro answer returns
    exact (equal_iff datum datum returns).1.mpr rfl
  · intro answer answer' returns returns'
    rw [Bool.eq_iff_iff, (equal_iff datum datum' returns).1, (equal_iff datum' datum returns').1]
    exact eq_comm
  · intro returns returns'
    rw [equal_eq_true_iff datum datum'] at returns
    rw [equal_eq_true_iff datum' datum''] at returns'
    exact (equal_eq_true_iff datum datum'').mpr ⟨returns.1, returns.2.trans returns'.2⟩
  · intro finite finite'
    exact equal_returns finite datum' (.inl finite')

/-- A number, words that spell it, and words for infinity next to infinity itself. -/
theorem equal_across_spellings :
    let first : Value := .list [.number 5, .list [.word "inf"]]
    let second : Value := .list [.word "5.0", .list [.word "Inf"]]
    let third : Value := .list [.word "5E0", .list [.number (1 / 0)]]
    first.equal second = .ok true ∧ second.equal third = .ok true ∧
      first.equal third = .ok true := by
  intro first second third
  have fine : first.equal second = .ok true := by rfl
  have fine' : second.equal third = .ok true := by rfl
  have datum : first.IsDatum := .list (by simp [DataOf.number, DataOf.list, DataOf.word])
  have datum' : second.IsDatum := .list (by simp [DataOf.list, DataOf.word])
  have datum'' : third.IsDatum := .list (by simp [DataOf.number, DataOf.list, DataOf.word])
  exact ⟨fine, fine', (equal_is_equivalence datum datum' datum'').2.2.1 fine fine'⟩

end Logo.Value
