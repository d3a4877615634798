import Logo.Proofs.Agreement
import Logo.Proofs.Conduct
import Logo.Proofs.Machine.Expected

/-!
# Comparing machines

Many statements about programs are of one kind: two runs do the same, or one
run keeps to a rule, and this is so of a tree because it is so of its parts.
A comparison is a relation between actions of two machines that respects how
actions are put together.  That a run keeps to a rule is a comparison as well,
one that does not look at the right side.

This module goes through the primitives once, for all comparisons.  A
primitive compares with itself if its inputs compare in the way that its slots
ask for, and if the little that it does to the machine compares.  Expressions
and statements may be compared in different ways, as long as what holds of
expressions is enough for statements.
-/

namespace Logo

variable {σ τ : Type}

/-- A way to compare actions that respects how they are put together. -/
structure Comparison (σ τ : Type) where
  /-- Two actions compare, and the values that they give are related. -/
  relates : {α β : Type} → (α → β → Prop) → Machine σ α → Machine τ β → Prop
  value : ∀ {α β : Type} {values : α → β → Prop} {left : α} {right : β}, values left right →
    relates values (pure left) (pure right)
  sequence : ∀ {α β γ δ : Type} {values : α → β → Prop} {others : γ → δ → Prop}
    {left : Machine σ α} {right : Machine τ β} {next : α → Machine σ γ} {next' : β → Machine τ δ},
    relates values left right →
    (∀ value value', values value value' → relates others (next value) (next' value')) →
    relates others (left >>= next) (right >>= next')
  error : ∀ {α β : Type} {values : α → β → Prop} {error : Error}, error.IsCommon →
    relates values (Machine.fail error) (Machine.fail error)
  limit : ∀ {α β : Type} {values : α → β → Prop} {fault : Fault}, fault.IsLimit →
    relates values (Machine.crash fault) (Machine.crash fault)

/-- Whether a deed takes the turtle ahead or back. -/
def Deed.isWalk : Deed → Bool
  | .forward _ => true
  | .back _ => true
  | _ => false

namespace Comparison

/-- Two programs that agree are compared by what they give and leave behind. -/
def ofAccord (accord : Accord Exit (State σ) (State τ)) : Comparison σ τ where
  relates := Agrees accord
  value := .value
  sequence := .sequence
  error _ := .exit _
  limit _ := .exit _

/-- A conduct that has nothing to say about common errors and about limits. -/
structure Tolerates (conduct : Conduct Exit (State σ)) : Prop where
  error : ∀ {error : Error} {state : State σ}, error.IsCommon → conduct.holds state →
    conduct.leaves (.mishap (.error error)) state
  limit : ∀ {fault : Fault} {state : State σ}, fault.IsLimit → conduct.holds state →
    conduct.leaves (.mishap (.fault fault)) state

/-- Keeping to a conduct, whatever stands on the right. -/
def ofConduct {conduct : Conduct Exit (State σ)} (tolerates : Tolerates conduct) :
    Comparison σ τ where
  relates values left _ := conduct.Gives (fun value => ∃ other, values value other) left
  value related := .value ⟨_, related⟩
  sequence gives others := gives.sequence fun value ⟨other, related⟩ => others value other related
  error common := .exit fun _ holds => tolerates.error common holds
  limit limit := .exit fun _ holds => tolerates.limit limit holds

/-- What keeps to the conduct gives the same as itself. -/
theorem related {conduct : Conduct Exit (State σ)} {tolerates : Tolerates conduct} {α : Type}
    {left : Machine σ α} {right : Machine τ α} (keeps : conduct.Keeps left) :
    (ofConduct tolerates).relates Eq left right :=
  keeps.imp fun value _ => ⟨value, rfl⟩

/-- Anything compares with anything. -/
def indifferent : Comparison σ τ where
  relates _ _ _ := True
  value _ := trivial
  sequence _ _ := trivial
  error _ := trivial
  limit _ := trivial

/-- What compares in one way compares in the other. -/
def Refines (inner outer : Comparison σ τ) : Prop :=
  ∀ {α β : Type} {values : α → β → Prop} {left : Machine σ α} {right : Machine τ β},
    inner.relates values left right → outer.relates values left right

variable {comparison inner outer : Comparison σ τ} {α β γ δ : Type} {values : α → β → Prop}
  {others : γ → δ → Prop}

/-- Sequencing, when the first parts give the same value. -/
theorem relates.andThen {left : Machine σ α} {right : Machine τ α} {next : α → Machine σ γ}
    {next' : α → Machine τ δ} (first : comparison.relates Eq left right)
    (rest : ∀ value, comparison.relates others (next value) (next' value)) :
    comparison.relates others (left >>= next) (right >>= next') := by
  apply comparison.sequence first
  rintro value _ rfl
  exact rest value

/-- What is known of the values may be weakened. -/
theorem relates.imp {weaker : α → β → Prop} {left : Machine σ α} {right : Machine τ β}
    (first : comparison.relates values left right)
    (follows : ∀ value value', values value value' → weaker value value') :
    comparison.relates weaker left right := by
  have compared := comparison.sequence first fun value value' related =>
    comparison.value (follows value value' related)
  simpa only [bind_pure] using compared

/-- What happens only beside the left action does not matter if it compares with nothing. -/
theorem relates.beside {aside : Machine σ Unit} {left : Machine σ γ} {right : Machine τ δ}
    (nothing : comparison.relates Eq aside (pure ()))
    (rest : comparison.relates others left right) :
    comparison.relates others (do aside; left) right := by
  have compared : comparison.relates others (do aside; left) (pure () >>= fun _ => right) :=
    nothing.andThen fun _ => rest
  rwa [pure_bind] at compared

/-- Report what a function makes of a value. -/
theorem relates.reported {left : Machine σ α} {right : Machine τ α}
    (first : comparison.relates Eq left right) (report : α → β) :
    comparison.relates Eq (do return report (← left)) (do return report (← right)) :=
  first.andThen fun _ => comparison.value rfl

/-- Choose between two actions by a condition. -/
theorem relates.choose {condition : Machine σ Bool} {condition' : Machine τ Bool}
    {yes no : Machine σ γ} {yes' no' : Machine τ δ}
    (conditions : comparison.relates Eq condition condition')
    (agree : comparison.relates others yes yes') (disagree : comparison.relates others no no') :
    comparison.relates others
      (do if ← condition then yes else no) (do if ← condition' then yes' else no') := by
  apply conditions.andThen
  intro holds
  cases holds with
  | true => exact agree
  | false => exact disagree

/-- Writing the same value with the same room. -/
theorem write (room : Nat) (style : Style) (value : Value) :
    comparison.relates Eq (Input.write room style value) (Input.write room style value) := by
  unfold Input.write
  split
  · exact comparison.value rfl
  · exact comparison.limit trivial

theorem orFail {attempt : Except Error α} (expected : FailsAsExpected attempt) :
    comparison.relates Eq (Machine.orFail attempt) (Machine.orFail attempt) := by
  cases attempt with
  | ok result => exact comparison.value rfl
  | error error => exact comparison.error (expected error rfl)

/-! ## Inputs -/

section

variable {left : Input σ} {right : Input τ}

/-- Resolve an input and coerce its value. -/
theorem relates.coerced (first : comparison.relates Eq left.value right.value)
    {coercion : Value → Except Error α} (expected : ∀ value, FailsAsExpected (coercion value)) :
    comparison.relates Eq
      (do Machine.orFail (coercion (← left.value)))
      (do Machine.orFail (coercion (← right.value))) :=
  first.andThen fun value => orFail (expected value)

theorem relates.number (first : comparison.relates Eq left.value right.value) (who : String) :
    comparison.relates Eq (left.number who) (right.number who) :=
  first.coerced (Value.asNumber_expected who)

theorem relates.integer (first : comparison.relates Eq left.value right.value) (who : String) :
    comparison.relates Eq (left.integer who) (right.integer who) :=
  first.coerced (Value.asInteger_expected who)

theorem relates.word (first : comparison.relates Eq left.value right.value) (who : String) :
    comparison.relates Eq (left.word who) (right.word who) :=
  first.coerced (Value.asWord_expected who)

theorem relates.list (first : comparison.relates Eq left.value right.value) (who : String) :
    comparison.relates Eq (left.list who) (right.list who) :=
  first.coerced (Value.asList_expected who)

theorem relates.truth (first : comparison.relates Eq left.value right.value) (who : String) :
    comparison.relates Eq (left.truth who) (right.truth who) :=
  first.coerced (Value.asTruth_expected who)

/-- Items in a row are the same on both sides, and at least one. -/
theorem relates.items (first : comparison.relates Eq left.value right.value) (who : String) :
    comparison.relates (fun row row' => row = row' ∧ ∀ items, row = .inl items → items ≠ [])
      (left.items who) (right.items who) := by
  apply first.andThen
  intro value
  split
  · exact comparison.error trivial
  · refine comparison.value ⟨rfl, fun items same => ?_⟩
    cases same
    exact List.cons_ne_nil _ _
  · apply (orFail (Value.asWord_expected who _)).andThen
    intro text
    split
    · exact comparison.error trivial
    · refine comparison.value ⟨rfl, fun items same => ?_⟩
      cases same

end

end Comparison

/-- Two inputs compare in the way that a slot asks for. -/
def Input.Matches (inner outer : Comparison σ τ) : Slot → Input σ → Input τ → Prop
  | .datum _, left, right => inner.relates Eq left.value right.value
  | .block, left, right =>
      ∀ who, outer.relates (outer.relates Eq) (left.block who) (right.block who)

/-- A block that matches runs alike. -/
theorem Input.Matches.run {inner outer : Comparison σ τ} {left : Input σ} {right : Input τ}
    (matched : Input.Matches inner outer .block left right) (who : String) :
    outer.relates Eq (left.run who) (right.run who) :=
  outer.sequence (matched who) fun _ _ related => related

/-- Inputs compare one by one, each in the way that its slot asks for. -/
inductive InputsMatch (accepts : Slot → Input σ → Input τ → Prop) :
    List Slot → List (Input σ) → List (Input τ) → Prop
  | nil : InputsMatch accepts [] [] []
  | cons {slot : Slot} {slots : List Slot} {left : Input σ} {right : Input τ}
      {lefts : List (Input σ)} {rights : List (Input τ)} (first : accepts slot left right)
      (rest : InputsMatch accepts slots lefts rights) :
      InputsMatch accepts (slot :: slots) (left :: lefts) (right :: rights)

/-- Both report the same value. -/
inductive SameReport : Option Value → Option Value → Prop
  | value (value : Value) : SameReport (some value) (some value)

theorem SameReport.eq {left right : Option Value} (same : SameReport left right) :
    left = right := by
  cases same
  rfl

/-! ## What primitives do to the machine -/

/-- What it takes that the reporters among some primitives compare. -/
structure Comparison.Informs (comparison : Comparison σ τ) (allowed : Primitive → Prop) :
    Prop where
  turtle : comparison.relates Eq Machine.turtle Machine.turtle
  draw : ∀ limit, comparison.relates Eq (Machine.draw limit) (Machine.draw limit)
  round : allowed .repeatCount → comparison.relates Eq Machine.round Machine.round
  lookup : allowed .thing → ∀ name,
    comparison.relates Eq (Machine.lookup name) (Machine.lookup name)

/-- What it takes that the commands among some primitives compare, with some room for each. -/
structure Comparison.Serves [Platform] [Stage σ] [Stage τ] (comparison : Comparison σ τ)
    (room room' : Nat) (allowed : Primitive → Prop) : Prop where
  tell : ∀ deed : Deed, (deed.isWalk = true → allowed .forward ∨ allowed .back) →
    comparison.relates Eq (Machine.tell room deed) (Machine.tell room' deed)
  write : ∀ (style : Style) (value : Value),
    comparison.relates Eq (Input.write room style value) (Input.write room' style value)
  color : allowed .setPenColor ∨ allowed .setBackground → ∀ (who : String) (value : Value),
    comparison.relates Eq (Machine.orMishap (value.asColor who))
      (Machine.orMishap (value.asColor who))
  print : ∀ text, comparison.relates Eq (Machine.print text) (Machine.print text)
  setRound : allowed .repeatBlock → ∀ round,
    comparison.relates Eq (Machine.setRound round) (Machine.setRound round)
  keepingRound : ∀ {action : Machine σ Unit} {action' : Machine τ Unit}, allowed .repeatBlock →
    comparison.relates Eq action action' →
      comparison.relates Eq (Machine.keepingRound action) (Machine.keepingRound action')
  assign : allowed .make → ∀ name value,
    comparison.relates Eq (Machine.assign name value) (Machine.assign name value)
  stop : allowed .stop → comparison.relates Eq
    (Machine.leave .stop : Machine σ (Option Value)) (Machine.leave .stop)
  output : allowed .output → ∀ value, comparison.relates Eq
    (Machine.leave (.output value) : Machine σ (Option Value)) (Machine.leave (.output value))
  bye : allowed .bye → comparison.relates Eq
    (Machine.leave .bye : Machine σ (Option Value)) (Machine.leave .bye)

namespace Action

/-- Two actions for inputs in given slots, and how they compare on inputs that are accepted. -/
inductive Compare (accepts : Slot → Input σ → Input τ → Prop)
    (fine : Machine σ (Option Value) → Machine τ (Option Value) → Prop) :
    List Slot → Action σ → Action τ → Prop
  | none {act : Machine σ (Option Value)} {act' : Machine τ (Option Value)}
      (does : fine act act') : Compare accepts fine [] (.none act) (.none act')
  | one {slot : Slot} {act : Input σ → Machine σ (Option Value)}
      {act' : Input τ → Machine τ (Option Value)}
      (does : ∀ {first first'}, accepts slot first first' → fine (act first) (act' first')) :
      Compare accepts fine [slot] (.one act) (.one act')
  | two {slot slot' : Slot} {act : Input σ → Input σ → Machine σ (Option Value)}
      {act' : Input τ → Input τ → Machine τ (Option Value)}
      (does : ∀ {first first' second second'}, accepts slot first first' →
        accepts slot' second second' → fine (act first second) (act' first' second')) :
      Compare accepts fine [slot, slot'] (.two act) (.two act')
  | three {slot slot' slot'' : Slot}
      {act : Input σ → Input σ → Input σ → Machine σ (Option Value)}
      {act' : Input τ → Input τ → Input τ → Machine τ (Option Value)}
      (does : ∀ {first first' second second' third third'}, accepts slot first first' →
        accepts slot' second second' → accepts slot'' third third' →
        fine (act first second third) (act' first' second' third')) :
      Compare accepts fine [slot, slot', slot''] (.three act) (.three act')

theorem Compare.imp {accepts : Slot → Input σ → Input τ → Prop}
    {fine weaker : Machine σ (Option Value) → Machine τ (Option Value) → Prop}
    {slots : List Slot} {action : Action σ} {action' : Action τ}
    (compare : Compare accepts fine slots action action')
    (follows : ∀ {left right}, fine left right → weaker left right) :
    Compare accepts weaker slots action action' := by
  cases compare with
  | none does => exact .none (follows does)
  | one does => exact .one fun first => follows (does first)
  | two does => exact .two fun first second => follows (does first second)
  | three does => exact .three fun first second third => follows (does first second third)

/-- A primitive compares with itself on inputs that are accepted. -/
theorem Compare.perform [Platform] [Stage σ] [Stage τ] {room room' : Nat}
    {accepts : Slot → Input σ → Input τ → Prop}
    {fine : Machine σ (Option Value) → Machine τ (Option Value) → Prop} {primitive : Primitive}
    {slots : List Slot} {inputs : List (Input σ)} {inputs' : List (Input τ)}
    (compare : Compare accepts fine slots (ofPrimitive room primitive)
      (ofPrimitive room' primitive))
    (accepted : InputsMatch accepts slots inputs inputs') :
    fine (Action.perform room primitive inputs) (Action.perform room' primitive inputs') := by
  unfold Action.perform
  generalize (ofPrimitive room primitive : Action σ) = action at compare
  generalize (ofPrimitive room' primitive : Action τ) = action' at compare
  cases compare with
  | none does =>
      obtain _ | _ := accepted
      exact does
  | one does =>
      obtain _ | ⟨first, _ | _⟩ := accepted
      exact does first
  | two does =>
      obtain _ | ⟨first, _ | ⟨second, _ | _⟩⟩ := accepted
      exact does first second
  | three does =>
      obtain _ | ⟨first, _ | ⟨second, _ | ⟨third, _ | _⟩⟩⟩ := accepted
      exact does first second third

open Comparison

variable {comparison inner outer : Comparison σ τ} {allowed : Primitive → Prop}
  {shape shape' : Shape}

/-- What gives no value is compared by what it does. -/
theorem quietly_compares {act : Machine σ Unit} {act' : Machine τ Unit}
    (compares : comparison.relates Eq act act') :
    comparison.relates Eq (quietly act) (quietly act') :=
  compares.andThen fun _ => comparison.value rfl

theorem reporting_compares {act : Machine σ Value} {act' : Machine τ Value}
    (compares : comparison.relates Eq act act') :
    comparison.relates SameReport (reporting act) (reporting act') :=
  compares.andThen fun value => comparison.value (.value value)

/-- A loop goes around as often on both sides, if tests and bodies compare. -/
theorem loopWhile_compares {test : Machine σ Bool} {test' : Machine τ Bool}
    {body : Machine σ (Option Value)} {body' : Machine τ (Option Value)}
    (tests : comparison.relates Eq test test') (bodies : comparison.relates Eq body body')
    (rounds : Nat) :
    comparison.relates Eq (loopWhile test body rounds) (loopWhile test' body' rounds) := by
  induction rounds with
  | zero => exact comparison.limit trivial
  | succ rounds induction =>
      exact tests.choose (bodies.andThen fun _ => induction) (comparison.value rfl)

theorem loopUntil_compares {test : Machine σ Bool} {test' : Machine τ Bool}
    {body : Machine σ (Option Value)} {body' : Machine τ (Option Value)}
    (tests : comparison.relates Eq test test') (bodies : comparison.relates Eq body body')
    (rounds : Nat) :
    comparison.relates Eq (loopUntil test body rounds) (loopUntil test' body' rounds) := by
  induction rounds with
  | zero => exact comparison.limit trivial
  | succ rounds induction =>
      apply bodies.andThen
      intro _
      exact tests.choose (comparison.value rfl) induction

/-! ### Reporters -/

/-- Reporters for inputs in given slots report the same value. -/
abbrev Report (inner outer : Comparison σ τ) : List Slot → Action σ → Action τ → Prop :=
  Compare (Input.Matches inner outer) (inner.relates SameReport)

theorem result_compares (who : String) (number : Float) :
    comparison.relates Eq (result who number) (result who number) :=
  (orFail (Value.finite_expected who number)).reported _

/-- A query of the turtle gives the same on both sides. -/
theorem query_compare (informs : inner.Informs allowed) (report : Turtle → Value) :
    Report inner outer [] (query report) (query report) :=
  .none (reporting_compares (informs.turtle.reported report))

theorem unary_compare (who : String) {operation : Float → Except Error Float}
    (expected : ∀ number, FailsAsExpected (operation number)) :
    Report inner outer [.datum shape] (unary who operation) (unary who operation) := by
  refine .one fun first => reporting_compares ?_
  apply (relates.number first who).andThen
  intro number
  exact (orFail (expected number)).andThen fun _ => result_compares who _

theorem binary_compare (who : String) {operation : Float → Float → Except Error Float}
    (expected : ∀ left right, FailsAsExpected (operation left right)) :
    Report inner outer [.datum shape, .datum shape'] (binary who operation)
      (binary who operation) := by
  refine .two fun first second => reporting_compares ?_
  apply (relates.number first who).andThen
  intro left
  apply (relates.number second who).andThen
  intro right
  exact (orFail (expected left right)).andThen fun _ => result_compares who _

theorem test_compare (property : Value → Bool) :
    Report inner outer [.datum shape] (test property) (test property) :=
  .one fun first => reporting_compares (relates.reported first _)

theorem select_compare (who : String) {ofList : List Value → Option Value}
    (ofWord : String → Char) (found : ∀ items, items ≠ [] → (ofList items).isSome) :
    Report inner outer [.datum shape] (select who ofList ofWord) (select who ofList ofWord) := by
  refine .one fun first => ?_
  apply inner.sequence (relates.items first who)
  rintro row _ ⟨rfl, some⟩
  cases row with
  | inl items =>
      obtain ⟨value, taken⟩ := Option.isSome_iff_exists.mp (found items (some items rfl))
      simp only [taken]
      exact inner.value (.value value)
  | inr text => exact inner.value (.value _)

theorem shorten_compare (who : String) (ofList : List Value → List Value)
    (ofWord : String → String) :
    Report inner outer [.datum shape] (shorten who ofList ofWord)
      (shorten who ofList ofWord) := by
  refine .one fun first => reporting_compares ?_
  apply inner.sequence (relates.items first who)
  rintro row _ ⟨rfl, -⟩
  cases row with
  | inl items => exact inner.value rfl
  | inr text => exact inner.value rfl

/-- An item is found on both sides or on neither. -/
theorem itemAt_compares {index : Int} {count : Nat} {item : Nat → Option Value}
    (found : ∀ place, place < count → (item place).isSome) :
    comparison.relates SameReport (itemAt index count item) (itemAt index count item) := by
  unfold itemAt
  split
  · obtain ⟨value, taken⟩ :=
      Option.isSome_iff_exists.mp (found (index - 1).toNat (by omega))
    rw [taken]
    exact comparison.value (.value value)
  · exact comparison.error trivial

variable [Platform] [Stage σ] [Stage τ] {room room' : Nat}

theorem repeatCount_compare (informs : inner.Informs allowed) (permitted : allowed .repeatCount) :
    Report inner outer [] (ofPrimitive room .repeatCount) (ofPrimitive room' .repeatCount) := by
  refine .none (reporting_compares ?_)
  apply (informs.round permitted).andThen
  intro round
  cases round with
  | none => exact inner.value rfl
  | some round => exact inner.value rfl

theorem random_compare (informs : inner.Informs allowed) :
    Report inner outer [.datum shape] (ofPrimitive room .random) (ofPrimitive room' .random) := by
  refine .one fun first => reporting_compares ?_
  apply (relates.number first _).andThen
  intro number
  apply (orFail (onlyIf_expected _ _ _ _)).andThen
  intro _
  apply (informs.draw _).andThen
  intro drawn
  exact result_compares _ _

theorem equal_compare :
    Report inner outer [.datum shape, .datum shape'] (ofPrimitive room .equal)
      (ofPrimitive room' .equal) := by
  refine .two fun first second => reporting_compares ?_
  apply relates.andThen first
  intro left
  apply relates.andThen second
  intro right
  exact (orFail (left.equal_expected right)).reported _

theorem item_compare :
    Report inner outer [.datum shape, .datum shape'] (ofPrimitive room .item)
      (ofPrimitive room' .item) := by
  refine .two fun first second => ?_
  apply (relates.integer first _).andThen
  intro index
  apply inner.sequence (relates.items second _)
  rintro row _ ⟨rfl, -⟩
  cases row with
  | inl items => exact itemAt_compares fun place below => by simpa using below
  | inr text => exact itemAt_compares fun _ _ => rfl

theorem count_compare :
    Report inner outer [.datum shape] (ofPrimitive room .count) (ofPrimitive room' .count) := by
  refine .one fun first => reporting_compares ?_
  apply relates.andThen first
  intro value
  split
  · exact inner.value rfl
  · exact (orFail (Value.asWord_expected _ _)).reported _

/-- Every reporter compares with itself, and reports a value. -/
theorem reporter_compare (informs : inner.Informs allowed) {primitive : Primitive}
    (reports : primitive.spec.reports = true) (permitted : allowed primitive) :
    Report inner outer primitive.spec.slots (ofPrimitive room primitive)
      (ofPrimitive room' primitive) := by
  cases primitive with
  | xCoordinate | yCoordinate | position | heading | penColor | isPenDown | isShown =>
      exact query_compare informs _
  | repeatCount => exact repeatCount_compare informs permitted
  | thing =>
      exact .one fun first => reporting_compares <|
        (relates.word first _).andThen fun name => informs.lookup permitted name
  | sum | difference | product => exact binary_compare _ fun _ _ => .ok _
  | quotient | remainder => exact binary_compare _ (dividing_expected _)
  | minus | absolute | truncate | round | sine | cosine | arcTangent =>
      exact unary_compare _ fun _ => .ok _
  | squareRoot | arcCosine => exact unary_compare _ fun _ => onlyIf_expected _ _ _ _
  | random => exact random_compare informs
  | equal => exact equal_compare
  | not => exact .one fun first => reporting_compares ((relates.truth first _).reported _)
  | and =>
      exact .two fun first second => reporting_compares <|
        (relates.truth first _).choose ((relates.truth second _).reported _) (inner.value rfl)
  | or =>
      exact .two fun first second => reporting_compares <|
        (relates.truth first _).choose (inner.value rfl) ((relates.truth second _).reported _)
  | isNumber =>
      exact .one fun first => reporting_compares <|
        relates.andThen first fun value => (orFail (isNumber_expected value)).reported _
  | isWord | isList | isEmpty => exact test_compare _
  | first => exact select_compare _ _ fun items some => List.isSome_head?.mpr some
  | last => exact select_compare _ _ fun items some => List.getLast?_isSome.mpr some
  | butFirst | butLast => exact shorten_compare _ _ _
  | item => exact item_compare
  | count => exact count_compare
  | putFirst =>
      exact .two fun first second => reporting_compares <|
        relates.andThen first fun _ => (relates.list second _).reported _
  | putLast =>
      exact .two fun first second => reporting_compares <|
        (relates.list second _).andThen fun _ => relates.reported first _
  | list | sentence =>
      exact .two fun first second => reporting_compares <|
        relates.andThen first fun _ => relates.reported second _
  | word =>
      exact .two fun first second => reporting_compares <|
        (relates.word first _).andThen fun _ => (relates.word second _).reported _
  | _ => cases reports

/-! ### Commands -/

/-- Commands for inputs in given slots do the same. -/
abbrev Act (inner outer : Comparison σ τ) : List Slot → Action σ → Action τ → Prop :=
  Compare (Input.Matches inner outer) (outer.relates Eq)

/-- The turtle does the same on both sides. -/
theorem turtle_compare (serves : outer.Serves room room' allowed) {deed : Deed}
    (stays : deed.isWalk = false) : Act inner outer [] (turtle room deed) (turtle room' deed) := by
  refine .none (quietly_compares (serves.tell deed fun walks => ?_))
  rw [stays] at walks
  cases walks

theorem turtleBy_compare (refines : inner.Refines outer) (serves : outer.Serves room room' allowed)
    (who : String) {deed : Float → Deed}
    (walks : ∀ number, (deed number).isWalk = true → allowed .forward ∨ allowed .back) :
    Act inner outer [.datum shape] (turtleBy room who deed) (turtleBy room' who deed) :=
  .one fun first => quietly_compares <|
    (refines (relates.number first who)).andThen fun number => serves.tell _ (walks number)

theorem paint_compare (refines : inner.Refines outer) (serves : outer.Serves room room' allowed)
    (permitted : allowed .setPenColor ∨ allowed .setBackground) (who : String)
    {deed : Color → Deed} (stays : ∀ color, (deed color).isWalk = false) :
    Act inner outer [.datum shape]
      (.one fun color => quietly do Machine.tell room (deed (← color.color who)))
      (.one fun color => quietly do Machine.tell room' (deed (← color.color who))) := by
  refine .one fun first => quietly_compares ?_
  have colors := (refines first).andThen fun value => serves.color permitted who value
  apply colors.andThen
  intro color
  refine serves.tell _ fun walks => ?_
  rw [stays] at walks
  cases walks

theorem print_compare (refines : inner.Refines outer) (serves : outer.Serves room room' allowed)
    (style : Style) (finish : String → String) :
    Act inner outer [.datum shape]
      (.one fun input => quietly do Machine.print (finish (← input.text room style)))
      (.one fun input => quietly do Machine.print (finish (← input.text room' style))) := by
  refine .one fun first => quietly_compares ?_
  have texts := (refines first).andThen fun value => serves.write style value
  exact texts.andThen fun _ => serves.print _

/-- Rounds are gone through on both sides alike. -/
theorem repeatRounds_compares (serves : outer.Serves room room' allowed)
    (permitted : allowed .repeatBlock)
    {block : Machine σ (Option Value)} {block' : Machine τ (Option Value)}
    (compares : outer.relates Eq block block') (first rounds : Nat) :
    outer.relates Eq (repeatRounds first block rounds) (repeatRounds first block' rounds) := by
  induction rounds generalizing first with
  | zero => exact outer.value rfl
  | succ rounds induction =>
      apply (serves.setRound permitted _).andThen
      intro _
      apply compares.andThen
      intro _
      exact induction (first + 1)

theorem setPosition_compare (refines : inner.Refines outer)
    (serves : outer.Serves room room' allowed) :
    Act inner outer [.datum shape] (ofPrimitive room .setPosition)
      (ofPrimitive room' .setPosition) := by
  refine .one fun first => quietly_compares ?_
  apply (refines (relates.list first _)).andThen
  intro items
  split
  · apply (orFail (Value.asNumber_expected _ _)).andThen
    intro x
    apply (orFail (Value.asNumber_expected _ _)).andThen
    intro y
    refine serves.tell _ fun walks => ?_
    cases walks
  · exact outer.error trivial

theorem setCoordinates_compare (refines : inner.Refines outer)
    (serves : outer.Serves room room' allowed) :
    Act inner outer [.datum shape, .datum shape'] (ofPrimitive room .setCoordinates)
      (ofPrimitive room' .setCoordinates) := by
  refine .two fun first second => quietly_compares ?_
  apply (refines (relates.number first _)).andThen
  intro x
  apply (refines (relates.number second _)).andThen
  intro y
  refine serves.tell _ fun walks => ?_
  cases walks

/-- A repetition compares if its block does. -/
theorem repeatBlock_compare (refines : inner.Refines outer)
    (serves : outer.Serves room room' allowed)
    (permitted : allowed .repeatBlock) :
    Act inner outer [.datum shape, .block] (ofPrimitive room .repeatBlock)
      (ofPrimitive room' .repeatBlock) := by
  refine .two fun count block => quietly_compares ?_
  apply (refines (relates.integer count _)).andThen
  intro times
  apply outer.sequence (block _)
  intro body body' bodies
  exact serves.keepingRound permitted
    (repeatRounds_compares serves permitted bodies 1 times.toNat)

/-- Every command compares with itself. -/
theorem command_compare (refines : inner.Refines outer) (serves : outer.Serves room room' allowed)
    {primitive : Primitive} (quiet : primitive.spec.reports = false)
    (permitted : allowed primitive) :
    Act inner outer primitive.spec.slots (ofPrimitive room primitive)
      (ofPrimitive room' primitive) := by
  cases primitive with
  | forward => exact turtleBy_compare refines serves _ fun _ _ => Or.inl permitted
  | back => exact turtleBy_compare refines serves _ fun _ _ => Or.inr permitted
  | left | right | setHeading | setX | setY | setPenSize | wait =>
      refine turtleBy_compare refines serves _ fun _ walks => ?_
      cases walks
  | penUp | penDown | penPaint | penErase | penReverse | hideTurtle | showTurtle | clearScreen
  | clean | home | fill =>
      exact turtle_compare serves rfl
  | setPosition => exact setPosition_compare refines serves
  | setCoordinates => exact setCoordinates_compare refines serves
  | setPenColor => exact paint_compare refines serves (Or.inl permitted) _ fun _ => rfl
  | setBackground => exact paint_compare refines serves (Or.inr permitted) _ fun _ => rfl
  | repeatBlock => exact repeatBlock_compare refines serves permitted
  | ifBlock =>
      exact .two fun condition block =>
        (refines (relates.truth condition _)).choose (block.run _) (outer.value rfl)
  | ifElse =>
      exact .three fun condition block other =>
        (refines (relates.truth condition _)).choose (block.run _) (other.run _)
  | untilBlock =>
      exact .two fun condition block => quietly_compares <|
        loopUntil_compares (refines (relates.truth condition _)) (block.run _) _
  | whileBlock =>
      exact .two fun condition block => quietly_compares <|
        loopWhile_compares (refines (relates.truth condition _)) (block.run _) _
  | stop => exact .none (serves.stop permitted)
  | output =>
      exact .one fun first => (refines first).andThen fun value => serves.output permitted value
  | bye => exact .none (serves.bye permitted)
  | make =>
      exact .two fun name value => quietly_compares <|
        (refines (relates.word name _)).andThen fun text =>
          (refines value).andThen fun value => serves.assign permitted text value
  | print | display => exact print_compare refines serves _ (· ++ "\n")
  | emit => exact print_compare refines serves _ id
  | _ => cases quiet

end Action

end Logo
