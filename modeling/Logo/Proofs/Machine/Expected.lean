import Logo.Machine.Meaning

/-!
# The errors to expect of a program

Two errors say that a tree is not what it should be: a command gives no value
where one is needed, and something else stands in the place of a block.  All
other errors are to be expected of programs.  Coercions, comparisons and
operations make no others, and they never say that a procedure is not known.

Only two things go beyond errors.  An operation has no meaning without a known
operator, and a color has none if it is a number that is not finite.
-/

namespace Logo

/-- An error that a program may make, as long as its tree is well formed. -/
def Error.IsExpected : Error → Prop
  | .noValue _ => False
  | .blockNeeded _ _ => False
  | _ => True

/-- An error that any command may make.  Only a call can tell that a procedure is not known. -/
def Error.IsCommon : Error → Prop
  | .undefinedProcedure _ => False
  | error => error.IsExpected

theorem Error.IsCommon.isExpected {error : Error} (common : error.IsCommon) :
    error.IsExpected := by
  cases error with
  | noValue | blockNeeded => exact common
  | _ => trivial

/-- A fault that only says that a limit was reached. -/
def Fault.IsLimit : Fault → Prop
  | .tooManyCalls => True
  | .endlessLoop => True
  | _ => False

/-- An attempt that fails only with errors that any command may make. -/
def FailsAsExpected {α : Type} (attempt : Except Error α) : Prop :=
  ∀ error, attempt = .error error → error.IsCommon

namespace FailsAsExpected

variable {α β : Type}

theorem ok (result : α) : FailsAsExpected (.ok result) := by
  intro error failed
  cases failed

theorem error {cause : Error} (expected : cause.IsCommon) :
    FailsAsExpected (.error cause : Except Error α) := by
  intro error failed
  cases failed
  exact expected

/-- One attempt after another fails as expected. -/
theorem bind {attempt : Except Error α} {rest : α → Except Error β}
    (first : FailsAsExpected attempt) (others : ∀ result, FailsAsExpected (rest result)) :
    FailsAsExpected (attempt >>= rest) := by
  cases attempt with
  | error cause => exact .error (first cause rfl)
  | ok result => exact others result

end FailsAsExpected

namespace Value

theorem finite_expected (who : String) (number : Float) : FailsAsExpected (finite who number) := by
  unfold finite
  split
  · exact .ok number
  · exact .error trivial

/-- A value that is no number is refused with an expected error. -/
theorem asNumber_expected (who : String) (value : Value) :
    FailsAsExpected (value.asNumber who) := by
  fun_cases asNumber who value with
  | case1 number => exact finite_expected who number
  | case2 => exact .ok _
  | case3 | case4 | case5 => exact .error trivial

theorem asInteger_expected (who : String) (value : Value) :
    FailsAsExpected (value.asInteger who) := by
  unfold asInteger
  apply (asNumber_expected who value).bind
  intro number
  split
  · exact .ok _
  · exact .error trivial

theorem asWord_expected (who : String) (value : Value) : FailsAsExpected (value.asWord who) := by
  fun_cases asWord who value with
  | case1 | case2 | case3 => exact .ok _
  | case4 => exact .error trivial

theorem asList_expected (who : String) (value : Value) : FailsAsExpected (value.asList who) := by
  fun_cases asList who value with
  | case1 items => exact .ok items
  | case2 => exact .error trivial

theorem asTruth_expected (who : String) (value : Value) : FailsAsExpected (value.asTruth who) := by
  fun_cases asTruth who value with
  | case1 | case2 | case3 | case4 => exact .ok _
  | case5 | case6 => exact .error trivial

theorem equalWords_expected (left right : Value) : FailsAsExpected (equalWords left right) := by
  apply (asWord_expected _ left).bind
  intro _
  apply (asWord_expected _ right).bind
  intro _
  exact .ok _

theorem equalAtoms_expected (left right : Value) : FailsAsExpected (equalAtoms left right) := by
  unfold equalAtoms
  split
  · exact equalWords_expected left right
  · rename_i failed
    exact .error (asNumber_expected _ left _ failed)
  · split
    · exact equalWords_expected left right
    · rename_i failed
      exact .error (asNumber_expected _ right _ failed)
    · exact .ok _

mutual

/-- Comparing values fails as expected, if it does. -/
theorem equal_expected : ∀ left right : Value, FailsAsExpected (left.equal right)
  | left, right => by
      fun_cases equal left right with
      | case1 | case2 | case3 | case4 => exact equalAtoms_expected _ _
      | case5 lefts rights => exact equalItems_expected lefts rights
      | case6 | case7 => exact .ok _

theorem equalItems_expected : ∀ lefts rights : List Value, FailsAsExpected (equalItems lefts rights)
  | left :: lefts, right :: rights => by
      rw [equalItems]
      apply (equal_expected left right).bind
      intro same
      cases same with
      | true => exact equalItems_expected lefts rights
      | false => exact .ok false
  | [], _ => by
      rw [equalItems]
      · exact .ok true
      · simp
  | _ :: _, [] => by
      rw [equalItems]
      · exact .ok true
      · simp

end

/-- The palette has no place for a number that is not finite. -/
theorem paletteColor?_error {index : Float} {fault : Fault}
    (failed : paletteColor? index = .error fault) :
    Number.whole? index = none ∧
      fault = if index.isNaN then .undefinedIndex else .infiniteIndex := by
  unfold paletteColor? at failed
  split at failed
  · rename_i missing
    exact ⟨missing, (Except.error.inj failed).symm⟩
  · split at failed <;> cases failed

/-- A color by a number that is not finite is a fault. -/
theorem asColor_of_whole?_eq_none [Platform] (who : String) {index : Float}
    (missing : Number.whole? index = none) :
    (Value.number index).asColor who =
      .error (.fault (if index.isNaN then .undefinedIndex else .infiniteIndex)) := by
  simp only [asColor, paletteColor?, missing]

/-- A color is refused with an error that any command may make, or is no finite number. -/
theorem asColor_error [Platform] {who : String} {value : Value} {mishap : Mishap}
    (failed : value.asColor who = .error mishap) :
    (∃ error, mishap = .error error ∧ error.IsCommon) ∨
      ∃ index, value = .number index ∧ Number.whole? index = none ∧
        mishap = .fault (if index.isNaN then .undefinedIndex else .infiniteIndex) := by
  unfold asColor at failed
  dsimp only at failed
  split at failed
  · rename_i index
    split at failed
    · rename_i beyond
      cases failed
      obtain ⟨missing, rfl⟩ := paletteColor?_error beyond
      exact Or.inr ⟨index, rfl, missing, rfl⟩
    · cases failed
    · cases failed
      exact Or.inl ⟨_, rfl, trivial⟩
  · split at failed <;> cases failed
    exact Or.inl ⟨_, rfl, trivial⟩
  · split at failed <;> cases failed
    exact Or.inl ⟨_, rfl, trivial⟩
  · cases failed
    exact Or.inl ⟨_, rfl, trivial⟩

end Value

namespace Action

theorem isNumber_expected (value : Value) : FailsAsExpected (isNumber value) := by
  unfold isNumber
  split
  · exact .ok true
  · exact .ok false
  · rename_i failed
    exact .error (value.asNumber_expected _ _ failed)

theorem dividing_expected (operation : Float → Float → Float) (left right : Float) :
    FailsAsExpected (dividing operation left right) := by
  unfold dividing
  split
  · exact .error trivial
  · exact .ok _

theorem onlyIf_expected (who : String) (allowed : Bool) (number result : Float) :
    FailsAsExpected (onlyIf who allowed number result) := by
  unfold onlyIf
  split
  · exact .ok result
  · exact .error trivial

end Action

/-- Known operators refuse nothing but to divide by zero. -/
theorem operate_error {glyph : String} {left right : Float} {mishap : Mishap}
    (known : glyph ∈ Kind.operators) (failed : operate glyph left right = .error mishap) :
    mishap = .error .divisionByZero := by
  unfold operate at failed
  dsimp only at failed
  split at failed
  case h_4 =>
    split at failed <;> cases failed
    rfl
  case h_11 => simp_all [Kind.operators]
  all_goals cases failed

end Logo
