import Logo.Error
import Logo.Number.Numeral
import Logo.Platform
import Logo.Text.CaseFold
import Logo.Text.UpperCase
import Logo.Tree

/-!
# Coercions

Commands want numbers, words, lists, blocks, truth values and colors.  Each
coercion takes a resolved value and the name of the command, and says what
the command does not like.
-/

namespace Logo.Value

/-- A number that a command made, if it is finite. -/
def finite (who : String) (number : Float) : Except Error Float :=
  if number.isFinite then .ok number else .error (.tooBig who)

/-- A number, or a word that spells a finite one. -/
def asNumber (who : String) : Value → Except Error Float
  | .number value => finite who value
  | .word text =>
      match Number.read? text with
      | some value =>
          if value.isFinite then .ok value
          else .error (.rejectedInput who (describe (.word text)))
      | none => .error (.rejectedInput who (describe (.word text)))
  | other => .error (.rejectedInput who other.describe)

/-- The whole part of a number. -/
def asInteger (who : String) (value : Value) : Except Error Int := do
  let number ← value.asNumber who
  match Number.whole? number with
  | some whole => .ok whole
  | none => .error (.tooBig who)

/-- A word; numbers and truth values are words too. -/
def asWord (who : String) : Value → Except Error String
  | .word text => .ok text
  | .number value => .ok (Number.plain value)
  | .truth value => .ok (if value then "true" else "false")
  | other => .error (.rejectedInput who other.describe)

/-- The items of a list. -/
def asList (who : String) : Value → Except Error (List Value)
  | .list items => .ok items
  | other => .error (.rejectedInput who other.describe)

/-- The commands of a block. -/
def asBlock (who : String) : Value → Except Error (List Command)
  | .block commands => .ok commands
  | other => .error (.blockNeeded who other.typeName)

/-- A truth value, a number that is not zero, or one of the words for true and false. -/
def asTruth (who : String) : Value → Except Error Bool
  | .truth value => .ok value
  | .number value => .ok (value != 0)
  | .word text =>
      let name := Text.upper text
      if name == "TRUE" then .ok true
      else if name == "FALSE" then .ok false
      else .error (.rejectedCondition who (describe (.word text)))
  | other => .error (.rejectedCondition who other.describe)

/-- The place of a number in the palette, if it has one there. -/
def paletteColor? (number : Float) : Except Fault (Option Color) :=
  match Number.whole? number with
  | none => .error (if number.isNaN then .undefinedIndex else .infiniteIndex)
  | some whole =>
      if Number.isWhole number && 0 ≤ whole then .ok Color.palette[whole.toNat]?
      else .ok none

/-- A channel of a color. -/
def channel? : Value → Option UInt8
  | .number value =>
      if 0 ≤ value && value ≤ 255 then
        (Number.whole? value).map fun whole => UInt8.ofNat whole.toNat
      else
        none
  | _ => none

/--
A color: its number in the palette, a list of red, green and blue, or what the
platform knows.
-/
def asColor [Platform] (who : String) (value : Value) : Except Mishap Color :=
  let rejected : Except Mishap Color := .error (.error (.rejectedColor who value.describe))
  match value with
  | .number index =>
      match paletteColor? index with
      | .error fault => .error (.fault fault)
      | .ok (some color) => .ok color
      | .ok none => rejected
  | .list [red, green, blue] =>
      match channel? red, channel? green, channel? blue with
      | some red, some green, some blue => .ok ⟨red, green, blue⟩
      | _, _, _ => rejected
  | .word text =>
      match Platform.color? text with
      | some color => .ok color
      | none => rejected
  | _ => rejected

/-- A color as a list of red, green and blue. -/
def ofColor (color : Color) : Value :=
  .list ([color.red, color.green, color.blue].map fun channel =>
    .number (Number.ofNat channel.toNat))

/-- Whether two words are the same when case is ignored. -/
def equalWords (left right : Value) : Except Error Bool := do
  let left ← left.asWord "EQUALP"
  let right ← right.asWord "EQUALP"
  return Text.fold left == Text.fold right

/--
Whether two numbers or words are equal: as numbers if both are, and otherwise
as words.  A number that is too big is equal to nothing.
-/
def equalAtoms (left right : Value) : Except Error Bool :=
  match left.asNumber "EQUALP" with
  | .error (.rejectedInput _ _) => equalWords left right
  | .error error => .error error
  | .ok leftNumber =>
      match right.asNumber "EQUALP" with
      | .error (.rejectedInput _ _) => equalWords left right
      | .error error => .error error
      | .ok rightNumber => .ok (leftNumber == rightNumber)

mutual

/-- Whether two values are equal: atoms as numbers or words, lists item by item. -/
def equal : Value → Value → Except Error Bool
  | .number left, .number right => equalAtoms (.number left) (.number right)
  | .number left, .word right => equalAtoms (.number left) (.word right)
  | .word left, .number right => equalAtoms (.word left) (.number right)
  | .word left, .word right => equalAtoms (.word left) (.word right)
  | .list left, .list right =>
      if left.length == right.length then equalItems left right else .ok false
  | left, right => .ok (left.same right)

/-- Whether items are equal one by one, up to the first that differ. -/
def equalItems : List Value → List Value → Except Error Bool
  | left :: lefts, right :: rights => do
      if ← left.equal right then equalItems lefts rights else return false
  | _, _ => .ok true

end

end Logo.Value
