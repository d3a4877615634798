import Logo.Color.Names

/-!
# Colors

A color has three channels of eight bits.  Colors can be written as six
hexadecimal digits, inverted channel by channel, and looked up by number in
the palette or by name.  A shade is a color with an opacity.
-/

namespace Logo

/-- A color without transparency. -/
structure Color where
  red : UInt8
  green : UInt8
  blue : UInt8
deriving DecidableEq, Repr, Inhabited

namespace Color

def black : Color := ⟨0, 0, 0⟩

def white : Color := ⟨255, 255, 255⟩

/-- The sixteen numbered colors. -/
def palette : List Color :=
  [⟨0, 0, 0⟩, ⟨0, 0, 255⟩, ⟨0, 255, 0⟩, ⟨0, 255, 255⟩,
    ⟨255, 0, 0⟩, ⟨255, 0, 255⟩, ⟨255, 255, 0⟩, ⟨255, 255, 255⟩,
    ⟨155, 96, 59⟩, ⟨197, 136, 18⟩, ⟨100, 162, 64⟩, ⟨120, 187, 187⟩,
    ⟨255, 149, 119⟩, ⟨144, 113, 208⟩, ⟨255, 163, 0⟩, ⟨183, 183, 183⟩]

/-- The opposite color, channel by channel. -/
def invert (color : Color) : Color :=
  ⟨255 - color.red, 255 - color.green, 255 - color.blue⟩

/-- The color of the six hexadecimal digits of a number. -/
def ofCode (code : Nat) : Color :=
  ⟨UInt8.ofNat (code / 65536), UInt8.ofNat (code / 256), UInt8.ofNat code⟩

/-- The number whose six hexadecimal digits are the color. -/
def code (color : Color) : Nat :=
  color.red.toNat * 65536 + color.green.toNat * 256 + color.blue.toNat

/-- The color as six hexadecimal digits. -/
def hex (color : Color) : String :=
  let digits := Nat.toDigits 16 color.code
  String.ofList (List.replicate (6 - digits.length) '0' ++ digits)

/-- The value of a lower-case hexadecimal digit. -/
def hexDigit? (character : Char) : Option Nat :=
  if '0' ≤ character && character ≤ '9' then
    some (character.toNat - 48)
  else if 'a' ≤ character && character ≤ 'f' then
    some (character.toNat - 87)
  else
    none

/-- The value of a row of hexadecimal digits. -/
def hexValue? (digits : List Char) : Option Nat :=
  digits.foldlM (fun total digit => (hexDigit? digit).map (total * 16 + ·)) 0

/-- Six hexadecimal digits, or eight of which the last two are ignored. -/
def ofHex? (digits : List Char) : Option Color :=
  match digits.length with
  | 6 => (hexValue? digits).map ofCode
  | 8 => (hexValue? digits).map fun value => ofCode (value / 256)
  | _ => none

/--
The lower case of the letters that can occur in the name of a color; the Kelvin
sign is a `k`.
-/
def lowerLetter (character : Char) : Char :=
  if character.toNat == 0x212a then 'k' else character.toLower

/--
Read a color from hexadecimal digits after `#` or `0x`.  What comes after a
null character is not read, but all of the text must be ASCII.
-/
def ofNumeral? (characters : List Char) : Option Color :=
  if characters.all (·.toNat < 128) then
    match characters.takeWhile (·.toNat != 0) with
    | '#' :: digits => ofHex? digits
    | '0' :: 'x' :: digits => ofHex? digits
    | _ => none
  else
    none

/--
Look up a color by name, in any case and with spaces anywhere, or read it from
hexadecimal digits.
-/
def ofText? (text : String) : Option Color :=
  let lowered := text.toList.map lowerLetter
  match names.lookup (String.ofList (lowered.filter (· != ' '))) with
  | some code => some (ofCode code)
  | none => ofNumeral? lowered

/-- No color is its own opposite. -/
theorem invert_ne (color : Color) : color.invert ≠ color := by
  intro same
  have red : (255 - color.red).toNat = color.red.toNat := congrArg (·.red.toNat) same
  have bound := color.red.toNat_lt
  rw [UInt8.toNat_sub_of_le _ _ (UInt8.le_iff_toNat_le.mpr (Nat.le_of_lt_succ bound))] at red
  have whole : (255 : UInt8).toNat = 255 := rfl
  omega

end Color

/-- What a place of a picture can hold: a color, perhaps with something else. -/
class Tone (α : Type) where
  color : α → Color
  invert : α → α
  color_invert (tone : α) : color (invert tone) = (color tone).invert

/-- No tone is its own opposite. -/
theorem Tone.invert_ne {α : Type} [Tone α] (tone : α) : invert tone ≠ tone := by
  intro same
  apply (color tone).invert_ne
  rw [← color_invert, same]

instance : Tone Color where
  color := id
  invert := Color.invert
  color_invert _ := rfl

/-- A color and how much it covers of what is under it. -/
structure Shade where
  color : Color
  opacity : UInt8
deriving DecidableEq, Repr

/-- The opposite of a shade covers as much as the shade. -/
instance : Tone Shade where
  color := Shade.color
  invert shade := ⟨shade.color.invert, shade.opacity⟩
  color_invert _ := rfl

end Logo
