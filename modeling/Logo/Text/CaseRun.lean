/-!
# Runs of letters

Case mappings move whole runs of letters by the same distance: all letters
from the first to the last of a run, or every other one.  A few letters become
several.  A `CaseTable` holds both kinds of rule.
-/

namespace Logo.Text

/-- Letters from `first` to `last`, `stride` apart, moved so that `first` becomes `image`. -/
structure CaseRun where
  first : Nat
  last : Nat
  stride : Nat
  image : Nat
deriving DecidableEq, Repr

/-- Where a run moves a code point, if the run holds it. -/
def CaseRun.move? (run : CaseRun) (code : Nat) : Option Nat :=
  if run.first ≤ code && code ≤ run.last && (code - run.first) % run.stride == 0 then
    some (run.image + (code - run.first))
  else
    none

/--
Where the first run that holds a code point moves it.  Runs come in the order
of their first letters.
-/
def moveIn? (code : Nat) : List CaseRun → Option Nat
  | [] => none
  | run :: rest =>
      if code < run.first then
        none
      else
        match run.move? code with
        | some image => some image
        | none => moveIn? code rest

/-- The letters that a code point becomes.  Expansions come in the order of their letters. -/
def expandIn? (code : Nat) : List (Nat × List Nat) → Option (List Nat)
  | [] => none
  | (letter, letters) :: rest =>
      if code < letter then none
      else if code == letter then some letters
      else expandIn? code rest

/-- A case mapping: runs of moved letters, and letters that become several. -/
structure CaseTable where
  runs : List CaseRun
  expansions : List (Nat × List Nat)

namespace CaseTable

/-- The code points that a code point is mapped to. -/
def mapCode (table : CaseTable) (code : Nat) : List Nat :=
  match moveIn? code table.runs with
  | some image => [image]
  | none => (expandIn? code table.expansions).getD [code]

/-- The characters that a character is mapped to. -/
def mapChar (table : CaseTable) (character : Char) : List Char :=
  (table.mapCode character.toNat).map Char.ofNat

/-- Map all characters of a text. -/
def mapText (table : CaseTable) (text : String) : String :=
  String.ofList (text.toList.flatMap table.mapChar)

end CaseTable

end Logo.Text
