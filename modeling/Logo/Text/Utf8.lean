/-!
# UTF-8

Reading text from bytes.  A character is one byte below 128, or a lead byte
and one to three bytes that continue it; what may come first after the lead
byte depends on it, so that every character has one form only and surrogates
have none.  Bytes that are no text are refused, with the place of the first
sequence that cannot be completed.
-/

namespace Logo.Text.Utf8

/-- Why bytes are no text. -/
inductive Reason where
  | invalidStart
  | invalidContinuation
  | unexpectedEnd
deriving DecidableEq, Repr

/-- The wording of a reason. -/
def Reason.message : Reason → String
  | .invalidStart => "invalid start byte"
  | .invalidContinuation => "invalid continuation byte"
  | .unexpectedEnd => "unexpected end of data"

/-- A sequence of bytes that is no character, and where it starts. -/
structure Malformed where
  start : Nat
  lead : UInt8
  length : Nat
  reason : Reason
deriving DecidableEq, Repr

/-- The wording for a malformed sequence. -/
def Malformed.message (malformed : Malformed) : String :=
  let digits := Nat.toDigits 16 malformed.lead.toNat
  let extent :=
    if malformed.length == 1 then
      "byte 0x" ++ String.ofList (List.replicate (2 - digits.length) '0' ++ digits) ++
        " in position " ++ toString malformed.start
    else
      "bytes in position " ++ toString malformed.start ++ "-" ++
        toString (malformed.start + malformed.length - 1)
  "'utf-8' codec can't decode " ++ extent ++ ": " ++ malformed.reason.message

/-- A character of which some bytes have been read: what they say, and what may come next. -/
structure Partial where
  start : Nat
  lead : UInt8
  length : Nat
  code : Nat
  owed : Nat
  low : UInt8
  high : UInt8

/--
What a lead byte announces: its share of the code, how many bytes follow, the
first one's range.
-/
def announce (byte : UInt8) : Option (Nat × Nat × UInt8 × UInt8) :=
  let code := byte.toNat
  if byte < 0xc2 then none
  else if byte ≤ 0xdf then some (code - 0xc0, 1, 0x80, 0xbf)
  else if byte == 0xe0 then some (0, 2, 0xa0, 0xbf)
  else if byte == 0xed then some (13, 2, 0x80, 0x9f)
  else if byte ≤ 0xef then some (code - 0xe0, 2, 0x80, 0xbf)
  else if byte == 0xf0 then some (0, 3, 0x90, 0xbf)
  else if byte ≤ 0xf3 then some (code - 0xf0, 3, 0x80, 0xbf)
  else if byte == 0xf4 then some (4, 3, 0x80, 0x8f)
  else none

/--
Read bytes from a position on.  `partly` is a character under way, and `done`
holds the characters read so far, from last to first.
-/
def decodeFrom (position : Nat) (partly : Option Partial) (done : List Char) :
    List UInt8 → Except Malformed (List Char)
  | [] =>
      match partly with
      | none => .ok done.reverse
      | some character =>
          .error ⟨character.start, character.lead, character.length, .unexpectedEnd⟩
  | byte :: rest =>
      match partly with
      | none =>
          if byte < 0x80 then
            decodeFrom (position + 1) none (Char.ofNat byte.toNat :: done) rest
          else
            match announce byte with
            | none => .error ⟨position, byte, 1, .invalidStart⟩
            | some (code, owed, low, high) =>
                decodeFrom (position + 1)
                  (some ⟨position, byte, 1, code, owed, low, high⟩) done rest
      | some character =>
          if character.low ≤ byte && byte ≤ character.high then
            let code := character.code * 64 + (byte.toNat - 0x80)
            if character.owed ≤ 1 then
              decodeFrom (position + 1) none (Char.ofNat code :: done) rest
            else
              decodeFrom (position + 1)
                (some ⟨character.start, character.lead, character.length + 1, code,
                  character.owed - 1, 0x80, 0xbf⟩)
                done rest
          else
            .error ⟨character.start, character.lead, character.length, .invalidContinuation⟩

/-- Read text from bytes. -/
def decode (bytes : List UInt8) : Except Malformed (List Char) :=
  decodeFrom 0 none [] bytes

end Logo.Text.Utf8
