import Spreadsheet.Text.Quoted

/-!
# Encodings

How texts are kept as bytes: as UTF-8, or with one byte for each of the first 256 characters.
Bytes that are no UTF-8 have no text, and characters past the first 256 have no single byte.
-/

namespace Spreadsheet

/-- The ways to keep texts as bytes. -/
inductive Encoding where
  | utf8
  | latin1
  deriving DecidableEq

/-- A text holds characters that the encoding lacks: the first such run, from and up to a place. -/
structure EncodeFault where
  first : Nat
  last : Nat
  /-- The first of the characters. -/
  character : Char
  deriving DecidableEq

/-- Why bytes are no UTF-8 from a place on. -/
inductive DecodeReason where
  | start
  | continuation
  | truncated
  deriving DecidableEq

/-- Bytes that are no UTF-8: the start of a character that does not go on, from and up to a place. -/
structure DecodeFault where
  first : Nat
  last : Nat
  /-- The first of the bytes. -/
  byte : Nat
  reason : DecodeReason
  deriving DecidableEq

/-- The wording of a reason. -/
def DecodeReason.message : DecodeReason → String
  | .start => "invalid start byte"
  | .continuation => "invalid continuation byte"
  | .truncated => "unexpected end of data"

/-- The wording of a fault. -/
def DecodeFault.message (fault : DecodeFault) : String :=
  let which :=
    if fault.first = fault.last then
      s!"byte 0x{String.ofList (Text.hexDigits 2 fault.byte)} in position {fault.first}"
    else s!"bytes in position {fault.first}-{fault.last}"
  s!"'utf-8' codec can't decode {which}: {fault.reason.message}"

/-- The wording of a fault. -/
def EncodeFault.message (fault : EncodeFault) : String :=
  let which :=
    if fault.first = fault.last then
      s!"character '{String.ofList (Text.escapeCode fault.character)}' in position {fault.first}"
    else s!"characters in position {fault.first}-{fault.last}"
  s!"'latin-1' codec can't encode {which}: ordinal not in range(256)"

namespace Encoding

/-- The character is among the first 256. -/
def isLatin1 (c : Char) : Bool := c.toNat < 256

/-- How many bytes follow the first byte of a character in UTF-8, and the least and the greatest that
the first of them may be. -/
def followers? (byte : Nat) : Option (Nat × Nat × Nat) :=
  if 0xC2 ≤ byte ∧ byte ≤ 0xDF then some (1, 0x80, 0xBF)
  else if byte = 0xE0 then some (2, 0xA0, 0xBF)
  else if byte = 0xED then some (2, 0x80, 0x9F)
  else if 0xE1 ≤ byte ∧ byte ≤ 0xEF then some (2, 0x80, 0xBF)
  else if byte = 0xF0 then some (3, 0x90, 0xBF)
  else if 0xF1 ≤ byte ∧ byte ≤ 0xF3 then some (3, 0x80, 0xBF)
  else if byte = 0xF4 then some (3, 0x80, 0x8F)
  else none

/-- How many bytes, up to a count, go on with a character: the first within bounds, the others
anything that may follow. -/
def followersIn (least greatest : Nat) : Nat → List Nat → Nat
  | count + 1, byte :: rest =>
    if least ≤ byte ∧ byte ≤ greatest then followersIn 0x80 0xBF count rest + 1 else 0
  | _, _ => 0

/-- The first fault of bytes that are to be UTF-8, given how many came before. -/
def decodeFault? (place : Nat) : List Nat → Option DecodeFault
  | [] => none
  | byte :: rest =>
    if byte < 0x80 then decodeFault? (place + 1) rest
    else
      match followers? byte with
      | none => some ⟨place, place, byte, .start⟩
      | some (count, least, greatest) =>
        let found := followersIn least greatest count rest
        if found = count then decodeFault? (place + 1 + count) (rest.drop count)
        else
          some ⟨place, place + found, byte, if rest.length = found then .truncated else .continuation⟩
termination_by bytes => bytes.length
decreasing_by
  · exact Nat.lt_succ_self rest.length
  · rw [List.length_drop]
    exact Nat.lt_succ_of_le (Nat.sub_le rest.length count)

/-- The text that bytes keep. -/
def decode : Encoding → ByteArray → Except DecodeFault String
  | .utf8, bytes =>
    match String.fromUTF8? bytes with
    | some text => .ok text
    | none =>
      .error ((decodeFault? 0 (bytes.toList.map UInt8.toNat)).getD ⟨0, 0, 0, .start⟩)
  | .latin1, bytes => .ok (String.ofList (bytes.toList.map fun b => Char.ofNat b.toNat))

/-- The bytes that keep a text. -/
def encode : Encoding → String → Except EncodeFault ByteArray
  | .utf8, text => .ok text.toUTF8
  | .latin1, text =>
    let before := text.toList.takeWhile isLatin1
    match text.toList.dropWhile isLatin1 with
    | [] => .ok ⟨(before.map fun c => UInt8.ofNat c.toNat).toArray⟩
    | c :: rest =>
      let run := rest.takeWhile (!isLatin1 ·)
      .error ⟨before.length, before.length + run.length, c⟩

end Encoding

end Spreadsheet
