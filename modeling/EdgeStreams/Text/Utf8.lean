import EdgeStreams.Bytes

/-!
# Reading UTF-8

Octets are read one at a time. A character is complete once its last octet has come; a sequence
that can no longer become a character is given up as soon as that shows, and the octet that showed
it starts afresh. So every longest beginning of a character that is not continued counts as one
fault, whatever its length.

## Main definitions

- `Utf8.Reader`: what has been read so far, and the character under way
- `Utf8.scalars`: the characters of a sequence of octets, with `none` for each fault
- `Utf8.decode?`: the text, if there is no fault
- `Utf8.decodeLossy`: the text with U+FFFD for each fault
-/

namespace EdgeStreams.Utf8

/-- A character under way. -/
structure Partial where
  /-- The payload bits so far. -/
  value : Nat
  /-- How many octets are still to come. -/
  missing : Nat
  /-- The least octet that may come next. -/
  low : UInt8
  /-- The greatest octet that may come next. -/
  high : UInt8
deriving Repr, DecidableEq

/-- What an octet means between two characters. -/
inductive Lead where
  | single (c : Char)
  | opens (start : Partial)
  | invalid
deriving Repr, DecidableEq

/-- Overlong forms, surrogates and values above U+10FFFF are excluded by the range of the second
octet. -/
def lead (octet : UInt8) : Lead :=
  let n := octet.toNat
  if n < 0x80 then .single (Char.ofNat n)
  else if n < 0xC2 then .invalid
  else if n < 0xE0 then .opens ⟨n - 0xC0, 1, 0x80, 0xBF⟩
  else if n = 0xE0 then .opens ⟨0, 2, 0xA0, 0xBF⟩
  else if n = 0xED then .opens ⟨0xD, 2, 0x80, 0x9F⟩
  else if n < 0xF0 then .opens ⟨n - 0xE0, 2, 0x80, 0xBF⟩
  else if n = 0xF0 then .opens ⟨0, 3, 0x90, 0xBF⟩
  else if n < 0xF4 then .opens ⟨n - 0xF0, 3, 0x80, 0xBF⟩
  else if n = 0xF4 then .opens ⟨4, 3, 0x80, 0x8F⟩
  else .invalid

/-- What has been read so far. -/
structure Reader where
  /-- The character under way. -/
  pending : Option Partial := none
  /-- The characters and faults so far, last first. -/
  output : List (Option Char) := []

namespace Reader

/-- Takes an octet that does not continue a character. -/
def begin (output : List (Option Char)) (octet : UInt8) : Reader :=
  match lead octet with
  | .single c => ⟨none, some c :: output⟩
  | .opens start => ⟨some start, output⟩
  | .invalid => ⟨none, none :: output⟩

/-- Takes one octet. -/
def feed (reader : Reader) (octet : UInt8) : Reader :=
  match reader.pending with
  | none => begin reader.output octet
  | some p =>
    if p.low ≤ octet ∧ octet ≤ p.high then
      let value := p.value * 0x40 + octet.toNat % 0x40
      if p.missing = 1 then ⟨none, some (Char.ofNat value) :: reader.output⟩
      else ⟨some ⟨value, p.missing - 1, 0x80, 0xBF⟩, reader.output⟩
    else begin (none :: reader.output) octet

/-- The characters and faults; a character still under way is a fault. -/
def finish (reader : Reader) : List (Option Char) :=
  match reader.pending with
  | none => reader.output.reverse
  | some _ => (none :: reader.output).reverse

end Reader

/-- The characters of a sequence of octets, with `none` for each fault. -/
def scalars (octets : Bytes) : List (Option Char) :=
  (octets.foldl Reader.feed {}).finish

/-- The text, if every octet belongs to a character. -/
def decode? (octets : Bytes) : Option String :=
  ((scalars octets).mapM id).map String.ofList

/-- The text, with U+FFFD for each fault. -/
def decodeLossy (octets : Bytes) : String :=
  String.ofList ((scalars octets).map fun c => c.getD '\uFFFD')

end EdgeStreams.Utf8
