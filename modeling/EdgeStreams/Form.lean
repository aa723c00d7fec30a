import EdgeStreams.Text.Hex
import EdgeStreams.Text.Utf8

/-!
# Form data

The `application/x-www-form-urlencoded` format: pairs separated by `&`, name and value separated by
the first `=`, a space written `+`, any other octet `%` and two hexadecimal digits.

## Main definitions

- `Form.parse`: the pairs of a form, in order
-/

namespace EdgeStreams.Form

/-- The value of a hexadecimal digit. -/
def hexValue? (octet : UInt8) : Option UInt8 :=
  (Text.hexValue? (Char.ofNat octet.toNat)).map Nat.toUInt8

/-- Undoes `%` escapes. A `%` without two hexadecimal digits stands for itself. -/
def percentDecode : Bytes → Bytes
  | 0x25 :: high :: low :: rest =>
    match hexValue? high, hexValue? low with
    | some h, some l => (h * 16 + l) :: percentDecode rest
    | _, _ => 0x25 :: percentDecode (high :: low :: rest)
  | octet :: rest => octet :: percentDecode rest
  | [] => []

/-- The text of a name or a value. -/
def component (octets : Bytes) : String :=
  Utf8.decodeLossy (percentDecode (octets.map fun octet => if octet = 0x2B then 0x20 else octet))

/-- One pair; without `=` the value is empty. -/
def pair (octets : Bytes) : String × String :=
  (component (octets.takeWhile (· ≠ 0x3D)), component ((octets.dropWhile (· ≠ 0x3D)).drop 1))

/-- The pairs of a form, in order. Empty pieces count for nothing. -/
def parse (octets : Bytes) : List (String × String) :=
  ((octets.splitOn 0x26).filter fun piece => !piece.isEmpty).map pair

end EdgeStreams.Form
