import EdgeStreams.Bytes

/-!
# Hexadecimal digits

Octets are written in pairs of digits. A report shows a short chunk whole and of a long one only its
length and a digest.

## Main definitions

- `Text.hexValue?`: the value of a digit
- `Text.hexDigits`: a number in digits, without leading zeros
- `Text.hexOctets`, `Text.octetsOfHex?`: octets in pairs of digits, and back
- `Text.hexWord`: a 64-bit word in sixteen digits
- `Text.digest`: the 64-bit FNV-1a digest of octets
- `Text.Excerpt`, `Text.excerpt`, `Text.Excerpt.text`: what a report shows of a chunk

Digits are written in lower case and read in either.
-/

namespace EdgeStreams.Text

/-- The value of a hexadecimal digit. -/
def hexValue? (c : Char) : Option Nat :=
  if c.isDigit then some (c.toNat - '0'.toNat)
  else if 'a' ≤ c ∧ c ≤ 'f' then some (c.toNat - 'a'.toNat + 10)
  else if 'A' ≤ c ∧ c ≤ 'F' then some (c.toNat - 'A'.toNat + 10)
  else none

/-- A number in digits, most significant first. -/
def hexDigits (n : Nat) : List Char := Nat.toDigits 16 n

/-- An octet in two digits. -/
def hexPair (octet : UInt8) : List Char :=
  [Nat.digitChar (octet.toNat / 16), Nat.digitChar (octet.toNat % 16)]

/-- Octets in pairs of digits. -/
def hexOctets (octets : Bytes) : String := String.ofList (octets.flatMap hexPair)

/-- The octets that pairs of digits stand for. -/
def octetsOfHex? : List Char → Option Bytes
  | [] => some []
  | [_] => none
  | high :: low :: rest => do
    let octet := (← hexValue? high) * 16 + (← hexValue? low)
    return octet.toUInt8 :: (← octetsOfHex? rest)

/-- A word in sixteen digits. -/
def hexWord (word : UInt64) : String :=
  let digits := hexDigits word.toNat
  String.ofList (List.replicate (16 - digits.length) '0' ++ digits)

/-! ### Excerpts -/

/-- The 64-bit FNV-1a digest: for each octet an exclusive or, then a multiplication. -/
def digest (octets : Bytes) : UInt64 :=
  octets.foldl (fun hash octet => (hash ^^^ octet.toUInt64) * 0x100000001b3) 0xcbf29ce484222325

/-- What a report shows of a chunk. -/
inductive Excerpt where
  /-- All octets in hexadecimal digits. -/
  | whole (digits : String)
  /-- The length, and the digest in hexadecimal digits. -/
  | brief (length : Nat) (digits : String)
deriving DecidableEq, Repr

/-- The most octets that are shown whole. -/
def excerptLimit : Nat := 256

def excerpt (octets : Bytes) : Excerpt :=
  if octets.length ≤ excerptLimit then .whole (hexOctets octets)
  else .brief octets.length (hexWord (digest octets))

def Excerpt.text : Excerpt → String
  | .whole digits => digits
  | .brief length digits => toString length ++ ":" ++ digits

end EdgeStreams.Text
