/-!
# Number literals

A number literal is a sign, a whole part without superfluous zeros, and optionally a fraction and
an exponent. A literal without fraction and exponent that fits a 64-bit word names an integer; any
other literal names a floating-point number, and one beyond the range of those names nothing.

## Main definitions

- `Json.Literal`, `Json.Literal.ofChars?`: the grammar
- `Json.Number`, `Json.Literal.value?`: the number that a literal names

## Design notes

A floating-point value is computed from a 64-bit significand and a power of ten. Digits are taken
into the significand as long as it stays below 2^64; whole digits beyond that only raise the power,
fraction digits beyond that count for nothing. The significand is then multiplied or divided once
by the power of ten. The last bit of the result can therefore differ from the nearest
floating-point number.
-/

namespace EdgeStreams.Json

/-- A number literal in its parts. -/
structure Literal where
  negative : Bool
  /-- The digits of the whole part. -/
  whole : List Nat
  /-- The digits after the point; none at all without a point. -/
  fraction : List Nat
  /-- The exponent's sign (`true` for minus) and digits. -/
  exponent : Option (Bool × List Nat)
deriving Repr, DecidableEq

/-- The digits at the front of some characters, and what follows them. -/
def splitDigits (characters : List Char) : List Nat × List Char :=
  ((characters.takeWhile Char.isDigit).map fun c => c.toNat - '0'.toNat,
    characters.dropWhile Char.isDigit)

namespace Literal

/-- A fraction, if there is a point; the digits after the point must not be missing. -/
def fraction? : List Char → Option (List Nat × List Char)
  | '.' :: rest =>
    match splitDigits rest with
    | ([], _) => none
    | split => some split
  | rest => some ([], rest)

/-- An exponent, if there is a letter `e`; its digits must not be missing. -/
def exponent? : List Char → Option (Option (Bool × List Nat) × List Char)
  | [] => some (none, [])
  | c :: rest =>
    if c = 'e' ∨ c = 'E' then
      let (negative, rest) := match rest with
        | '-' :: rest => (true, rest)
        | '+' :: rest => (false, rest)
        | rest => (false, rest)
      match splitDigits rest with
      | ([], _) => none
      | (digits, rest) => some (some (negative, digits), rest)
    else some (none, c :: rest)

/-- A whole part has at least one digit, and starts with zero only if that is its only digit. -/
def wellFormedWhole : List Nat → Bool
  | [] => false
  | [_] => true
  | first :: _ => first != 0

/-- The literal that some characters spell. -/
def ofChars? (characters : List Char) : Option Literal := do
  let (negative, rest) := match characters with
    | '-' :: rest => (true, rest)
    | rest => (false, rest)
  let (whole, rest) := splitDigits rest
  if wellFormedWhole whole then
    let (fraction, rest) ← fraction? rest
    let (exponent, rest) ← exponent? rest
    if rest.isEmpty then some ⟨negative, whole, fraction, exponent⟩ else none
  else none

end Literal

/-- The number that a literal names. -/
inductive Number where
  | integer (value : Int)
  | float (value : Float)
deriving Repr

/-- Takes digits into a significand as long as it stays below 2^64; the answer also says how many
were taken. -/
def extendSignificand (significand : Nat) : List Nat → Nat × Nat
  | [] => (significand, 0)
  | digit :: rest =>
    if significand * 10 + digit < UInt64.size then
      let (extended, taken) := extendSignificand (significand * 10 + digit) rest
      (extended, taken + 1)
    else (significand, 0)

/-- The floating-point number nearest to `10 ^ power`. -/
def powerOfTen (power : Nat) : Float := Float.ofScientific 1 false power

/-- Divides by `10 ^ power`, by at most `10 ^ 308` at a time. -/
def divideByPowerOfTen (x : Float) (power : Nat) : Float :=
  if power ≤ 308 then x / powerOfTen power
  else if x == 0.0 then x
  else divideByPowerOfTen (x / powerOfTen 308) (power - 308)
termination_by power

/-- The value `significand * 10 ^ exponent`; `none` beyond the range of floating-point numbers. -/
def scale? (significand : Nat) (exponent : Int) : Option Float :=
  let x := significand.toUInt64.toFloat
  if exponent < 0 then some (divideByPowerOfTen x exponent.natAbs)
  else if exponent ≤ 308 then
    let scaled := x * powerOfTen exponent.natAbs
    if scaled.isInf then none else some scaled
  else if x == 0.0 then some x
  else none

/-- An exponent's digits as a number, unless it exceeds 31 bits. -/
def exponentValue? (digits : List Nat) : Option Nat :=
  digits.foldl (fun value digit => do
    let value ← value
    if value * 10 + digit < 0x80000000 then some (value * 10 + digit) else none) (some 0)

namespace Literal

/-- The floating-point number that a literal names, without its sign. An exponent beyond 31 bits
makes zero, unless it makes a number too large. -/
def magnitude? (literal : Literal) : Option Float :=
  let (whole, wholeTaken) := extendSignificand 0 literal.whole
  let (significand, fractionTaken) := extendSignificand whole literal.fraction
  let shift : Int := (literal.whole.length - wholeTaken : Nat) - (fractionTaken : Int)
  match literal.exponent with
  | none => scale? significand shift
  | some (negative, digits) =>
    match exponentValue? digits with
    | some value => scale? significand (if negative then shift - value else shift + value)
    | none => if significand ≠ 0 ∧ !negative then none else some 0.0

/-- The integer that a literal without fraction and exponent names, if a 64-bit word holds it; a
signed word for a negative one. Zero with a minus sign is no integer. -/
def integer? (literal : Literal) : Option Int :=
  let (value, taken) := extendSignificand 0 literal.whole
  if literal.fraction.isEmpty && literal.exponent.isNone && taken == literal.whole.length then
    if !literal.negative then some value
    else if 0 < value ∧ value ≤ 0x8000000000000000 then some (-(value : Int))
    else none
  else none

/-- The number that a literal names, if there is one. -/
def value? (literal : Literal) : Option Number :=
  match literal.integer? with
  | some value => some (.integer value)
  | none => literal.magnitude?.map fun x => .float (if literal.negative then -x else x)

end Literal

end EdgeStreams.Json
