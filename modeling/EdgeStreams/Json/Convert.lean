import EdgeStreams.Json.Document

/-!
# Typed readings of a document

A caller that expects a value of a certain kind reads the document as that kind. There are no
conversions between kinds: a number with a fraction is no integer, and a text is no number.

## Main definitions

- `Json.FromDocument`: types that a document can be read as
- `Json.Document.readPair?`: a record of two named fields
-/

namespace EdgeStreams.Json

/-- Types that a document can be read as; a document of another kind gives nothing. -/
class FromDocument (α : Type) where
  fromDocument? : Document → Option α

export FromDocument (fromDocument?)

namespace Document

/-- The integer that a document is, if it lies between two bounds. -/
def integerBetween? (low high : Int) : Document → Option Int
  | .number (.integer value) => if low ≤ value ∧ value ≤ high then some value else none
  | _ => none

end Document

instance : FromDocument Document := ⟨some⟩

instance : FromDocument UInt8 :=
  ⟨fun document => (document.integerBetween? 0 0xFF).map fun n => n.toNat.toUInt8⟩

instance : FromDocument UInt32 :=
  ⟨fun document => (document.integerBetween? 0 0xFFFFFFFF).map fun n => n.toNat.toUInt32⟩

instance : FromDocument Int64 :=
  ⟨fun document =>
    (document.integerBetween? Int64.minValue.toInt Int64.maxValue.toInt).map Int64.ofInt⟩

instance : FromDocument String :=
  ⟨fun
    | .text value => some value
    | _ => none⟩

instance : FromDocument Bool :=
  ⟨fun
    | .bool value => some value
    | _ => none⟩

instance {α : Type} [FromDocument α] : FromDocument (Option α) :=
  ⟨fun
    | .null => some none
    | document => (fromDocument? document).map some⟩

instance {α : Type} [FromDocument α] : FromDocument (List α) :=
  ⟨fun
    | .array items => items.mapM fromDocument?
    | _ => none⟩

/-- A record of two named fields, from an object that has them or from an array of the two. -/
def Document.readPair? {α β : Type} [FromDocument α] [FromDocument β] (first second : String) :
    Document → Option (α × β)
  | .object fields => do
    some (← (fields.lookup first).bind fromDocument?, ← (fields.lookup second).bind fromDocument?)
  | .array [a, b] => do
    some (← fromDocument? a, ← fromDocument? b)
  | _ => none

end EdgeStreams.Json
