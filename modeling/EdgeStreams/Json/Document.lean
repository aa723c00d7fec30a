import EdgeStreams.Json.Outline
import EdgeStreams.Text.Utf8

/-!
# Documents

A document is the value of a JSON text. Objects have each key once, in rising order of the keys.

## Main definitions

- `Json.Document`: a JSON value
- `Json.Document.insertField`: gives an object's key a value
- `Json.Document.ofOutline?`: the value of an outline, if it is not nested too deep, its numbers
  are in range and its strings have values
- `Json.Document.parse?`: the value of a text in UTF-8
-/

namespace EdgeStreams.Json

/-- A JSON value. The fields of an object stand in rising order of their keys, each key once. -/
inductive Document where
  | null
  | bool (value : Bool)
  | number (value : Number)
  | text (value : String)
  | array (items : List Document)
  | object (fields : List (String × Document))
deriving Repr, Inhabited

namespace Document

/-- Gives a key a value, keeping the keys in rising order. -/
def insertField (key : String) (value : Document) :
    List (String × Document) → List (String × Document)
  | [] => [(key, value)]
  | (other, old) :: rest =>
    if key = other then (key, value) :: rest
    else if key < other then (key, value) :: (other, old) :: rest
    else (other, old) :: insertField key value rest

/-- How many arrays and objects may stand inside each other. -/
def maxDepth : Nat := 127

/-- The value of an outline with at most `depth` arrays and objects inside each other. Of several
members with one key the last counts. -/
def ofOutline? : Nat → Outline → Option Document
  | _, .null => some .null
  | _, .bool value => some (.bool value)
  | _, .number literal => literal.value?.map .number
  | _, .text value => value.map .text
  | 0, .array _ | 0, .object _ => none
  | depth + 1, .array items => (items.mapM (ofOutline? depth)).map .array
  | depth + 1, .object members => do
    let fields ← members.mapM fun (key, value) => do
      let key ← key
      let value ← ofOutline? depth value
      some (key, value)
    some (.object (fields.foldl (fun fields field => insertField field.1 field.2 fields) []))

/-- The value of a text in UTF-8. -/
def parse? (octets : Bytes) : Option Document := do
  let text ← Utf8.decode? octets
  let outline ← Outline.parse? text
  ofOutline? maxDepth outline

end Document

end EdgeStreams.Json
