import EdgeStreams.Json.Outline

/-!
# Records

A settings file spells a record: an object with some of the record's fields, or an array of the
fields' values in order. Fields that are not given keep their defaults.

## Main definitions

- `Json.Field`: a field's name and how its value is set
- `Json.Outline.record?`: the record that an outline spells
- `Json.Outline.word?`, `Json.Outline.bool?`: the values of fields

## Design notes

Members of other names are skipped whatever they hold. A field given twice is refused, and so is an
array with more values than there are fields.
-/

namespace EdgeStreams.Json

/-- A field of a record. `set?` refuses a value of the wrong kind. -/
structure Field (σ : Type) where
  name : String
  set? : σ → Outline → Option σ

namespace Outline

/-- A number that a 64-bit word holds, written as an integer. -/
def word? : Outline → Option UInt64
  | .number literal => do
    let value ← literal.integer?
    if 0 ≤ value then some value.toNat.toUInt64 else none
  | _ => none

def bool? : Outline → Option Bool
  | .bool value => some value
  | _ => none

/-- Sets one member's field, unless no field has its name. -/
def setMember? {σ : Type} (fields : List (Field σ)) (record : σ)
    (member : Option String × Outline) : Option σ := do
  let key ← member.1
  match fields.find? fun field => field.name == key with
  | some field => field.set? record member.2
  | none => some record

/-- Whether no field is given twice. -/
def givenOnce {σ : Type} (fields : List (Field σ)) (members : List (Option String × Outline)) :
    Bool :=
  fields.all fun field => (members.filter fun member => member.1 == some field.name).length ≤ 1

/-- The record that an outline spells, from the record of the defaults. -/
def record? {σ : Type} (fields : List (Field σ)) (defaults : σ) : Outline → Option σ
  | .object members =>
    if givenOnce fields members then members.foldlM (setMember? fields) defaults else none
  | .array items =>
    if items.length ≤ fields.length then
      (fields.zip items).foldlM (fun record (field, item) => field.set? record item) defaults
    else none
  | _ => none

end Outline

end EdgeStreams.Json
