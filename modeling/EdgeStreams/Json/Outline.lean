import EdgeStreams.Json.Token

/-!
# Outlines

An outline is a JSON text as it is nested, before anything is said about the sizes of its numbers,
the surrogates in its strings or its depth.

## Main definitions

- `Json.Outline`: a nested text
- `Json.Outliner`: the open arrays and objects, and what may come next
- `Json.Outline.parse?`: the outline of a text

## Design notes

The open arrays and objects are kept in a list, so that depth costs no recursion.
-/

namespace EdgeStreams.Json

/-- A JSON text as it is nested. A string without value and a number out of range are kept as they
stand. -/
inductive Outline where
  | null
  | bool (value : Bool)
  | number (literal : Literal)
  | text (value : Option String)
  | array (items : List Outline)
  | object (members : List (Option String × Outline))
deriving Repr

/-- An array or object that is still open. Items and members stand last first. -/
inductive Outliner.Frame where
  | array (items : List Outline)
  /-- An object whose member under way has the given key. -/
  | object (members : List (Option String × Outline)) (key : Option String)

/-- What may come next. -/
inductive Outliner.Expectation where
  | value
  /-- The first item of an array, or its end. -/
  | firstItem
  /-- The first key of an object, or its end. -/
  | firstKey
  /-- A further key of an object with the given members. -/
  | key (members : List (Option String × Outline))
  /-- The colon after a key. -/
  | colon (members : List (Option String × Outline)) (key : Option String)
  /-- A separator or the end of the innermost array or object. -/
  | separator
  /-- Nothing more: the text is complete. -/
  | done (outline : Outline)

/-- The open arrays and objects, innermost first, and what may come next. -/
structure Outliner where
  expects : Outliner.Expectation := .value
  frames : List Outliner.Frame := []

namespace Outliner

/-- Puts a complete value where it belongs. -/
def deliver (frames : List Frame) (outline : Outline) : Outliner :=
  match frames with
  | [] => { expects := .done outline }
  | .array items :: outer => { expects := .separator, frames := .array (outline :: items) :: outer }
  | .object members key :: outer =>
    { expects := .separator, frames := .object ((key, outline) :: members) key :: outer }

/-- A token where a value must come. -/
def value? (frames : List Frame) (token : Token) : Option Outliner :=
  match token with
  | .null => some (deliver frames .null)
  | .bool value => some (deliver frames (.bool value))
  | .number literal => some (deliver frames (.number literal))
  | .text value => some (deliver frames (.text value))
  | .openBracket => some { expects := .firstItem, frames := .array [] :: frames }
  | .openBrace => some { expects := .firstKey, frames }
  | _ => none

/-- Takes one token. -/
def feed? (outliner : Outliner) (token : Token) : Option Outliner :=
  match outliner.expects with
  | .value => value? outliner.frames token
  | .firstItem =>
    match token, outliner.frames with
    | .closeBracket, .array items :: outer => some (deliver outer (.array items.reverse))
    | token, frames => value? frames token
  | .firstKey =>
    match token with
    | .closeBrace => some (deliver outliner.frames (.object []))
    | .text key => some { outliner with expects := .colon [] key }
    | _ => none
  | .key members =>
    match token with
    | .text key => some { outliner with expects := .colon members key }
    | _ => none
  | .colon members key =>
    match token with
    | .colon => some { expects := .value, frames := .object members key :: outliner.frames }
    | _ => none
  | .separator =>
    match token, outliner.frames with
    | .comma, .array items :: outer => some { expects := .value, frames := .array items :: outer }
    | .closeBracket, .array items :: outer => some (deliver outer (.array items.reverse))
    | .comma, .object members _ :: outer => some { expects := .key members, frames := outer }
    | .closeBrace, .object members _ :: outer => some (deliver outer (.object members.reverse))
    | _, _ => none
  | .done _ => none

end Outliner

/-- The outline of a text. -/
def Outline.parse? (text : String) : Option Outline := do
  let outliner ← (← tokens? text).foldlM Outliner.feed? {}
  match outliner.expects with
  | .done outline => some outline
  | _ => none

end EdgeStreams.Json
