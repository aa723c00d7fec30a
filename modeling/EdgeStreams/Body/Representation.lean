import EdgeStreams.Body.Error
import EdgeStreams.Form
import EdgeStreams.Json.Convert

/-!
# Representations of a body

## Main definitions

- `Representation`: a decoded body
- `Decoders`: how JSON texts and forms are read
- `Representation.decodeWith`: decodes the octets of a body
- `Representation.decode`: the same with the decoders at hand
-/

namespace EdgeStreams

/-- A decoded body. -/
inductive Representation where
  | bytes (data : Bytes)
  | text (text : String)
  | json (document : Json.Document)
  | form (pairs : List (String × String))

/-- The decoders that come from elsewhere. -/
structure Decoders where
  /-- Reads a JSON text, or says what is wrong with it. -/
  json : Bytes → Except String Json.Document
  form : Bytes → List (String × String)

/-- The decoders at hand. They say nothing in particular of a malformed JSON text. -/
def Decoders.standard : Decoders where
  json data := (Json.Document.parse? data).elim (.error "malformed document") .ok
  form := Form.parse

namespace Representation

/-- What a body has been decoded to. -/
def target : Representation → TargetType
  | .bytes _ => .bytes
  | .text _ => .text
  | .json _ => .json
  | .form _ => .form

/-- Decodes the octets of a body. Only a JSON text can be malformed. -/
def decodeWith (decoders : Decoders) (data : Bytes) : TargetType → Except BodyError Representation
  | .bytes => .ok (.bytes data)
  | .text => .ok (.text (Utf8.decodeLossy data))
  | .json =>
    match decoders.json data with
    | .ok document => .ok (.json document)
    | .error message => .error (.parse .json message)
  | .form => .ok (.form (decoders.form data))

/-- Decodes the octets of a body with the decoders at hand. -/
def decode (data : Bytes) (target : TargetType) : Except BodyError Representation :=
  decodeWith .standard data target

variable {decoders : Decoders} {data : Bytes} {target : TargetType}

/-- A body is decoded to what was asked for. -/
theorem target_of_decodeWith {r : Representation} (h : decodeWith decoders data target = .ok r) :
    r.target = target := by
  cases target with
  | json =>
    cases hp : decoders.json data with
    | error message => simp [decodeWith, hp] at h
    | ok document =>
      simp only [decodeWith, hp, Except.ok.injEq] at h
      exact h ▸ rfl
  | _ => simp only [decodeWith, Except.ok.injEq] at h; exact h ▸ rfl

/-- Decoding does not wait for anything. -/
theorem decodeWith_ne_stalled (decoders : Decoders) (data : Bytes) (target : TargetType) :
    decodeWith decoders data target ≠ .error .stalled := by
  cases target with
  | json => cases hp : decoders.json data <;> simp [decodeWith, hp]
  | bytes | text | form => simp [decodeWith]

end Representation

end EdgeStreams
