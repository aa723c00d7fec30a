import EdgeStreams.Text.Printable

/-!
# Names and keys

Names and keys are checked before they are sent to the host, so that a malformed one never leaves
the worker.

## Main definitions

- `NameKind`: what a text is to name
- `NameFault`, `NameError`: why it cannot
- `NameKind.check`: the first fault of a text

## Design notes

Lengths count UTF-8 octets. A text's length is judged first, then its form as a whole, then its
characters from left to right.
-/

namespace EdgeStreams

/-- What a text is to name. -/
inductive NameKind where
  | dictionaryName
  | dictionaryKey
  | configStoreName
  | configStoreKey
  | logEndpointName
  | objectStoreName
  | objectStoreKey
deriving DecidableEq, Repr

/-- Why an object store reserves a key. -/
inductive ReservedKey where
  /-- The key is `.` or `..`. -/
  | dots
  /-- The key lies under the path of certificate challenges. -/
  | acmeChallenge
deriving DecidableEq, Repr

/-- Why a text cannot name anything of its kind. -/
inductive NameFault where
  | empty
  | tooLong (limit length : Nat)
  | invalidStart
  | invalidCharacter (c : Char)
  | reserved (reason : ReservedKey)
deriving DecidableEq, Repr

/-- A text that cannot name what it is to name. -/
structure NameError where
  kind : NameKind
  fault : NameFault
deriving DecidableEq, Repr

namespace NameKind

/-- How messages speak of the name. -/
def label : NameKind → String
  | .dictionaryName => "dictionary name"
  | .dictionaryKey => "dictionary key"
  | .configStoreName => "config store name"
  | .configStoreKey => "config store key"
  | .logEndpointName => "log endpoint name"
  | .objectStoreName => "object store name"
  | .objectStoreKey => "object store key"

/-- The kind of a label. -/
def ofLabel? (text : String) : Option NameKind :=
  [dictionaryName, dictionaryKey, configStoreName, configStoreKey, logEndpointName,
    objectStoreName, objectStoreKey].find? fun kind => kind.label == text

/-- The most octets a name may have. -/
def limit : NameKind → Nat
  | .objectStoreKey => 1024
  | _ => 255

/-- Whether a text has a length that no kind of name with this limit forbids. -/
def lengthFault? (kind : NameKind) (text : String) : Option NameFault :=
  if text.isEmpty then some .empty
  else if kind.limit < text.utf8ByteSize then some (.tooLong kind.limit text.utf8ByteSize)
  else none

/-- ASCII letters, digits, underscores and spaces. -/
def isIdentifierCharacter (c : Char) : Bool := c.isAlphanum || c == '_' || c == ' '

/-- The control characters of Unicode. -/
def isControl (c : Char) : Bool :=
  c.toNat < 0x20 || (0x7F ≤ c.toNat && c.toNat < 0xA0)

/-- The characters that no object store key holds. -/
def isKeyDelimiter (c : Char) : Bool :=
  c == '\r' || c == '\n' || c == '#' || c == ';' || c == '?' || c == '^' || c == '|'

/-- The path of certificate challenges. -/
def acmeChallengePath : String := ".well-known/acme-challenge/"

/-- A letter, then identifier characters. -/
def identifierFault? : List Char → Option NameFault
  | [] => some .invalidStart
  | first :: rest =>
    if first.isAlpha then
      (rest.find? fun c => !isIdentifierCharacter c).map .invalidCharacter
    else some .invalidStart

/-- The fault of a text of allowed length. -/
def formFault? (kind : NameKind) (text : String) : Option NameFault :=
  match kind with
  | .dictionaryName | .configStoreName => identifierFault? text.toList
  | .logEndpointName => (text.toList.find? isControl).map .invalidCharacter
  | .dictionaryKey | .configStoreKey | .objectStoreName => none
  | .objectStoreKey =>
    if text = "." ∨ text = ".." then some (.reserved .dots)
    else if acmeChallengePath.toList.isPrefixOf text.toList then some (.reserved .acmeChallenge)
    else (text.toList.find? isKeyDelimiter).map .invalidCharacter

/-- The first fault of a text. -/
def fault? (kind : NameKind) (text : String) : Option NameFault :=
  (kind.lengthFault? text).or (kind.formFault? text)

/-- Refuses a text with a fault. -/
def check (kind : NameKind) (text : String) : Except NameError Unit :=
  match kind.fault? text with
  | some fault => .error ⟨kind, fault⟩
  | none => .ok ()

end NameKind

def ReservedKey.message : ReservedKey → String
  | .dots => "cannot be '.' or '..'"
  | .acmeChallenge => "cannot start with " ++ NameKind.acmeChallengePath

def NameFault.message : NameFault → String
  | .empty => "cannot be empty"
  | .tooLong limit length =>
    "cannot be more than " ++ toString limit ++ " bytes, got " ++ toString length
  | .invalidStart => "must start with an ascii alphabetical character"
  | .invalidCharacter c => "contains invalid character " ++ Text.quoted c
  | .reserved reason => reason.message

/-- The name of the kind of fault, as reports give it. -/
def NameFault.label : NameFault → String
  | .empty => "Empty"
  | .tooLong _ _ => "TooLong"
  | .invalidStart => "InvalidStart"
  | .invalidCharacter _ => "InvalidChar"
  | .reserved _ => "Reserved"

def NameError.message (error : NameError) : String :=
  error.kind.label ++ " " ++ error.fault.message

end EdgeStreams
