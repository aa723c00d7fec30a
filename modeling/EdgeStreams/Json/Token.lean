import EdgeStreams.Json.Literal
import EdgeStreams.Text.Hex

/-!
# Tokens

The words of a JSON text: brackets, separators, strings, numbers and the three names. Blanks
between tokens are space, tab, line feed and carriage return.

## Main definitions

- `Json.Token`: a token with what it says
- `Json.TextBuilder`: a string while its characters and escapes are read
- `Json.Lexer`: the tokens so far and the one under way
- `Json.tokens?`: the tokens of a text

## Design notes

An escape can name one half of a surrogate pair. Two matching halves make one character; a string
in which a half stands alone is still a token, but it has no value.
-/

namespace EdgeStreams.Json

/-- A word of a JSON text. -/
inductive Token where
  | openBrace
  | closeBrace
  | openBracket
  | closeBracket
  | colon
  | comma
  | null
  | bool (value : Bool)
  | number (literal : Literal)
  /-- A string; no value if it holds a surrogate that stands alone. -/
  | text (value : Option String)
deriving Repr, DecidableEq

/-- A string under way. -/
structure TextBuilder where
  /-- The characters so far, last first. -/
  characters : List Char := []
  /-- A leading surrogate that waits for its other half. -/
  high : Option Nat := none
  /-- No surrogate has stood alone so far. -/
  intact : Bool := true
deriving Repr

namespace TextBuilder

/-- Adds a character. -/
def push (builder : TextBuilder) (c : Char) : TextBuilder :=
  { characters := c :: builder.characters
    intact := builder.intact && builder.high.isNone }

/-- Adds the 16-bit unit of a `\u` escape. -/
def pushUnit (builder : TextBuilder) (unit : Nat) : TextBuilder :=
  if unit < 0xD800 ∨ 0xE000 ≤ unit then builder.push (Char.ofNat unit)
  else if unit < 0xDC00 then
    { builder with high := some unit, intact := builder.intact && builder.high.isNone }
  else match builder.high with
    | some high =>
      { builder with
        characters :=
          Char.ofNat (0x10000 + (high - 0xD800) * 0x400 + (unit - 0xDC00)) :: builder.characters
        high := none }
    | none => { builder with intact := false }

/-- The string's value. -/
def value? (builder : TextBuilder) : Option String :=
  if builder.intact && builder.high.isNone then some (String.ofList builder.characters.reverse)
  else none

end TextBuilder

/-- What the next character belongs to. -/
inductive Lexer.Mode where
  | between
  /-- A name; its letters so far, last first. -/
  | word (letters : List Char)
  /-- A number; its characters so far, last first. -/
  | number (characters : List Char)
  | text (builder : TextBuilder)
  /-- After a backslash in a string. -/
  | escape (builder : TextBuilder)
  /-- In the hexadecimal digits of an escape. -/
  | unit (builder : TextBuilder) (missing : Nat) (value : Nat)

/-- The token under way, and the tokens before it, last first. -/
structure Lexer where
  mode : Lexer.Mode := .between
  tokens : List Token := []

namespace Lexer

def isBlank (c : Char) : Bool := c == ' ' || c == '\t' || c == '\n' || c == '\r'

/-- The characters that number literals are made of. -/
def isNumeric (c : Char) : Bool :=
  c.isDigit || c == '-' || c == '+' || c == '.' || c == 'e' || c == 'E'

/-- Starts a token between tokens. -/
def start? (tokens : List Token) (c : Char) : Option Lexer :=
  if isBlank c then some { tokens }
  else if c = '\x7b' then some { tokens := .openBrace :: tokens }
  else if c = '\x7d' then some { tokens := .closeBrace :: tokens }
  else if c = '[' then some { tokens := .openBracket :: tokens }
  else if c = ']' then some { tokens := .closeBracket :: tokens }
  else if c = ':' then some { tokens := .colon :: tokens }
  else if c = ',' then some { tokens := .comma :: tokens }
  else if c = '"' then some { mode := .text {}, tokens }
  else if c = '-' ∨ c.isDigit then some { mode := .number [c], tokens }
  else if c.isLower then some { mode := .word [c], tokens }
  else none

/-- The token that a name stands for. -/
def word? (letters : List Char) : Option Token :=
  if letters = ['n', 'u', 'l', 'l'] then some .null
  else if letters = ['t', 'r', 'u', 'e'] then some (.bool true)
  else if letters = ['f', 'a', 'l', 's', 'e'] then some (.bool false)
  else none

/-- The character that a one-letter escape stands for. -/
def escape? (c : Char) : Option Char :=
  match c with
  | '"' => some '"'
  | '\\' => some '\\'
  | '/' => some '/'
  | 'b' => some '\x08'
  | 'f' => some '\x0c'
  | 'n' => some '\n'
  | 'r' => some '\r'
  | 't' => some '\t'
  | _ => none

/-- Takes one character. -/
def feed? (lexer : Lexer) (c : Char) : Option Lexer :=
  match lexer.mode with
  | .between => start? lexer.tokens c
  | .word letters =>
    if c.isLower then some { lexer with mode := .word (c :: letters) }
    else do
      let token ← word? letters.reverse
      start? (token :: lexer.tokens) c
  | .number characters =>
    if isNumeric c then some { lexer with mode := .number (c :: characters) }
    else do
      let literal ← Literal.ofChars? characters.reverse
      start? (.number literal :: lexer.tokens) c
  | .text builder =>
    if c = '"' then some { tokens := .text builder.value? :: lexer.tokens }
    else if c = '\\' then some { lexer with mode := .escape builder }
    else if c.toNat < 0x20 then none
    else some { lexer with mode := .text (builder.push c) }
  | .escape builder =>
    if c = 'u' then some { lexer with mode := .unit builder 4 0 }
    else (escape? c).map fun c => { lexer with mode := .text (builder.push c) }
  | .unit builder missing value => do
    let digit ← Text.hexValue? c
    if missing ≤ 1 then some { lexer with mode := .text (builder.pushUnit (value * 16 + digit)) }
    else some { lexer with mode := .unit builder (missing - 1) (value * 16 + digit) }

/-- The tokens, first first, unless the text ends inside a string or a malformed token. -/
def finish? (lexer : Lexer) : Option (List Token) :=
  match lexer.mode with
  | .between => some lexer.tokens.reverse
  | .word letters => do
    let token ← word? letters.reverse
    some (token :: lexer.tokens).reverse
  | .number characters => do
    let literal ← Literal.ofChars? characters.reverse
    some (Token.number literal :: lexer.tokens).reverse
  | .text _ | .escape _ | .unit _ _ _ => none

end Lexer

/-- The tokens of a text. -/
def tokens? (text : String) : Option (List Token) := do
  let lexer ← text.toList.foldlM Lexer.feed? {}
  lexer.finish?

end EdgeStreams.Json
