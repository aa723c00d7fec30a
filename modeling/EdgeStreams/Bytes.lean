/-!
# Octets

Data moves through hosts, streams and bodies as chunks of octets.

## Main definitions

- `Bytes`: a chunk of data
- `utf8`: the UTF-8 octets of a text
-/

namespace EdgeStreams

/-- A chunk of data. -/
abbrev Bytes := List UInt8

/-- The UTF-8 octets of a text. -/
def utf8 (text : String) : Bytes := text.toUTF8.data.toList

end EdgeStreams
