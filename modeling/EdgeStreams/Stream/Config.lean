import EdgeStreams.Json.Record

/-!
# Stream settings

## Main definitions

- `StreamConfig`: the sizes that streams are made with
- `StreamConfig.parse?`, `StreamConfig.render`: reading and writing a settings file
-/

namespace EdgeStreams

/-- Sizes in octets. -/
structure StreamConfig where
  /-- The most that one read of a host body asks for. -/
  bodyChunkSize : UInt64 := 8192
  /-- The high-water mark of streams that read a host body. With zero a body is only read when a
  reader waits. -/
  bodyHighWaterMark : UInt64 := 0
  /-- The high-water mark of the readable half of a transform stream. -/
  transformHighWaterMark : UInt64 := 16384
deriving DecidableEq, Repr

namespace StreamConfig

instance : Inhabited StreamConfig := ⟨{}⟩

def fields : List (Json.Field StreamConfig) :=
  [⟨"body_chunk_size", fun config value => value.word?.map ({ config with bodyChunkSize := · })⟩,
    ⟨"body_high_water_mark",
      fun config value => value.word?.map ({ config with bodyHighWaterMark := · })⟩,
    ⟨"transform_high_water_mark",
      fun config value => value.word?.map ({ config with transformHighWaterMark := · })⟩]

/-- Reads settings; those not given keep their defaults. -/
def parse? (text : String) : Option StreamConfig := do
  (← Json.Outline.parse? text).record? fields {}

/-- The settings that are members of an object, without its braces. -/
def renderMembers (config : StreamConfig) : String :=
  "\"body_chunk_size\":" ++ toString config.bodyChunkSize.toNat ++
    ",\"body_high_water_mark\":" ++ toString config.bodyHighWaterMark.toNat ++
    ",\"transform_high_water_mark\":" ++ toString config.transformHighWaterMark.toNat

def render (config : StreamConfig) : String := "\x7b" ++ config.renderMembers ++ "\x7d"

/-- The settings that streams work with. A read of zero octets could not be told from the end of a
body, so a chunk size of zero counts as one. -/
def effective (config : StreamConfig) : StreamConfig :=
  { config with bodyChunkSize := max config.bodyChunkSize 1 }

end StreamConfig

end EdgeStreams
