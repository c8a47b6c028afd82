import RoomHistory.Event.Wire

/-!
# Pages of history

A page is asked for at a token and in a direction.  It carries untyped events and the token at
which the next page starts.
-/

namespace RoomHistory

open FieldReader

/-- What a page is asked for with. -/
structure PageQuery where
  start : Option String
  stop : Option String
  direction : Direction
  limit : Nat
  deriving DecidableEq

namespace PageQuery

/-- The fields of the record. -/
def reader : FieldReader PageQuery := do
  let start ← optionalByName "from" Decoder.string
  let stop ← optionalByName "to" Decoder.string
  let direction ← required "dir" Direction.decode
  let limit ← required "limit" Decoder.word64
  return ⟨start, stop, direction, limit⟩

/-- Reads the record. -/
def decode : Decoder PageQuery := reader.decode

/-- Writes the direction and the limit, and the tokens if there are any. -/
def encode (query : PageQuery) : Json :=
  .ofMembers <|
    Json.optionalMember "from" (query.start.map .string) ++
    Json.optionalMember "to" (query.stop.map .string) ++
    Json.member "dir" query.direction.encode ++
    Json.member "limit" (.nat query.limit)

end PageQuery

/-- What a server answers to a query. -/
structure Page where
  chunk : List Json
  start : Option String
  /-- Where the next page starts. -/
  stop : Option String

namespace Page

/-- A page that carries nothing. -/
def empty : Page := ⟨[], none, none⟩

/-- The fields of the record. -/
def reader : FieldReader Page := do
  let chunk ← withDefault "chunk" [] (Decoder.list Decoder.any)
  let start ← optional "start" Decoder.string
  let stop ← optional "end" Decoder.string
  return ⟨chunk, start, stop⟩

/-- Reads the record. -/
def decode : Decoder Page := reader.decode

/-- Writes the chunk, and the tokens if there are any. -/
def encode (page : Page) : Json :=
  .ofMembers <|
    Json.member "chunk" (.array page.chunk) ++
    Json.optionalMember "start" (page.start.map .string) ++
    Json.optionalMember "end" (page.stop.map .string)

end Page

/-- Something that answers queries about rooms, or fails. -/
abbrev PageServer := RoomId → PageQuery → Except Error Page

end RoomHistory
