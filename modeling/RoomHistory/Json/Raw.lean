import RoomHistory.Json.Token

/-!
# JSON as written

A raw value is the tree of a JSON text: members in the order of the text, repeated keys kept,
literals and escapes not yet given a meaning.  `Raw.ofText?` accepts exactly one well-formed
value with blanks around it.  `Raw.value?` gives the meaning of a tree, and `Raw.restrict?` gives
the meaning of the fields that a record knows, so that what stands under other keys has only to
be well formed.
-/

namespace RoomHistory

namespace Json

/-- The tree of a JSON text. -/
inductive Raw where
  | null
  | bool (value : Bool)
  | number (literal : NumberLiteral)
  | string (units : List TextUnit)
  | array (items : List Raw)
  | object (members : List (List TextUnit × Raw))

namespace Raw

/-- A container that is still open, what it holds in reverse. -/
inductive Frame where
  | array (items : List Raw)
  | object (members : List (List TextUnit × Raw))
  /-- An object whose last key still waits for its value. -/
  | member (members : List (List TextUnit × Raw)) (key : List TextUnit)

/-- What may come next. -/
inductive Expectation where
  /-- A value. -/
  | value
  /-- A value, or the end of an array just opened. -/
  | valueOrEnd
  /-- A key. -/
  | key
  /-- A key, or the end of an object just opened. -/
  | keyOrEnd
  /-- The colon between a key and its value. -/
  | colon
  /-- A comma, or the end of the innermost container. -/
  | commaOrEnd
  /-- Nothing: the value is complete. -/
  | nothing (result : Raw)

/-- The open containers, the innermost first, and what may come next. -/
structure Building where
  frames : List Frame
  expectation : Expectation

namespace Building

/-- The state before the first token. -/
def start : Building := ⟨[], .value⟩

/-- Puts a complete value into the innermost container. -/
def place? (value : Raw) : List Frame → Option Building
  | [] => some ⟨[], .nothing value⟩
  | .array items :: frames => some ⟨.array (value :: items) :: frames, .commaOrEnd⟩
  | .member members key :: frames => some ⟨.object ((key, value) :: members) :: frames, .commaOrEnd⟩
  | .object _ :: _ => none

/-- Takes a token where a value may start. -/
def startValue? (frames : List Frame) : JsonToken → Option Building
  | .openArray => some ⟨.array [] :: frames, .valueOrEnd⟩
  | .openObject => some ⟨.object [] :: frames, .keyOrEnd⟩
  | .null => place? .null frames
  | .bool value => place? (.bool value) frames
  | .number literal => place? (.number literal) frames
  | .string units => place? (.string units) frames
  | _ => none

/-- Takes a key of the innermost object. -/
def startMember? : List Frame → JsonToken → Option Building
  | .object members :: frames, .string units => some ⟨.member members units :: frames, .colon⟩
  | _, _ => none

/-- Closes the innermost container. -/
def finish? : List Frame → JsonToken → Option Building
  | .array items :: frames, .closeArray => place? (.array items.reverse) frames
  | .object members :: frames, .closeObject => place? (.object members.reverse) frames
  | _, _ => none

/-- Takes a comma inside the innermost container. -/
def continue? : List Frame → Option Building
  | .array items :: frames => some ⟨.array items :: frames, .value⟩
  | .object members :: frames => some ⟨.object members :: frames, .key⟩
  | _ => none

/-- Takes one token. -/
def step? (building : Building) (token : JsonToken) : Option Building :=
  match building.expectation with
  | .value => startValue? building.frames token
  | .valueOrEnd =>
      if token = .closeArray then finish? building.frames token
      else startValue? building.frames token
  | .key => startMember? building.frames token
  | .keyOrEnd =>
      if token = .closeObject then finish? building.frames token
      else startMember? building.frames token
  | .colon => if token = .colon then some ⟨building.frames, .value⟩ else none
  | .commaOrEnd =>
      if token = .comma then continue? building.frames else finish? building.frames token
  | .nothing _ => none

end Building

/-- The tree of a list of tokens that make up exactly one value. -/
def ofTokens? (tokens : List JsonToken) : Option Raw := do
  let last ← tokens.foldlM Building.step? Building.start
  match last.expectation with
  | .nothing result => some result
  | _ => none

/-- The tree of a text that holds exactly one well-formed value. -/
def ofText? (text : String) : Option Raw :=
  (JsonToken.scan? text.toList).bind ofTokens?

/-- The string that units stand for. -/
def text? (units : List TextUnit) : Option String :=
  (TextUnit.decode? units).map String.ofList

mutual

/-- The value of a tree, the last of a repeated key winning. -/
def value? : Raw → Option Json
  | .null => some .null
  | .bool value => some (.bool value)
  | .number literal => literal.value?.map .number
  | .string units => (text? units).map .string
  | .array items => (itemValues? items).map .array
  | .object members => (memberValues? members).map ofMembers

/-- The values of items. -/
def itemValues? : List Raw → Option (List Json)
  | [] => some []
  | item :: rest => do
      let value ← value? item
      let values ← itemValues? rest
      return value :: values

/-- The keys and values of members, in the order of the text. -/
def memberValues? : List (List TextUnit × Raw) → Option (List (String × Json))
  | [] => some []
  | (units, member) :: rest => do
      let key ← text? units
      let value ← value? member
      let values ← memberValues? rest
      return (key, value) :: values

end

/-- What a reader knows of a value: nothing further, or the fields of a record in order. -/
inductive Outline where
  | any
  | record (fields : List (String × Outline))

/-- The outline of a field, if the record has it. -/
def Outline.field? (key : String) : List (String × Outline) → Option Outline
  | [] => none
  | (name, outline) :: rest => if name = key then some outline else field? key rest

mutual

/-- The value of the part of a tree that an outline knows.  A field given twice, a key or a known
part without meaning and an array longer than the record are refused. -/
def restrict? : Outline → Raw → Option Json
  | .record fields, .object members => do
      let known ← restrictMembers? fields members
      if (known.map Prod.fst).Nodup then some (ofMembers known) else none
  | .record fields, .array items => (restrictItems? fields items).map .array
  | .record _, .null => some .null
  | .record _, .bool value => some (.bool value)
  | .record _, .number literal => value? (.number literal)
  | .record _, .string units => value? (.string units)
  | .any, raw => value? raw

/-- The known members of an object. -/
def restrictMembers? (fields : List (String × Outline)) :
    List (List TextUnit × Raw) → Option (List (String × Json))
  | [] => some []
  | (units, member) :: rest => do
      let key ← text? units
      match Outline.field? key fields with
      | some outline => do
          let value ← restrict? outline member
          let values ← restrictMembers? fields rest
          return (key, value) :: values
      | none => restrictMembers? fields rest

/-- The fields of a record given as an array. -/
def restrictItems? : List (String × Outline) → List Raw → Option (List Json)
  | _, [] => some []
  | [], _ :: _ => none
  | (_, outline) :: fields, item :: rest => do
      let value ← restrict? outline item
      let values ← restrictItems? fields rest
      return value :: values

end

end Raw

/-- The value of a text that holds exactly one well-formed value. -/
def ofText? (text : String) : Option Json :=
  (Raw.ofText? text).bind Raw.value?

end Json

end RoomHistory
