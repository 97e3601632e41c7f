import RecordFilter.Json.Token

/-!
# `RecordFilter.Json.Reader`: JSON values from text

`Json.ofText?` builds the value of a text from its tokens. The machine keeps the containers that
are open, the innermost first. A container at depth 128 or deeper, and an object with a key that
has no text, are unreadable; the text around them is read on.
-/

set_option autoImplicit false

namespace RecordFilter.Json

/-- Containers are readable up to this many levels. -/
def depthLimit : Nat :=
  127

/-- An open container, with its items or members in reverse. An object also keeps whether all
its keys have a text so far, and the key of the member being read. -/
inductive Frame where
  | array (items : List Json)
  | object (members : List (String × Json)) (hasTexts : Bool) (key : String)

/-- What can come next. -/
inductive Expected where
  | value
  | valueOrClose
  | key
  | keyOrClose
  | colon
  | commaOrClose
  | nothing (result : Json)

/-- The open containers and what can come next. -/
structure Building where
  frames : List Frame
  expected : Expected

/-- Puts a finished value where it belongs. -/
def Building.place (frames : List Frame) (j : Json) : Building :=
  match frames with
  | [] => ⟨[], .nothing j⟩
  | .array items :: outer => ⟨.array (j :: items) :: outer, .commaOrClose⟩
  | .object members hasTexts key :: outer =>
    ⟨.object ((key, j) :: members) hasTexts key :: outer, .commaOrClose⟩

/-- The value of a container that closes below the given number of open ones. -/
def closed (level : Nat) (readable : Bool) (j : Json) : Json :=
  if readable && decide (level < depthLimit) then j else .unreadable

/-- Begins a value with its first token. -/
def Building.begin? (frames : List Frame) : Token → Option Building
  | .null => some (.place frames .null)
  | .bool b => some (.place frames (.bool b))
  | .number n => some (.place frames ((n.map .number).getD .unreadable))
  | .str s => some (.place frames ((s.map .str).getD .unreadable))
  | .openArray => some ⟨.array [] :: frames, .valueOrClose⟩
  | .openObject => some ⟨.object [] true "" :: frames, .keyOrClose⟩
  | _ => none

/-- Closes the innermost container. -/
def Building.close? (frames : List Frame) : Token → Option Building
  | .closeArray =>
    match frames with
    | .array items :: outer =>
      some (.place outer (closed outer.length true (.array items.reverse)))
    | _ => none
  | .closeObject =>
    match frames with
    | .object members hasTexts _ :: outer =>
      some (.place outer (closed outer.length hasTexts (.object members.reverse)))
    | _ => none
  | _ => none

/-- Reads the key of a member. -/
def Building.key? (frames : List Frame) : Token → Option Building
  | .str s =>
    match frames with
    | .object members hasTexts _ :: outer =>
      some ⟨.object members (hasTexts && s.isSome) (s.getD "") :: outer, .colon⟩
    | _ => none
  | _ => none

/-- Reads a comma: the next item or member must follow. -/
def Building.comma? (frames : List Frame) : Option Building :=
  match frames with
  | .array items :: outer => some ⟨.array items :: outer, .value⟩
  | .object members hasTexts key :: outer => some ⟨.object members hasTexts key :: outer, .key⟩
  | [] => none

/-- Reads one token. -/
def Building.next? (b : Building) (t : Token) : Option Building :=
  match b.expected, t with
  | .value, t => begin? b.frames t
  | .valueOrClose, .closeArray => close? b.frames t
  | .valueOrClose, t => begin? b.frames t
  | .key, t => key? b.frames t
  | .keyOrClose, .closeObject => close? b.frames t
  | .keyOrClose, t => key? b.frames t
  | .colon, .colon => some ⟨b.frames, .value⟩
  | .colon, _ => none
  | .commaOrClose, .comma => comma? b.frames
  | .commaOrClose, t => close? b.frames t
  | .nothing _, _ => none

/-- The value that the tokens spell. -/
def ofTokens? (tokens : List Token) : Option Json := do
  let b ← tokens.foldlM Building.next? ⟨[], .value⟩
  match b.expected with
  | .nothing j => some j
  | _ => none

/-- The value that the text spells. -/
def ofText? (text : String) : Option Json :=
  (tokens? text).bind ofTokens?

end RecordFilter.Json
