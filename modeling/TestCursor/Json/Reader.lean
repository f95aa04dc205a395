import TestCursor.Json.Token

/-!
# Reading JSON values

Tokens are read one by one. What was read so far is kept as the containers that are still open,
the innermost first, together with what may come next; so a value can be nested to any depth.
-/

namespace TestCursor

/-- A JSON value. Strings and keys without a text are those that an escape spoils. -/
inductive Json
  | null
  | bool (value : Bool)
  /-- A number, as it is spelled. -/
  | number (spelling : String)
  | string (text : Option String)
  | array (elements : List Json)
  | object (members : List (Option String × Json))
  deriving Inhabited

namespace Json

/-- A container that is still open, with its contents in reverse. -/
inductive Frame
  | array (elements : List Json)
  /-- An object whose next value belongs to `key`. -/
  | object (members : List (Option String × Json)) (key : Option String)

/-- What may come next. -/
inductive Expecting
  | value
  /-- The first element of an array, or its end. -/
  | elementOrEnd
  /-- The first key of an object, or its end. -/
  | keyOrEnd
  /-- A key of the object with these members. -/
  | key (members : List (Option String × Json))
  /-- The colon behind a key of the object with these members. -/
  | colon (members : List (Option String × Json)) (key : Option String)
  /-- A comma, or the end of the innermost container. -/
  | separator
  /-- Nothing: the value is complete. -/
  | nothing (value : Json)

/-- What was read so far. -/
structure Reader where
  /-- The open containers, the innermost first. -/
  frames : List Frame
  expecting : Expecting

namespace Reader

/-- Nothing was read. -/
def start : Reader := ⟨[], .value⟩

/-- A value was completed: it goes into the innermost open container. -/
def complete (frames : List Frame) (value : Json) : Reader :=
  match frames with
  | [] => ⟨[], .nothing value⟩
  | .array elements :: rest => ⟨.array (value :: elements) :: rest, .separator⟩
  | .object members key :: rest => ⟨.object ((key, value) :: members) none :: rest, .separator⟩

def beginValue (frames : List Frame) : Token → Option Reader
  | .null => some (complete frames .null)
  | .bool value => some (complete frames (.bool value))
  | .number spelling => some (complete frames (.number spelling))
  | .string text => some (complete frames (.string text))
  | .arrayOpen => some ⟨.array [] :: frames, .elementOrEnd⟩
  | .objectOpen => some ⟨frames, .keyOrEnd⟩
  | _ => none

def feed (reader : Reader) (token : Token) : Option Reader :=
  match reader.expecting, token with
  | .value, token => beginValue reader.frames token
  | .elementOrEnd, .arrayClose => some (complete reader.frames.tail (.array []))
  | .elementOrEnd, token => beginValue reader.frames token
  | .keyOrEnd, .objectClose => some (complete reader.frames (.object []))
  | .keyOrEnd, .string key => some ⟨reader.frames, .colon [] key⟩
  | .key members, .string key => some ⟨reader.frames, .colon members key⟩
  | .colon members key, .colon => some ⟨.object members key :: reader.frames, .value⟩
  | .separator, .comma =>
    match reader.frames with
    | .array _ :: _ => some ⟨reader.frames, .value⟩
    | .object members _ :: rest => some ⟨rest, .key members⟩
    | [] => none
  | .separator, .arrayClose =>
    match reader.frames with
    | .array elements :: rest => some (complete rest (.array elements.reverse))
    | _ => none
  | .separator, .objectClose =>
    match reader.frames with
    | .object members _ :: rest => some (complete rest (.object members.reverse))
    | _ => none
  | _, _ => none

/-- Read the tokens of a text, at most `fuel` of them. -/
def feedText : Nat → Reader → List Char → Option Reader
  | fuel, reader, text =>
    match text.dropWhile isBlank with
    | [] => some reader
    | c :: rest =>
      match fuel with
      | 0 => none
      | fuel + 1 =>
        match token? (c :: rest) with
        | none => none
        | some (token, after) =>
          match reader.feed token with
          | none => none
          | some next => feedText fuel next after

def value? (reader : Reader) : Option Json :=
  match reader.expecting with
  | .nothing value => some value
  | _ => none

end Reader

/-- The JSON value that a text spells. -/
def parse? (text : String) : Option Json :=
  (Reader.start.feedText text.toList.length text.toList).bind Reader.value?

def string? : Json → Option String
  | .string text => text
  | _ => none

/-- The value of a key among members. -/
def member? (name : String) : List (Option String × Json) → Option Json
  | [] => none
  | (key, value) :: rest => if key = some name then some value else member? name rest

def keyCount (name : String) (members : List (Option String × Json)) : Nat :=
  members.countP fun member => member.1 = some name

/-- The values of a record with the named fields: those of an object, in which every key has a
text and no field occurs twice, or the elements of an array in the order of the fields. A field
that is left out has no value; an array has no more elements than there are fields. -/
def record? (names : List String) : Json → Option (List (Option Json))
  | .object members =>
    if members.any fun member => member.1.isNone then none
    else if names.any fun name => decide (1 < keyCount name members) then none
    else some (names.map fun name => member? name members)
  | .array elements =>
    if elements.length ≤ names.length then
      some (elements.map some ++ List.replicate (names.length - elements.length) none)
    else none
  | _ => none

end Json

end TestCursor
