import TableReplica.Json.Token

/-!
# Documents as they are written

The second stage of reading JSON text. A `Source` keeps what a `Json` value leaves out: members in
the order of the text, members that share a name, and parts that are well-formed and yet have no
value (numbers beyond the greatest real, strings with half of a surrogate pair, containers nested
too deep). A reader that skips a part never notices that it has no value; a reader that wants the
value of the whole gets none (`Source.toJson?`).
-/

namespace TableReplica

/-- A document as it is written. -/
inductive Source where
  | null
  | bool (b : Bool)
  | number (n : Number)
  | string (s : String)
  | array (items : List Source)
  | object (members : List (String × Source))
  /-- A well-formed part without a value. -/
  | unreadable

namespace Source

instance : Inhabited Source := ⟨null⟩

/-- Containers may be nested this deep; deeper ones have no value. -/
def deepest : Nat := 127

mutual

/-- The value of a document, if all of its parts have one. -/
def toJson? : Source → Option Json
  | .null => some .null
  | .bool b => some (.bool b)
  | .number n => some (.number n)
  | .string s => some (.string s)
  | .array items => (itemsToJson? items).map .array
  | .object members => (membersToJson? members).map .ofMembers
  | .unreadable => none

/-- The values of a list of documents. -/
def itemsToJson? : List Source → Option (List Json)
  | [] => some []
  | item :: rest => do return (← toJson? item) :: (← itemsToJson? rest)

/-- The values of a list of members. -/
def membersToJson? : List (String × Source) → Option (List (String × Json))
  | [] => some []
  | (name, value) :: rest => do return (name, ← toJson? value) :: (← membersToJson? rest)

end

mutual

/-- The document that writes a value. -/
def ofJson : Json → Source
  | .null => .null
  | .bool b => .bool b
  | .number n => .number n
  | .string s => .string s
  | .array items => .array (ofItems items)
  | .object members => .object (ofMembers members)

/-- The documents that write a list of values. -/
def ofItems : List Json → List Source
  | [] => []
  | item :: rest => ofJson item :: ofItems rest

/-- The members that write a list of members. -/
def ofMembers : List (String × Json) → List (String × Source)
  | [] => []
  | (name, value) :: rest => (name, ofJson value) :: ofMembers rest

end

/-! ## Reading text -/

/-- A container that has been opened and not closed, with what it holds so far, last first. -/
inductive Frame where
  | items (before : List Source)
  /-- An object, and the name of the member whose value comes next or came last. -/
  | members (before : List (Option String × Source)) (name : Option String)

/-- What may follow inside the innermost open container. -/
inductive Expected where
  | value
  | valueOrEnd
  | name
  | nameOrEnd
  | colon
  | commaOrEnd

/-- How far a document has been read: it is complete, or containers are open, innermost first. -/
inductive Progress where
  | complete (document : Source)
  | within (frames : List Frame) (expected : Expected)

/-- Goes on behind a value. -/
def Progress.behind (value : Source) : List Frame → Progress
  | [] => .complete value
  | .items before :: outer => .within (.items (value :: before) :: outer) .commaOrEnd
  | .members before name :: outer =>
    .within (.members ((name, value) :: before) name :: outer) .commaOrEnd

/-- The object of these members; it has no value if one of its names has none. -/
def objectOf (members : List (Option String × Source)) : Source :=
  match members.mapM fun (name, value) => name.map (·, value) with
  | some members => .object members
  | none => .unreadable

/-- Closes the innermost container. -/
def Progress.close (frame : Frame) (outer : List Frame) : Progress :=
  let document :=
    match frame with
    | .items before => .array before.reverse
    | .members before _ => objectOf before.reverse
  behind (if outer.length < deepest then document else .unreadable) outer

/-- The document that a single token writes. -/
def ofToken? : Token → Option Source
  | .mark _ => none
  | .text s => some ((s.map .string).getD .unreadable)
  | .number n => some ((n.map .number).getD .unreadable)
  | .null => some .null
  | .bool b => some (.bool b)

/-- Goes on where a value begins. -/
def Progress.begin? (frames : List Frame) : Token → Option Progress
  | .mark '[' => some (.within (.items [] :: frames) .valueOrEnd)
  | .mark '{' => some (.within (.members [] none :: frames) .nameOrEnd)
  | token => (ofToken? token).map (behind · frames)

/-- Goes on by one token. -/
def Progress.step? (progress : Progress) (token : Token) : Option Progress :=
  match progress with
  | .complete _ => none
  | .within frames expected =>
    match expected, frames, token with
    | .valueOrEnd, .items before :: outer, .mark ']' => some (close (.items before) outer)
    | .nameOrEnd, .members before name :: outer, .mark '}' =>
      some (close (.members before name) outer)
    | .commaOrEnd, .items before :: outer, .mark ']' => some (close (.items before) outer)
    | .commaOrEnd, .members before name :: outer, .mark '}' =>
      some (close (.members before name) outer)
    | .commaOrEnd, .items before :: outer, .mark ',' =>
      some (.within (.items before :: outer) .value)
    | .commaOrEnd, .members before name :: outer, .mark ',' =>
      some (.within (.members before name :: outer) .name)
    | .name, .members before _ :: outer, .text s
    | .nameOrEnd, .members before _ :: outer, .text s =>
      some (.within (.members before s :: outer) .colon)
    | .colon, _, .mark ':' => some (.within frames .value)
    | .value, _, _ | .valueOrEnd, _, _ => begin? frames token
    | _, _, _ => none

/-- Reads a document, if the text is well-formed. -/
def read? (text : String) : Option Source := do
  let tokens ← Token.scan? .between text.toList
  match ← tokens.foldlM Progress.step? (.within [] .value) with
  | .complete document => some document
  | .within _ _ => none

end Source

/-- The value that a JSON text writes. -/
def Json.read? (text : String) : Option Json := (Source.read? text).bind Source.toJson?

end TableReplica
