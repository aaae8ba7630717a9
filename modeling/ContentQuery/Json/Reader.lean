import ContentQuery.Json.Token

/-!
# Reading documents

The tokens of a text are put together to a tree from left to right. Where a token does not fit, all
that is open is closed around a broken leaf, and nothing more is read.
-/

namespace ContentQuery

namespace Json

/-- An array or an object in which a value is due; what it holds so far is kept last one first. -/
inductive Frame where
  | array (items : List Json)
  | member (members : List (Option String × Json)) (key : Option String)

/-- How far a text is read. -/
inductive Progress where
  /-- A value is due, or the end of an array that has no item yet. -/
  | value (first : Bool) (frames : List Frame)
  /-- An item was read. -/
  | afterItem (items : List Json) (frames : List Frame)
  /-- A key is due, or the end of an object that has no member yet. -/
  | key (first : Bool) (members : List (Option String × Json)) (frames : List Frame)
  /-- A key was read. -/
  | afterKey (members : List (Option String × Json)) (key : Option String) (frames : List Frame)
  /-- A member was read. -/
  | afterMember (members : List (Option String × Json)) (frames : List Frame)
  /-- The document was read. -/
  | complete (value : Json)
  /-- Something follows the document. -/
  | followed (value : Json)
  /-- The text is no document. -/
  | stopped (value : Json)

/-- A tree and whether nothing follows it in the text. -/
structure Document where
  value : Json
  isClean : Bool

/-- Closes frames around a value. -/
def enclose (value : Json) : List Frame → Json
  | [] => value
  | .array items :: frames => enclose (.array (value :: items).reverse) frames
  | .member members key :: frames => enclose (.object ((key, value) :: members).reverse) frames

namespace Progress

/-- Gives up where a value is due. -/
def stop (frames : List Frame) : Progress := stopped (enclose broken frames)

/-- Puts a value where it is due. -/
def place (v : Json) : List Frame → Progress
  | [] => complete v
  | .array items :: frames => afterItem (v :: items) frames
  | .member members k :: frames => afterMember ((k, v) :: members) frames

/-- Takes a token. -/
def take : Progress → Token → Progress
  | value _ frames, .leaf v => place v frames
  | value _ frames, .openArray => value true (.array [] :: frames)
  | value _ frames, .openObject => key true [] frames
  | value true (.array _ :: frames), .closeArray => place (.array []) frames
  | value _ frames, _ => stop frames
  | afterItem items frames, .comma => value false (.array items :: frames)
  | afterItem items frames, .closeArray => place (.array items.reverse) frames
  | afterItem items frames, _ => stop (.array items :: frames)
  | key _ members frames, .leaf (.text k) => afterKey members k frames
  | key true _ frames, .closeObject => place (.object []) frames
  | key _ members frames, _ => stop (.member members none :: frames)
  | afterKey members k frames, .colon => value false (.member members k :: frames)
  | afterKey members k frames, _ => stop (.member members k :: frames)
  | afterMember members frames, .comma => key false members frames
  | afterMember members frames, .closeObject => place (.object members.reverse) frames
  | afterMember members frames, _ => stop (.member members none :: frames)
  | complete v, _ => followed v
  | followed v, _ => followed v
  | stopped v, _ => stopped v

/-- The document at the end of the text. -/
def finish : Progress → Document
  | value _ frames => ⟨enclose broken frames, true⟩
  | afterItem items frames => ⟨enclose broken (.array items :: frames), true⟩
  | key _ members frames => ⟨enclose broken (.member members none :: frames), true⟩
  | afterKey members k frames => ⟨enclose broken (.member members k :: frames), true⟩
  | afterMember members frames => ⟨enclose broken (.member members none :: frames), true⟩
  | complete v => ⟨v, true⟩
  | followed v => ⟨v, false⟩
  | stopped v => ⟨v, true⟩

end Progress

/-- The document of a text. -/
def ofText (s : String) : Document :=
  ((tokens s).foldl Progress.take (.value false [])).finish

end Json

end ContentQuery
