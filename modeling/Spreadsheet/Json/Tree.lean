import Spreadsheet.Json.Token

/-!
# JSON trees

The tree of a JSON text is built token by token, with the arrays and objects that are still open in
a list, so that the depth of a text is bounded by nothing but its length.
-/

namespace Spreadsheet

/-- What a JSON text says. A string or a key has no text if half a surrogate pair stands alone in
it; the members of an object keep their order, and a key may come twice. -/
inductive JsonTree where
  | null
  | bool (b : Bool)
  | number (text : List Char)
  | string (text : Option String)
  | array (items : List JsonTree)
  | object (members : List (Option String × JsonTree))

namespace JsonTree

/-- An open array with its items, or an open object with its members and the key of the next one;
in both the latest comes first. -/
inductive Frame where
  | array (items : List JsonTree)
  | object (members : List (Option String × JsonTree)) (key : Option String)

/-- What has to come next. The innermost open array or object comes first. -/
inductive Reading where
  /-- A value. -/
  | value (outer : List Frame)
  /-- The first item of an array, or the end of the array. -/
  | firstItem (outer : List Frame)
  /-- A comma or the end of an array. -/
  | afterItem (items : List JsonTree) (outer : List Frame)
  /-- The first key of an object, or the end of the object. -/
  | firstKey (outer : List Frame)
  /-- A key. -/
  | nextKey (members : List (Option String × JsonTree)) (outer : List Frame)
  /-- The colon between a key and its value. -/
  | colon (members : List (Option String × JsonTree)) (key : Option String) (outer : List Frame)
  /-- A comma or the end of an object. -/
  | afterMember (members : List (Option String × JsonTree)) (outer : List Frame)
  /-- Nothing. -/
  | done (tree : JsonTree)

namespace Reading

/-- Puts a finished value into the innermost open array or object. -/
def close (tree : JsonTree) : List Frame → Reading
  | [] => .done tree
  | .array items :: outer => .afterItem (tree :: items) outer
  | .object members key :: outer => .afterMember ((key, tree) :: members) outer

/-- Reads the first token of a value. -/
def openValue (outer : List Frame) : JsonToken → Option Reading
  | .null => some (close .null outer)
  | .bool b => some (close (.bool b) outer)
  | .number text => some (close (.number text) outer)
  | .string text => some (close (.string text) outer)
  | .leftBracket => some (.firstItem outer)
  | .leftBrace => some (.firstKey outer)
  | _ => none

/-- Reads one token, unless it may not come next. -/
def step : Reading → JsonToken → Option Reading
  | .value outer, token => openValue outer token
  | .firstItem outer, .rightBracket => some (close (.array []) outer)
  | .firstItem outer, token => openValue (.array [] :: outer) token
  | .afterItem items outer, .comma => some (.value (.array items :: outer))
  | .afterItem items outer, .rightBracket => some (close (.array items.reverse) outer)
  | .firstKey outer, .rightBrace => some (close (.object []) outer)
  | .firstKey outer, .string key => some (.colon [] key outer)
  | .nextKey members outer, .string key => some (.colon members key outer)
  | .colon members key outer, .colon => some (.value (.object members key :: outer))
  | .afterMember members outer, .comma => some (.nextKey members outer)
  | .afterMember members outer, .rightBrace => some (close (.object members.reverse) outer)
  | _, _ => none

end Reading

/-- The tree of some tokens, if they are those of one value. -/
def ofTokens? (tokens : List JsonToken) : Option JsonTree :=
  match tokens.foldlM Reading.step (.value []) with
  | some (.done tree) => some tree
  | _ => none

/-- The tree of a text, if it is a JSON text. -/
def ofText? (s : String) : Option JsonTree :=
  (JsonToken.ofText? s).bind ofTokens?

end JsonTree

end Spreadsheet
