import Spreadsheet.Json.Tree

/-!
# Laid out JSON

A tree is written with every item and every member on a line of its own, indented by two spaces for
each array and object around it. An empty array or object stays on one line.
-/

namespace Spreadsheet.JsonTree

/-- The start of a line inside `depth` arrays and objects. -/
def newLine (depth : Nat) : List Char :=
  '\n' :: List.replicate (2 * depth) ' '

/-- A string or a key. If it has no text it is written with half a surrogate pair. -/
def writeText : Option String → List Char
  | some s => JsonString.write s
  | none => ['"', '\\', 'u', 'd', '8', '0', '0', '"']

mutual

/-- The tree inside `depth` arrays and objects, without the start of its line. -/
def layout (depth : Nat) : JsonTree → List Char
  | .null => ['n', 'u', 'l', 'l']
  | .bool true => ['t', 'r', 'u', 'e']
  | .bool false => ['f', 'a', 'l', 's', 'e']
  | .number text => text
  | .string text => writeText text
  | .array [] => ['[', ']']
  | .array items => '[' :: (layoutItems (depth + 1) items ++ newLine depth ++ [']'])
  | .object [] => ['{', '}']
  | .object members => '{' :: (layoutMembers (depth + 1) members ++ newLine depth ++ ['}'])

/-- The items of an array, with commas between them. -/
def layoutItems (depth : Nat) : List JsonTree → List Char
  | [] => []
  | [item] => newLine depth ++ layout depth item
  | item :: items => newLine depth ++ layout depth item ++ ',' :: layoutItems depth items

/-- The members of an object, with commas between them. -/
def layoutMembers (depth : Nat) : List (Option String × JsonTree) → List Char
  | [] => []
  | [(key, value)] => newLine depth ++ writeText key ++ [':', ' '] ++ layout depth value
  | (key, value) :: members =>
    newLine depth ++ writeText key ++ [':', ' '] ++ layout depth value ++
      ',' :: layoutMembers depth members

end

end Spreadsheet.JsonTree
