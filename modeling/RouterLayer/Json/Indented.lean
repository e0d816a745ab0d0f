import RouterLayer.Json.Basic
import RouterLayer.Number.Shortest
import RouterLayer.Text.Quoted

set_option autoImplicit false

namespace RouterLayer.Json

/-- The numbers of generated objects: as in messages, with the words of JSON extended by the two
names that scripts know. -/
def numberLiteral : NumberFormat := ⟨-3, 16, 2, "Infinity", "NaN"⟩

def codeEscape (c : CodePoint) : Text :=
  if c.code < 0x10000 then "\\u" ++ Text.hexDigits 4 c.code
  else
    let offset := c.code - 0x10000
    "\\u" ++ Text.hexDigits 4 (0xD800 + offset / 0x400) ++
      "\\u" ++ Text.hexDigits 4 (0xDC00 + offset % 0x400)

def stringPoint (c : CodePoint) : Text :=
  if c = '"' then ['\\', '"']
  else if c = '\\' then ['\\', '\\']
  else if c = '\n' then ['\\', 'n']
  else if c = '\r' then ['\\', 'r']
  else if c = '\t' then ['\\', 't']
  else if c = '\x08' then ['\\', 'b']
  else if c = '\x0c' then ['\\', 'f']
  else if 0x20 ≤ c.code && c.code < 0x7F then [c]
  else codeEscape c

def stringLiteral (s : Text) : Text := .char '"' :: s.flatMap stringPoint ++ [.char '"']

def newLine (level : Nat) : Text := .char '\n' :: List.replicate (2 * level) (.char ' ')

mutual
def indented (level : Nat) : Json → Text
  | .null => "null"
  | .bool b => if b then "true" else "false"
  | .int n => toString n
  | .float x => numberLiteral.write x
  | .str s => stringLiteral s
  | .list [] => "[]"
  | .list (item :: items) =>
    "[" ++ newLine (level + 1) ++ indented (level + 1) item ++
      indentedItems (level + 1) items ++ newLine level ++ "]"
  | .object [] => "\x7b\x7d"
  | .object ((k, v) :: members) =>
    "\x7b" ++ newLine (level + 1) ++ stringLiteral k ++ ": " ++ indented (level + 1) v ++
      indentedMembers (level + 1) members ++ newLine level ++ "\x7d"

def indentedItems (level : Nat) : List Json → Text
  | [] => []
  | item :: items => "," ++ newLine level ++ indented level item ++ indentedItems level items

def indentedMembers (level : Nat) : List (Text × Json) → Text
  | [] => []
  | (k, v) :: members =>
    "," ++ newLine level ++ stringLiteral k ++ ": " ++ indented level v ++
      indentedMembers level members
end

end RouterLayer.Json
