import RouterLayer.Json.Basic
import RouterLayer.Number.Shortest
import RouterLayer.Text.Quoted

set_option autoImplicit false

namespace RouterLayer.Json

/-- Numbers are positional between a ten-thousandth and ten to the sixteenth. -/
def numberText : NumberFormat := ⟨-3, 16, 2, "inf", "nan"⟩

mutual
def display : Json → Text
  | .null => "None"
  | .bool b => if b then "True" else "False"
  | .int n => toString n
  | .float x => numberText.write x
  | .str s => Text.quoted s
  | .list items => "[" ++ displayItems items ++ "]"
  | .object members => "\x7b" ++ displayMembers members ++ "\x7d"

def displayItems : List Json → Text
  | [] => ""
  | [item] => item.display
  | item :: items => item.display ++ ", " ++ displayItems items

def displayMembers : List (Text × Json) → Text
  | [] => ""
  | [(k, v)] => Text.quoted k ++ ": " ++ v.display
  | (k, v) :: members => Text.quoted k ++ ": " ++ v.display ++ ", " ++ displayMembers members
end

def text : Json → Text
  | .str s => s
  | value => value.display

end RouterLayer.Json
