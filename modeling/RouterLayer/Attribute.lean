import RouterLayer.OrderedMap
import RouterLayer.Text.Blank
import RouterLayer.Text.Case
import RouterLayer.Text.Split

set_option autoImplicit false

namespace RouterLayer

inductive ArgumentValue
  | bool (value : Bool)
  | text (value : Text)
  deriving DecidableEq, Repr

structure Attribute where
  name : Text
  arguments : OrderedMap ArgumentValue
  deriving DecidableEq, Repr

namespace Attribute

def marker : Text := "@@Gen."

def isQuote (c : CodePoint) : Bool := c = '"' || c = '\''

/-- Blanks around a value do not belong to it, and neither do the quotes within them. -/
def readValue (s : Text) : ArgumentValue :=
  let s := Text.trim isQuote (Text.strip s)
  if Text.lower s = "true" then .bool true
  else if Text.lower s = "false" then .bool false
  else .text s

/-- One argument at the front of a text: a key of letters, a colon, and everything up to the next
comma, which must not be empty. The number counts the code points that belong to it. -/
def argumentAt? (s : Text) : Option ((Text × ArgumentValue) × Nat) :=
  let key := s.takeWhile (·.isLetter)
  if key.isEmpty then none
  else
    match (s.dropWhile (·.isLetter)).dropWhile Text.isBlank with
    | .char ':' :: rest =>
      let value := rest.takeWhile fun c => c ≠ CodePoint.char ','
      if value.isEmpty then none
      else some ((key, readValue value), s.length - rest.length + value.length)
    | _ => none

/-- The arguments in a text, from left to right; `skip` code points belong to one that was read
already. -/
def argumentsFrom : Nat → Text → List (Text × ArgumentValue)
  | _, [] => []
  | skip + 1, _ :: s => argumentsFrom skip s
  | 0, c :: s =>
    match argumentAt? (c :: s) with
    | some (argument, length) => argument :: argumentsFrom (length - 1) s
    | none => argumentsFrom 0 s

def attributeAt? (s : Text) : Option (Attribute × Nat) :=
  if marker.isPrefixOf s then
    let rest := s.drop marker.length
    let name := rest.takeWhile (·.isLetter)
    if name.isEmpty then none
    else
      match rest.dropWhile (·.isLetter) with
      | .char '(' :: rest =>
        match Text.cut? ')' rest with
        | some (inner, after) =>
          some (⟨name, OrderedMap.ofEntries (argumentsFrom 0 inner)⟩, s.length - after.length)
        | none => none
      | _ => none
  else none

def attributesFrom : Nat → Text → List Attribute
  | _, [] => []
  | skip + 1, _ :: s => attributesFrom skip s
  | 0, c :: s =>
    match attributeAt? (c :: s) with
    | some (found, length) => found :: attributesFrom (length - 1) s
    | none => attributesFrom 0 s

def readAll (documentation : Text) : List Attribute := attributesFrom 0 documentation

def hides (a : Attribute) : Bool :=
  a.name = "model" && OrderedMap.find? a.arguments "hide" = some (.bool true)

end Attribute

end RouterLayer
