import RouterLayer.Operation
import RouterLayer.Text.Quoted

set_option autoImplicit false

namespace RouterLayer.Options

inductive Flaw
  | unreadableBoolean | notBoolean | notText | brokenText | blankMiddleware | blankPath | notList
  | unknownAction
  deriving DecidableEq, Repr

def alternatives : List Text → Text
  | [] => []
  | [last] => last
  | [next, last] => next ++ " or " ++ last
  | first :: rest => first ++ ", " ++ alternatives rest

def Flaw.text : Flaw → Text
  | .unreadableBoolean => "Input should be a valid boolean, unable to interpret input"
  | .notBoolean => "Input should be a valid boolean"
  | .notText => "Input should be a valid string"
  | .brokenText =>
    "Input should be a valid string, unable to parse raw data as a unicode string"
  | .blankMiddleware => "Value error, withMiddleware must be true, false or a module path"
  | .blankPath => "Value error, path must not be empty"
  | .notList => "Input should be a valid tuple"
  | .unknownAction =>
    "Input should be " ++ alternatives (Action.all.map fun a => Text.quoted a.name)

/-- A flaw and the place of the value that has it: the key of the option as it was given, and
what follows within the option. -/
structure Problem where
  location : List Text
  flaw : Flaw
  deriving DecidableEq, Repr

def Problem.text (p : Problem) : Text :=
  List.intercalate "." p.location ++ ": " ++ p.flaw.text

end RouterLayer.Options
