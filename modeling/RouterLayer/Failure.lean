import RouterLayer.Delegate.Fault
import RouterLayer.Document.Fault
import RouterLayer.FileTree.Fault
import RouterLayer.Options.Problem

set_option autoImplicit false

namespace RouterLayer

inductive Failure
  | options (problems : List Options.Problem)
  | document (fault : Document.Fault)
  | noClient (providers : List Text)
  | collision (key first second : Text)
  | delegateReference (fault : Delegate.Fault)
  | delegateRaised (message : Text)
  | unknownOperation (name : Text)
  | unknownAction (name : Text)
  | noTarget
  | longInteger (digits : Nat)
  | deepNesting
  | wrongKind
  | notText
  | undecodable
  | unencodable
  | files (fault : FileTree.Fault)
  deriving DecidableEq, Repr

namespace Failure

/-- The failures that the program foresees; the others are faults of an input that nobody checked
or of the surroundings. -/
def isForeseen : Failure → Bool
  | .options _ | .document _ | .noClient _ | .collision .. | .delegateReference _ => true
  | _ => false

def message? : Failure → Option Text
  | .options problems =>
    some ("Invalid options passed: " ++ List.intercalate "; " (problems.map (·.text)))
  | .document fault => some fault.message
  | .noClient providers =>
    some ("Could not find a prisma-client-js generator among the declared generators (declared: " ++
      (if providers.isEmpty then ("none" : Text) else List.intercalate ", " providers) ++
      "); entity types cannot be imported")
  | .collision key first second =>
    some ("Entities " ++ Text.quoted first ++ " and " ++ Text.quoted second ++
      " both resolve to " ++ Text.quoted key ++ " in the app router")
  | .delegateReference fault => some fault.message
  | .delegateRaised message => some message
  | .unknownOperation name => some (Text.quoted name ++ " is not a valid ModelOperation")
  | .unknownAction name => some (Text.quoted name ++ " is not a valid ModelAction")
  | .noTarget => some "no path specified"
  | .longInteger digits => some (Json.integerTooLongText digits)
  | .files .zeroByte => some "embedded null byte"
  | .deepNesting | .wrongKind | .notText | .undecodable | .unencodable | .files _ => none

end Failure

end RouterLayer
