import RouterLayer.Text.Quoted

set_option autoImplicit false

namespace RouterLayer.Delegate

/-- The first part of a module's dotted name that is not there. A part below a module that holds
no modules is reported with that module. -/
structure MissingModule where
  name : Text
  plainParent : Option Text
  deriving DecidableEq, Repr

def MissingModule.text (m : MissingModule) : Text :=
  "No module named " ++ Text.quoted m.name ++
    match m.plainParent with
    | some parent => "; " ++ Text.quoted parent ++ " is not a package"
    | none => []

inductive Fault
  | malformed (reference : Text)
  | noModule (name : Text) (missing : MissingModule)
  | noAttribute (module path : Text)
  | notCallable (reference : Text)
  deriving DecidableEq, Repr

def Fault.message : Fault → Text
  | .malformed reference =>
    "Delegate reference " ++ Text.quoted reference ++ " must look like 'package.module:callable'"
  | .noModule name missing =>
    "Cannot import delegate module " ++ Text.quoted name ++ ": " ++ missing.text
  | .noAttribute module path => Text.quoted module ++ " has no attribute " ++ Text.quoted path
  | .notCallable reference => "Delegate " ++ Text.quoted reference ++ " is not callable"

end RouterLayer.Delegate
