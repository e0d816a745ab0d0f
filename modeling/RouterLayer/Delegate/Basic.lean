import RouterLayer.Document
import RouterLayer.Options

set_option autoImplicit false

namespace RouterLayer

/-- What a delegate is told of the run. Only the policy starter learns where the context is. -/
structure RunContext where
  document : Document
  options : Options
  outputDir : Text
  contextPath : Option Text
  deriving DecidableEq, Repr

structure Delegate where
  name : Text
  run : RunContext → Except Text Unit

namespace Delegate

inductive Role
  | validation | policy
  deriving DecidableEq, Repr

def Role.name : Role → Text
  | .validation => "validation"
  | .policy => "policy"

end Delegate

structure Delegates where
  validation : Option Delegate
  policy : Option Delegate

def Delegates.none : Delegates := ⟨Option.none, Option.none⟩

end RouterLayer
