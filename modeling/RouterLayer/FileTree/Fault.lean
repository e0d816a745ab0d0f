set_option autoImplicit false

namespace RouterLayer.FileTree

inductive Fault
  | missing | occupied | notDirectory | isDirectory | tooManyLinks | tooLong | unencodable | zeroByte
  deriving DecidableEq, Repr

end RouterLayer.FileTree
