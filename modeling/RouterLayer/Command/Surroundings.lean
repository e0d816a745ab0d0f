import RouterLayer.Delegate.Registry
import RouterLayer.FileTree.Basic

set_option autoImplicit false

namespace RouterLayer.Command

structure Surroundings where
  tree : FileTree
  cwd : Path
  modules : List Delegate.Module

end RouterLayer.Command
