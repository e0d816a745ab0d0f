import RouterLayer.FileTree.Basic
import RouterLayer.Sink.Basic

set_option autoImplicit false

namespace RouterLayer

/-- The tree that is written to, and the files that wait to be saved. -/
structure FileSink where
  tree : FileTree
  pending : OrderedMap Text
  deriving DecidableEq, Repr

namespace FileSink

/-- The path of a file of the sink; an absolute path leaves the directory of the sink. -/
def pathOf (root : Path) (path : Text) : Path := root.join (Path.ofText path)

def reset (root : Path) (s : FileSink) : Stepped FileSink :=
  let made := s.tree.ensureDirectories root
  match made.outcome with
  | .error e => ⟨⟨made.tree, s.pending⟩, .error (.files e)⟩
  | .ok () =>
    let emptied := made.tree.emptyDirectory root
    match emptied.outcome with
    | .ok () => ⟨⟨emptied.tree, []⟩, .ok ()⟩
    | .error e => ⟨⟨emptied.tree, s.pending⟩, .error (.files e)⟩

def createFile (s : FileSink) (path content : Text) : FileSink :=
  ⟨s.tree, s.pending.put path content⟩

def saveAll (root : Path) (tree : FileTree) : List (Text × Text) → FileTree.Changed
  | [] => ⟨tree, .ok ()⟩
  | (path, content) :: rest =>
    let changed := tree.writeBelow (pathOf root path) content
    match changed.outcome with
    | .error e => ⟨changed.tree, .error e⟩
    | .ok () => saveAll root changed.tree rest

/-- What waits goes on waiting if a file fails. -/
def save (root : Path) (s : FileSink) : Stepped FileSink :=
  let changed := saveAll root s.tree s.pending
  match changed.outcome with
  | .ok () => ⟨⟨changed.tree, []⟩, .ok ()⟩
  | .error e => ⟨⟨changed.tree, s.pending⟩, .error (.files e)⟩

def sink (root : Path) : Sink FileSink where
  reset := reset root
  createFile := createFile
  save := save root

end FileSink

end RouterLayer
