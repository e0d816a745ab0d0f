import RouterLayer.FileTree.Fault
import RouterLayer.Path.Basic
import RouterLayer.Text.Bytes

set_option autoImplicit false

namespace RouterLayer.FileTree

/-- The last name is empty when a slash closes the path; such a path leads to a directory only. -/
structure Route where
  absolute : Bool
  names : List Segment
  deriving DecidableEq, Repr

namespace Route

def longestPath : Nat := 4095

def longestName : Nat := 255

def isTooLong (name : Segment) : Bool := (name.bytes?.any fun bytes => longestName < bytes.length)

/-- The names between the slashes. Slashes that follow one another are one. -/
def namesOf (s : Text) : List Segment :=
  let pieces := (Text.splitAll '/' s).map Text.canonical
  pieces.dropLast.filter (· ≠ []) ++ pieces.getLast?.toList

def ofText (s : Text) : Except Fault Route :=
  match s.bytes? with
  | none => .error .unencodable
  | some bytes =>
    if bytes.contains 0 then .error .zeroByte
    else if bytes.isEmpty then .error .missing
    else if longestPath < bytes.length then .error .tooLong
    else .ok ⟨s.head? = some '/', namesOf s⟩

end Route

end RouterLayer.FileTree
