import RouterLayer.Text.Split

/-!
Paths: a root and the names that follow it. Reading a path drops empty names and single dots and
keeps double dots; `normal` resolves these as far as the names before them allow.
-/

set_option autoImplicit false

namespace RouterLayer

abbrev Segment := Text

/-- The slashes in front of a path. Exactly two of them are a root of their own, more are one. -/
inductive Root
  | none | single | double
  deriving DecidableEq, Repr

def Root.text : Root → Text
  | .none => ""
  | .single => "/"
  | .double => "//"

structure Path where
  root : Root
  segments : List Segment
  deriving DecidableEq, Repr

namespace Path

def here : Segment := "."

def parent : Segment := ".."

def isName (s : Segment) : Bool := s ≠ [] && s ≠ here

def rootOf : Text → Root
  | .char '/' :: .char '/' :: .char '/' :: _ => .single
  | .char '/' :: .char '/' :: _ => .double
  | .char '/' :: _ => .single
  | _ => .none

def ofText (s : Text) : Path := ⟨rootOf s, (Text.splitAll '/' s).filter isName⟩

def isAbsolute (p : Path) : Bool := p.root ≠ .none

def text (p : Path) : Text :=
  if p.root = .none && p.segments.isEmpty then here
  else p.root.text ++ Text.joinWith '/' p.segments

def join (p q : Path) : Path :=
  if q.isAbsolute then q else ⟨p.root, p.segments ++ q.segments⟩

def enclosing (p : Path) : Path := ⟨p.root, p.segments.dropLast⟩

/-- Adds one name to a stack of names, the last at the head. A double dot takes the name below it
away; it vanishes at the root and stays in front of a relative path. -/
def pushSegment (rooted : Bool) (stack : List Segment) (s : Segment) : List Segment :=
  if s = parent then
    match stack with
    | [] => if rooted then [] else [parent]
    | top :: rest => if top = parent then parent :: top :: rest else rest
  else s :: stack

def resolveSegments (rooted : Bool) (segments : List Segment) : List Segment :=
  (segments.foldl (pushSegment rooted) []).reverse

def normal (p : Path) : Path := ⟨p.root, resolveSegments p.isAbsolute p.segments⟩

def absoluteSegments (cwd p : Path) : List Segment :=
  resolveSegments true ((cwd.join p).segments.filter isName)

theorem join_of_isAbsolute (p q : Path) (h : q.isAbsolute = true) : p.join q = q := by
  simp [join, h]

theorem segments_join_of_relative (p q : Path) (h : q.isAbsolute = false) :
    (p.join q).segments = p.segments ++ q.segments := by
  simp [join, h]

end Path

end RouterLayer
