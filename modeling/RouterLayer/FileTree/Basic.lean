import RouterLayer.FileTree.Route

/-!
A tree of files, directories and symbolic links, as a map from places to entries, and the working
directory, in which relative paths begin. A place is the list of names from the top; the top itself
is a directory that is always there.
-/

set_option autoImplicit false

namespace RouterLayer

abbrev Place := List Segment

namespace FileTree

inductive Entry
  | file (content : String)
  | directory
  | link (target : Route)
  deriving DecidableEq, Repr

end FileTree

structure FileTree where
  cwd : Place
  entries : List (Place × FileTree.Entry)
  deriving DecidableEq, Repr

namespace FileTree

def empty (cwd : Place) : FileTree := ⟨cwd, []⟩

def find? (t : FileTree) (place : Place) : Option Entry :=
  if place.isEmpty then some .directory else t.entries.lookup place

def set (t : FileTree) (place : Place) (entry : Entry) : FileTree :=
  ⟨t.cwd, t.entries.filter (·.1 ≠ place) ++ [(place, entry)]⟩

def isBelow (place other : Place) : Bool := place.isPrefixOf other && place ≠ other

def erase (t : FileTree) (place : Place) : FileTree := ⟨t.cwd, t.entries.filter (·.1 ≠ place)⟩

def namesIn (t : FileTree) (place : Place) : List Segment :=
  t.entries.filterMap fun e => if e.1.dropLast = place then e.1.getLast? else none

/-- Removes everything below a place. Links are removed, not followed. -/
def clear (t : FileTree) (place : Place) : FileTree :=
  ⟨t.cwd, t.entries.filter fun e => !isBelow place e.1⟩

/-- What a path is followed for: the entry of its last name, even if that is a link; what this entry
leads to; or the content of a file, which may be made for it. -/
inductive Purpose
  | entry | target | content
  deriving DecidableEq, Repr

/-- Follows names from a place, one by one. Only the last name may lead to nothing. `onLink` goes on
at the target of a link. No file is made where a slash follows its name. -/
def walkWith (t : FileTree) (onLink : Place → List Segment → Except Fault Place)
    (purpose : Purpose) : Place → List Segment → Except Fault Place
  | place, [] => .ok place
  | place, name :: rest =>
    match t.find? place with
    | none => .error .missing
    | some (.file _) => .error .notDirectory
    | some (.link _) => .error .notDirectory
    | some .directory =>
      if name = [] || name = Path.here then walkWith t onLink purpose place rest
      else if name = Path.parent then walkWith t onLink purpose place.dropLast rest
      else if purpose = .content && rest = [[]] then .error .isDirectory
      else if Route.isTooLong name then .error .tooLong
      else
        match t.find? (place ++ [name]) with
        | some (.link target) =>
          if rest.isEmpty && purpose = .entry then .ok (place ++ [name])
          else onLink (if target.absolute then [] else place) (target.names ++ rest)
        | _ => walkWith t onLink purpose (place ++ [name]) rest

def walk (t : FileTree) (purpose : Purpose) : (links : Nat) → Place → List Segment →
    Except Fault Place
  | 0 => walkWith t (fun _ _ => .error .tooManyLinks) purpose
  | links + 1 => walkWith t (walk t purpose links) purpose

def linkLimit : Nat := 40

/-- Where a path leads. The place may be free, but the directory that it lies in is there. -/
def locate (t : FileTree) (purpose : Purpose) (path : Text) : Except Fault Place :=
  match Route.ofText path with
  | .error e => .error e
  | .ok route =>
    walk t purpose linkLimit (if route.absolute then [] else t.cwd) route.names

def lookUp (t : FileTree) (path : Text) : Except Fault Entry :=
  match t.locate .target path with
  | .error e => .error e
  | .ok place =>
    match t.find? place with
    | some entry => .ok entry
    | none => .error .missing

def isDirectory (t : FileTree) (path : Path) : Bool :=
  match t.lookUp path.text with
  | .ok .directory => true
  | _ => false

def makeDirectory (t : FileTree) (path : Path) : Except Fault FileTree :=
  match t.locate .entry path.text with
  | .error e => .error e
  | .ok place =>
    match t.find? place with
    | some _ => .error .occupied
    | none => .ok (t.set place .directory)

/-- The tree after an operation, which can be another one even if the operation failed. -/
structure Changed where
  tree : FileTree
  outcome : Except Fault Unit
  deriving Repr

def ensureDirectory (t : FileTree) (path : Path) : Changed :=
  match t.makeDirectory path with
  | .ok t => ⟨t, .ok ()⟩
  | .error e => ⟨t, if e ≠ .missing && t.isDirectory path then .ok () else .error e⟩

/-- Makes a directory with all that it lies in. The names come in reverse, the last one first. -/
def ensureDirectoriesUp (t : FileTree) (root : Root) : List Segment → Changed
  | [] => t.ensureDirectory ⟨root, []⟩
  | name :: above =>
    let path : Path := ⟨root, (name :: above).reverse⟩
    match t.makeDirectory path with
    | .error .missing =>
      let parents := ensureDirectoriesUp t root above
      match parents.outcome with
      | .error e => ⟨parents.tree, .error e⟩
      | .ok () => parents.tree.ensureDirectory path
    | _ => t.ensureDirectory path

def ensureDirectories (t : FileTree) (path : Path) : Changed :=
  t.ensureDirectoriesUp path.root path.segments.reverse

/-- Writes a file in a directory that is there. A link is written through. A text that cannot be
encoded leaves the file empty. -/
def write (t : FileTree) (path : Path) (content : Text) : Changed :=
  match t.locate .content path.text with
  | .error e => ⟨t, .error e⟩
  | .ok place =>
    match t.find? place, content.toString? with
    | some .directory, _ => ⟨t, .error .isDirectory⟩
    | _, some s => ⟨t.set place (.file s), .ok ()⟩
    | _, none => ⟨t.set place (.file ""), .error .unencodable⟩

def writeBelow (t : FileTree) (path : Path) (content : Text) : Changed :=
  let made := t.ensureDirectories path.enclosing
  match made.outcome with
  | .error e => ⟨made.tree, .error e⟩
  | .ok () => made.tree.write path content

/-- Makes a link at a free place. Where its target leads is found out only when it is followed. -/
def makeLink (t : FileTree) (path : Path) (target : Text) : Except Fault FileTree :=
  match Route.ofText target, t.locate .entry path.text with
  | .error e, _ => .error e
  | _, .error e => .error e
  | .ok target, .ok place =>
    match t.find? place with
    | some _ => .error .occupied
    | none => .ok (t.set place (.link target))

/-- Removes a file, a link, or a directory with all that it holds. A directory is emptied before its
path is followed once more to remove it; if the path leads through what the directory held, it leads
nowhere by then, and the empty directory stays. -/
def remove (t : FileTree) (path : Path) : Changed :=
  match t.locate .entry path.text with
  | .error e => ⟨t, .error e⟩
  | .ok place =>
    match t.find? place with
    | none => ⟨t, .error .missing⟩
    | some .directory =>
      let emptied := t.clear place
      match emptied.locate .entry path.text with
      | .error e => ⟨emptied, .error e⟩
      | .ok place => ⟨emptied.erase place, .ok ()⟩
    | some _ => ⟨t.erase place, .ok ()⟩

def removeEach (t : FileTree) (path : Path) : List Segment → Changed
  | [] => ⟨t, .ok ()⟩
  | name :: rest =>
    let removed := t.remove ⟨path.root, path.segments ++ [name]⟩
    match removed.outcome with
    | .error e => ⟨removed.tree, .error e⟩
    | .ok () => removed.tree.removeEach path rest

def emptyDirectory (t : FileTree) (path : Path) : Changed :=
  match t.locate .target path.text with
  | .error e => ⟨t, .error e⟩
  | .ok place => t.removeEach path (t.namesIn place)

def contentOf (t : FileTree) (place : Place) : Entry → Option String
  | .file content => some content
  | .directory => none
  | .link _ =>
    match t.lookUp (Path.mk .single place).text with
    | .ok (.file content) => some content
    | _ => none

def listing (t : FileTree) : List (Text × Option String) :=
  let below := t.entries.filter fun e => isBelow t.cwd e.1
  (below.map fun e =>
    (Text.joinWith '/' (e.1.drop t.cwd.length), t.contentOf e.1 e.2)).mergeSort
    fun a b => decide (a.1 ≤ b.1)

end FileTree

end RouterLayer
