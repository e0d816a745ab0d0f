import RouterLayer.Command.Run

set_option autoImplicit false

namespace RouterLayer.Disk

/-- The text of what the disk takes; a surrogate has no form there and is left out. -/
def stringOf (s : Text) : String := String.ofList (s.filterMap (·.char?))

def placeText (place : Place) : String := stringOf (Path.mk .single place).text

def readContent (path : String) : IO String :=
  try IO.FS.readFile path catch _ => return ""

/-- What stands at a place. A link leads to where the disk says that it ends. -/
def entryAt? (place : Place) : IO (Option FileTree.Entry) := do
  let file := (← IO.currentDir) / placeText place
  try
    match (← file.symlinkMetadata).type with
    | .dir => return some .directory
    | .symlink =>
      let target ← IO.FS.realPath file
      return some (.link ⟨true, (Path.ofText target.toString).segments⟩)
    | _ => return some (.file (← readContent (placeText place)))
  catch _ => return none

partial def collect (deep : Bool) (tree : FileTree) (place : Place) : IO FileTree := do
  match ← entryAt? place with
  | none => return tree
  | some entry =>
    let tree := if place.isEmpty then tree else tree.set place entry
    if deep && entry = .directory then
      let mut tree := tree
      for child in ← ((← IO.currentDir) / placeText place).readDir do
        tree ← collect deep tree (place ++ [Text.ofString child.fileName])
      return tree
    else return tree

def collectPlace (deep : Bool) (tree : FileTree) (place : Place) : IO FileTree := do
  let mut tree := tree
  for length in List.range place.length do
    tree ← collect false tree (place.take length)
  tree ← collect deep tree place
  match tree.find? place with
  | some (.link target) =>
    for length in List.range target.names.length do
      tree ← collect false tree (target.names.take length)
    collect deep tree target.names
  | _ => return tree

def collectNamed (cwd : Path) (arguments : List Text) : IO FileTree := do
  let place (path : Text) : Place := cwd.absoluteSegments (Path.ofText path)
  let mut tree ← collectPlace false (FileTree.empty cwd.segments) cwd.segments
  match Command.readWords arguments with
  | .error _ => return tree
  | .ok words =>
    for path in words.arguments.take 1 ++ words.valuesOf .config do
      tree ← collectPlace false tree (place path)
    for path in (words.valueOf? .output).toList do
      tree ← collectPlace true tree (place path)
    return tree

/-- Whether what stood at a place has to go before something else can stand there. -/
def isObstacle (before after : Option FileTree.Entry) : Bool :=
  match before, after with
  | none, _ => false
  | some (.file _), some (.file _) => false
  | b, a => b ≠ a

def remove (place : Place) (entry : FileTree.Entry) : IO Unit :=
  match entry with
  | .directory => IO.FS.removeDir (placeText place)
  | _ => IO.FS.removeFile (placeText place)

def create (place : Place) (entry : FileTree.Entry) : IO Unit :=
  match entry with
  | .directory => IO.FS.createDir (placeText place)
  | .file content => IO.FS.writeFile (placeText place) content
  | .link _ => return ()

def outerFirst (entries : List (Place × FileTree.Entry)) : List (Place × FileTree.Entry) :=
  entries.mergeSort fun a b => decide (a.1.length ≤ b.1.length)

def change (before after : FileTree) : IO Unit := do
  let gone := before.entries.filter fun e => isObstacle (some e.2) (after.find? e.1)
  for e in (outerFirst gone).reverse do
    remove e.1 e.2
  let fresh := after.entries.filter fun e => before.find? e.1 ≠ some e.2
  for e in outerFirst fresh do
    create e.1 e.2

/-- The width of the screen, as the environment gives it, with two columns to spare. -/
def screenWidth : IO Nat := do
  let columns := ((← IO.getEnv "COLUMNS").bind (·.toNat?)).getD 80
  return max (min columns 80 - 2) 50

end RouterLayer.Disk

open RouterLayer in
def main (arguments : List String) : IO UInt32 := do
  let cwd := Path.ofText (← IO.currentDir).toString
  let words := arguments.map Text.ofString
  let tree ← Disk.collectNamed cwd words
  let result := Command.run ⟨tree, cwd, []⟩ words (← Disk.screenWidth)
  Disk.change tree result.tree
  IO.eprint (Disk.stringOf result.stderr)
  match result.unforeseen with
  | some failure =>
    IO.eprintln (Disk.stringOf (failure.message?.getD "The run ended unexpectedly."))
  | none => pure ()
  IO.print (Disk.stringOf result.stdout)
  return UInt32.ofNat result.exitCode
