import RouterLayer.Path.Basic

set_option autoImplicit false

namespace RouterLayer.Path

def moduleExtensions : List Text := [".ts", ".tsx", ".js", ".mjs", ".cjs"]

def stem (s : Segment) : Segment :=
  match moduleExtensions.find? (·.isSuffixOf s) with
  | some extension => s.take (s.length - extension.length)
  | none => s

def mapLast (f : Segment → Segment) : List Segment → List Segment
  | [] => []
  | [s] => [f s]
  | s :: rest => s :: mapLast f rest

def dropExtension (p : Path) : Path := ⟨p.root, mapLast stem p.segments⟩

def stepsBetween : (source target : List Segment) → List Segment
  | a :: as, b :: bs =>
    if a = b then stepsBetween as bs else List.replicate (as.length + 1) parent ++ b :: bs
  | as, bs => List.replicate as.length parent ++ bs

def specifierText (steps : List Segment) : Text :=
  match steps with
  | [] => "./"
  | s :: _ => if s = parent then Text.joinWith '/' steps else "./" ++ Text.joinWith '/' steps

/-- The specifier of `target` in a file of the directory `source`. A relative target that is
nothing but an extension names no file and has none. -/
def specifier? (cwd source target : Path) : Option Text :=
  let target := target.normal.dropExtension
  if target = ⟨.none, [[]]⟩ then none
  else
    some <| specifierText <|
      stepsBetween (cwd.absoluteSegments source.normal) (cwd.absoluteSegments target)

/-- Where a configured path lies: below the output directory, unless it is absolute. An absolute
path is left as it was given. -/
def configured (output path : Path) : Path :=
  if path.isAbsolute then path else (output.join path).normal

end RouterLayer.Path
