import RouterLayer.Path.Basic

/-!
Paths in the notation with drives. Both slashes separate names there. What stands in front of the
names, a drive, a share or a leading slash, is kept as one name of its own.
-/

set_option autoImplicit false

namespace RouterLayer.Path

/-- The mark in front of a path of any length. The letters of a share after it stand for the first
of the two slashes that a share begins with. -/
def splitMark (s : Text) : Text × Text :=
  match s with
  | .char '\\' :: .char '\\' :: .char '?' :: .char '\\' :: rest =>
    match rest with
    | .char 'U' :: .char 'N' :: .char 'C' :: .char '\\' :: names =>
      ("\\\\?\\UNC", .char '\\' :: .char '\\' :: names)
    | _ => ("\\\\?\\", rest)
  | _ => ([], s)

/-- A share: two slashes, the server, a slash and the name of the share. -/
def splitShare? (s : Text) : Option (Text × Text) :=
  match s with
  | .char '\\' :: .char '\\' :: rest =>
    if rest.head? = some '\\' then none
    else
      match Text.cut? '\\' rest with
      | none => none
      | some (server, rest) =>
        if rest.head? = some '\\' then none
        else
          match Text.cut? '\\' rest with
          | none => some ("\\\\" ++ server ++ "\\" ++ rest ++ "\\", [])
          | some (share, rest) => some ("\\\\" ++ server ++ "\\" ++ share ++ "\\", rest)
  | _ => none

def splitLetter (s : Text) : Text × Text :=
  let (drive, rest) : Text × Text :=
    match s with
    | letter :: .char ':' :: rest =>
      if letter.isLetter then ([letter, .char ':'], rest) else ([], s)
    | _ => ([], s)
  match rest with
  | .char '\\' :: _ => (drive ++ "\\", rest.dropWhile (· = '\\'))
  | _ => (drive, rest)

def splitDrive (s : Text) : Text × Text :=
  let (mark, s) := splitMark s
  match splitShare? s with
  | some (share, rest) => (if mark.isEmpty then share else mark ++ share.tail, rest)
  | none =>
    let (drive, rest) := splitLetter s
    (mark ++ drive, rest)

def ofDriveText (s : Text) : Path :=
  let (front, names) := splitDrive (s.map fun (c : CodePoint) => if c = '/' then '\\' else c)
  let segments := (Text.splitAll '\\' names).filter isName
  ⟨.none, if front.isEmpty then segments else front :: segments⟩

end RouterLayer.Path
