import RouterLayer.Command.Usage

set_option autoImplicit false

namespace RouterLayer.Command

def helpRows : List (Text × Text) := [
  ("-o, --output DIRECTORY",
    "Directory the router layer is generated into (emptied first).  [required]"),
  ("--config FILE", "JSON file with generator options."),
  ("--set KEY=VALUE", "Override one generator option, e.g. --set withZod=false."),
  ("--validation-delegate MODULE:CALLABLE",
    "Generator producing the zod schemas (run when withZod is on)."),
  ("--policy-delegate MODULE:CALLABLE",
    "Generator producing the shield scaffold (run when withShield is on)."),
  ("-v, --verbose", "Log per-model decisions."),
  ("-q, --quiet", "Only log warnings and errors."),
  ("--help", "Show this message and exit.")]

def spacedWords (blanks : Nat) : List Text → List (Nat × Text)
  | [] => []
  | [] :: pieces => spacedWords (blanks + 1) pieces
  | word :: pieces => (blanks, word) :: spacedWords 1 pieces

/-- Lines that take as many words as fit, after a line that is begun. The blanks between two lines
are dropped. -/
def fillLines (width : Nat) (line : Text) : List (Nat × Text) → List Text
  | [] => [line]
  | (blanks, word) :: words =>
    if line.length + blanks + word.length ≤ width then
      fillLines width (line ++ List.replicate blanks (.char ' ') ++ word) words
    else line :: fillLines width word words

def wrap (width : Nat) (s : Text) : List Text :=
  match spacedWords 0 (Text.splitAll ' ' s) with
  | [] => []
  | (_, word) :: words => fillLines width word words

/-- The first column is as wide as its widest entry with two blanks after it, but is not widened
for entries of more than thirty. -/
def columnWidth (rows : List (Text × Text)) : Nat :=
  min ((rows.map (·.1.length)).foldl max 0) 30 + 2

def helpRow (width column : Nat) (row : Text × Text) : Text :=
  let newLine : Text := CodePoint.char '\n' :: List.replicate (column + 2) (.char ' ')
  let gap : Text :=
    if row.1.length + 2 ≤ column then List.replicate (column - row.1.length) (.char ' ')
    else newLine
  let purpose : Text := List.intercalate newLine (wrap (max (width - column - 2) 10) row.2)
  "  " ++ row.1 ++ gap ++ purpose ++ "\n"

/-- The help for a screen of some width. No screen counts as narrower than fifty columns, so no word
is too long for a line. -/
def helpText (width : Nat) : Text :=
  usageLine ++ "\n  Generate tRPC routers from SCHEMA.\n\nOptions:\n" ++
    helpRows.flatMap (helpRow width (columnWidth helpRows))

end RouterLayer.Command
