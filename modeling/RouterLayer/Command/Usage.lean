import RouterLayer.Json.Reader
import RouterLayer.Text.Bytes
import RouterLayer.Text.Quoted
import RouterLayer.Text.Similar
import RouterLayer.Text.Split

set_option autoImplicit false

namespace RouterLayer.Command

inductive Parameter
  | schema | output | config | assignment | validation | policy | verbose | quiet | help
  deriving DecidableEq, Repr

def Parameter.hint : Parameter → Text
  | .schema => "'SCHEMA'"
  | .output => "'-o' / '--output'"
  | .config => "'--config'"
  | .assignment => "'--set'"
  | .validation => "'--validation-delegate'"
  | .policy => "'--policy-delegate'"
  | .verbose => "'-v' / '--verbose'"
  | .quiet => "'-q' / '--quiet'"
  | .help => "'--help'"

def longOptions : List (Text × Parameter) := [
  ("--output", .output), ("--config", .config), ("--set", .assignment),
  ("--validation-delegate", .validation), ("--policy-delegate", .policy),
  ("--verbose", .verbose), ("--quiet", .quiet), ("--help", .help)]

def usageLine : Text := "Usage: main [OPTIONS] SCHEMA\n"

inductive UsageFault
  | unknownOption (name : Text) (meant : List Text)
  | missingValue (option : Text)
  | unexpectedValue (option : Text)
  | missingSchema
  | missingOutput
  | extraArguments (first : Text) (more : List Text)
  | fileMissing (parameter : Parameter) (path : Text)
  | fileIsDirectory (parameter : Parameter) (path : Text)
  | directoryIsFile (parameter : Parameter) (path : Text)
  | malformedAssignment (value : Text)
  | configNotJson (path : Text) (error : Json.SyntaxError)
  | configNotObject (path : Text)
  deriving DecidableEq, Repr

namespace UsageFault

def invalid (hint text : Text) : Text := "Invalid value for " ++ hint ++ ": " ++ text

def shownPath (path : Text) : Text := Text.quoted (Text.legible path)

/-- An option in its long form that there is none of. The options that are written nearly like it
may have been meant. -/
def unknownLong (name : Text) : UsageFault :=
  .unknownOption name
    ((Text.nearest name (longOptions.map (·.1))).mergeSort fun a b => decide (a ≤ b))

def suggestion : List Text → Text
  | [] => []
  | [option] => " Did you mean " ++ Text.quoted option ++ "?"
  | options => " (Did you mean one of: " ++ List.intercalate ", " (options.map Text.quoted) ++ "?)"

def text : UsageFault → Text
  | .unknownOption name meant =>
    "No such option " ++ Text.quoted name ++ "." ++ suggestion meant
  | .missingValue option => "Option " ++ Text.quoted option ++ " requires an argument."
  | .unexpectedValue option => "Option " ++ Text.quoted option ++ " does not take a value."
  | .missingSchema => "Missing argument 'SCHEMA'."
  | .missingOutput => "Missing option '-o' / '--output'."
  | .extraArguments first more =>
    "Got unexpected extra argument" ++ (if more.isEmpty then "" else "s") ++ " (" ++
      Text.joinWith ' ' (first :: more) ++ ")"
  | .fileMissing parameter path =>
    invalid parameter.hint ("File " ++ shownPath path ++ " does not exist.")
  | .fileIsDirectory parameter path =>
    invalid parameter.hint ("File " ++ shownPath path ++ " is a directory.")
  | .directoryIsFile parameter path =>
    invalid parameter.hint ("Directory " ++ shownPath path ++ " is a file.")
  | .malformedAssignment value =>
    invalid "--set" ("expected key=value, got " ++ Text.quoted value)
  | .configNotJson path error =>
    invalid "--config" (path ++ " is not valid JSON: " ++ error.message)
  | .configNotObject path => invalid "--config" (path ++ " must contain a JSON object")

/-- A fault in the form of a single option comes without the summary of the usage. -/
def showsUsage : UsageFault → Bool
  | .missingValue _ | .unexpectedValue _ => false
  | _ => true

def report (f : UsageFault) : Text :=
  (if f.showsUsage then usageLine ++ "Try 'main --help' for help.\n\n" else []) ++
    "Error: " ++ f.text ++ "\n"

end UsageFault

end RouterLayer.Command
