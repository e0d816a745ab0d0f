import RouterLayer.Command.Help
import RouterLayer.Command.Invocation
import RouterLayer.Log.Hierarchy
import RouterLayer.Run
import RouterLayer.Sink.Files
import RouterLayer.Text.Plain

set_option autoImplicit false

namespace RouterLayer.Command

/-- How a command ends. An unforeseen failure is kept, since the command does not report it. -/
structure Result where
  exitCode : Nat
  stdout : Text
  stderr : Text
  calls : List (Call FileSink)
  tree : FileTree
  unforeseen : Option Failure

def readAssignment (value : Text) : Except UsageFault (Text × Json) :=
  match Text.cut? '=' value with
  | none => .error (.malformedAssignment value)
  | some (key, raw) =>
    let key := Text.strip key
    if key.isEmpty then .error (.malformedAssignment value)
    else .ok (key, .str (Text.strip raw))

def readConfig (around : Surroundings) (path : Text) : Except Stop (OrderedMap Json) :=
  let shown := (Path.ofText path).text
  match around.tree.lookUp shown with
  | .ok (.file content) =>
    match Json.read (String.ofList (Document.unifyLineEnds content.toList)) with
    | .ok (.object members) => .ok members
    | .ok _ => .error (.usage (.configNotObject shown))
    | .error (.malformed e) => .error (.usage (.configNotJson shown e))
    | .error (.integerTooLong digits) => .error (.failure (.longInteger digits))
    | .error .tooDeep => .error (.failure .deepNesting)
  | .ok _ => .error (.failure (.files .isDirectory))
  | .error e => .error (.failure (.files e))

/-- The options of the document, overridden by the configuration file, overridden by the
assignments of the command line, the last of which counts most. -/
def mergedOptions (document config assignments : OrderedMap Json) : OrderedMap Json :=
  OrderedMap.merge (OrderedMap.merge document config) assignments

def settleOptions (around : Surroundings) (i : Invocation) (document : Document) :
    Except Stop (OrderedMap Json) := do
  let config ←
    match i.config with
    | some path => readConfig around path
    | none => .ok []
  let assignments ← (i.assignments.mapM readAssignment).mapError Stop.usage
  return mergedOptions document.options config assignments

def loadOptional (modules : List Delegate.Module) (reference : Option Text) :
    Except Failure (Option Delegate) :=
  match reference with
  | some r => (Delegate.load modules r).map some
  | none => .ok none

def loadDelegates (modules : List Delegate.Module) (i : Invocation) : Except Failure Delegates := do
  let validation ← loadOptional modules i.validation
  let policy ← loadOptional modules i.policy
  return ⟨validation, policy⟩

def errorStream : Nat := 2

def logText (i : Invocation) (records : List Log.Record) : Text :=
  (Log.Hierarchy.fresh.configure ⟨i.verbose, i.quiet⟩ errorStream).written errorStream records

/-- A stream ends every line with one character. -/
def unifyPairs (s : Text) : Text := Text.replaceAll "\r\n" "\n" s

/-- The standard error stream takes every text, a surrogate in the form of an escape. -/
def errorText (s : Text) : Text := unifyPairs (Text.escapeSurrogates s)

def stopped (width : Nat) (tree : FileTree) (log : Text) (calls : List (Call FileSink)) :
    Stop → Result
  | .help => ⟨0, helpText width, errorText log, calls, tree, none⟩
  | .usage fault => ⟨2, [], errorText (log ++ Text.plain fault.report), calls, tree, none⟩
  | .failure e =>
    if e.isForeseen then
      let report : Text := "Error: " ++ e.message?.getD [] ++ "\n"
      ⟨1, [], errorText (log ++ Text.plain report), calls, tree, none⟩
    else ⟨1, [], errorText log, calls, tree, some e⟩

/-- The last line of a run. The standard output stream takes only what can be encoded. -/
def finished (width : Nat) (sink : FileSink) (log : Text) (calls : List (Call FileSink))
    (output : Path) (generated : Generated) : Result :=
  let line : Text :=
    "Generated " ++ output.text ++ " (" ++ toString generated.sources.length ++ " files)\n"
  if output.text.isEncodable then
    ⟨0, unifyPairs (Text.plain line), errorText log, calls, sink.tree, none⟩
  else stopped width sink.tree log calls (.failure .unencodable)

def loadSchema (around : Surroundings) (path : Text) : Logged Document :=
  let shown := (Path.ofText path).text
  match around.tree.lookUp shown with
  | .ok (.file content) => Document.readText shown content
  | .ok _ => Document.load shown .directory
  | .error _ => Document.load shown .missing

def prepare (around : Surroundings) (i : Invocation) (document : Document) :
    Except Stop (OrderedMap Json × Delegates) := do
  let options ← settleOptions around i document
  let delegates ← (loadDelegates around.modules i).mapError Stop.failure
  return (options, delegates)

def runInvocation (width : Nat) (around : Surroundings) (i : Invocation) : Result :=
  let loaded := loadSchema around i.schema
  match loaded.outcome with
  | .error e => stopped width around.tree (logText i loaded.records) [] (.failure e)
  | .ok document =>
    match prepare around i document with
    | .error stop => stopped width around.tree (logText i loaded.records) [] stop
    | .ok (options, delegates) =>
      let output := Path.ofText i.output
      let report :=
        generate (FileSink.sink output) ⟨around.tree, []⟩ around.cwd document i.output
          (.given options) delegates
      let log := logText i (loaded.records ++ report.records)
      match report.outcome with
      | .error e => stopped width report.sink.tree log report.calls (.failure e)
      | .ok generated => finished width report.sink log report.calls output generated

/-- Only help depends on the width of the screen. -/
def run (around : Surroundings) (arguments : List Text) (width : Nat := 80) : Result :=
  match Invocation.ofArguments around arguments with
  | .error stop => stopped width around.tree [] [] stop
  | .ok i => runInvocation width around i

end RouterLayer.Command
