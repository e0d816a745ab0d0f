import RouterLayer.Command.Surroundings
import RouterLayer.Command.Usage
import RouterLayer.Text.Split

/-!
Reading the command line. Options and arguments may be mixed; an option takes its value from the
same word or from the next one. Whoever asks for help gets it once the words are read. Else values
are checked in the order in which the options were given, then the schema, then what is missing.
-/

set_option autoImplicit false

namespace RouterLayer.Command

structure Invocation where
  schema : Text
  output : Text
  config : Option Text
  assignments : List Text
  validation : Option Text
  policy : Option Text
  verbose : Bool
  quiet : Bool
  deriving DecidableEq, Repr

/-- What stops a command: the wish for help, wrong usage, or a failure of the program. -/
inductive Stop
  | help
  | usage (fault : UsageFault)
  | failure (failure : Failure)
  deriving DecidableEq, Repr

def shortOptions : List (CodePoint × Parameter) := [('o', .output), ('v', .verbose), ('q', .quiet)]

def optionsEnd : Text := "--"

def Parameter.takesValue : Parameter → Bool
  | .verbose | .quiet | .help => false
  | _ => true

structure Given where
  parameter : Parameter
  value : Text
  deriving DecidableEq, Repr

structure Words where
  options : List Given
  arguments : List Text
  deriving DecidableEq, Repr

/-- What the letters of one word give: options without a value, and one at the end that takes its
value from the rest of the word or, if nothing is left of it, from the next word. -/
structure Letters where
  given : List Given
  awaiting : Option (Parameter × Text)
  deriving DecidableEq, Repr

def readLetters : Text → Except UsageFault Letters
  | [] => .ok ⟨[], none⟩
  | c :: rest =>
    match shortOptions.lookup c with
    | none => .error (.unknownOption ['-', c] [])
    | some p =>
      if p.takesValue then
        if rest.isEmpty then .ok ⟨[], some (p, ['-', c])⟩
        else .ok ⟨[⟨p, rest⟩], none⟩
      else
        match readLetters rest with
        | .ok letters => .ok ⟨⟨p, []⟩ :: letters.given, letters.awaiting⟩
        | .error e => .error e

def readOption (word : Text) : Except UsageFault Letters :=
  let (name, value) : Text × Option Text :=
    match Text.cut? '=' word with
    | some (name, value) => (name, some value)
    | none => (word, none)
  match longOptions.lookup name, value with
  | some p, some value =>
    if p.takesValue then .ok ⟨[⟨p, value⟩], none⟩ else .error (.unexpectedValue name)
  | some p, none => if p.takesValue then .ok ⟨[], some (p, name)⟩ else .ok ⟨[⟨p, []⟩], none⟩
  | none, _ =>
    match word with
    | .char '-' :: .char '-' :: _ => .error (.unknownLong name)
    | _ :: letters => readLetters letters
    | [] => .error (.unknownLong name)

def isOption (word : Text) : Bool :=
  match word with
  | .char '-' :: _ :: _ => true
  | _ => false

def readWords : List Text → Except UsageFault Words
  | [] => .ok ⟨[], []⟩
  | word :: rest =>
    if word = optionsEnd then .ok ⟨[], rest⟩
    else if isOption word then
      match readOption word, rest with
      | .error e, _ => .error e
      | .ok ⟨given, none⟩, rest =>
        (readWords rest).map fun w => ⟨given ++ w.options, w.arguments⟩
      | .ok ⟨_, some (_, name)⟩, [] => .error (.missingValue name)
      | .ok ⟨given, some (p, _)⟩, value :: rest =>
        (readWords rest).map fun w => ⟨given ++ ⟨p, value⟩ :: w.options, w.arguments⟩
    else (readWords rest).map fun w => ⟨w.options, word :: w.arguments⟩

namespace Words

def valuesOf (w : Words) (p : Parameter) : List Text :=
  (w.options.filter (·.parameter = p)).map (·.value)

/-- The last value of an option counts. -/
def valueOf? (w : Words) (p : Parameter) : Option Text := (w.valuesOf p).getLast?

def isGiven (w : Words) (p : Parameter) : Bool := w.options.any (·.parameter = p)

def checkOrder (w : Words) : List Parameter :=
  (w.options.map Given.parameter ++ [Parameter.schema, Parameter.output]).eraseDups

end Words

/-- What a path leads to. A text that can be no path at all stops the command; nothing is there
when the path leads nowhere. -/
def findEntry (around : Surroundings) (path : Text) : Except Stop (Option FileTree.Entry) :=
  match around.tree.lookUp path with
  | .ok entry => .ok (some entry)
  | .error .unencodable => .error (.failure (.files .unencodable))
  | .error .zeroByte => .error (.failure (.files .zeroByte))
  | .error _ => .ok none

def checkFile (around : Surroundings) (p : Parameter) (path : Text) : Except Stop Unit := do
  match ← findEntry around path with
  | none => throw (.usage (.fileMissing p path))
  | some .directory => throw (.usage (.fileIsDirectory p path))
  | some _ => return ()

def checkDirectory (around : Surroundings) (p : Parameter) (path : Text) : Except Stop Unit := do
  match ← findEntry around path with
  | some (.file _) => throw (.usage (.directoryIsFile p path))
  | _ => return ()

def checkParameter (around : Surroundings) (w : Words) (p : Parameter) : Except Stop Unit :=
  match p with
  | .schema =>
    match w.arguments.head? with
    | some path => checkFile around .schema path
    | none => .error (.usage .missingSchema)
  | .output =>
    match w.valueOf? .output with
    | some path => checkDirectory around .output path
    | none => .error (.usage .missingOutput)
  | .config =>
    match w.valueOf? .config with
    | some path => checkFile around .config path
    | none => .ok ()
  | _ => .ok ()

/-- Help comes before every check of a value, but after the words are read. -/
def checkHelp (w : Words) : Except Stop Unit :=
  if w.isGiven .help then .error .help else .ok ()

def checkExtra : List Text → Except UsageFault Unit
  | _ :: first :: more => .error (.extraArguments first more)
  | _ => .ok ()

def Invocation.ofWords (around : Surroundings) (w : Words) : Except Stop Invocation := do
  checkHelp w
  w.checkOrder.forM (checkParameter around w)
  (checkExtra w.arguments).mapError Stop.usage
  return {
    schema := w.arguments.headD []
    output := (w.valueOf? .output).getD []
    config := w.valueOf? .config
    assignments := w.valuesOf .assignment
    validation := (w.valueOf? .validation).filter fun s => !s.isEmpty
    policy := (w.valueOf? .policy).filter fun s => !s.isEmpty
    verbose := w.isGiven .verbose
    quiet := w.isGiven .quiet }

def Invocation.ofArguments (around : Surroundings) (arguments : List Text) :
    Except Stop Invocation := do
  let words ← (readWords arguments).mapError Stop.usage
  Invocation.ofWords around words

end RouterLayer.Command
