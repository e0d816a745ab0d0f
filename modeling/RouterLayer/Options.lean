import RouterLayer.Failure
import RouterLayer.Json.Basic
import RouterLayer.Text.Blank
import RouterLayer.Text.Case
import RouterLayer.Text.Split

/-!
The options of a run and their reading from JSON values. An option can be given under either of
two spellings, of which the first wins; what is given under neither takes its default, and all
problems are reported together, in the order of the options.
-/

set_option autoImplicit false

namespace RouterLayer

/-- The global middleware: none, the one that passes everything on, or the one of a module. -/
inductive MiddlewareSetting
  | off | passThrough | module (path : Text)
  deriving DecidableEq, Repr

structure Options where
  withZod : Bool
  withShield : Bool
  middleware : MiddlewareSetting
  contextPath : Text
  emitterPath : Text
  trpcOptionsPath : Option Text
  showModelName : Bool
  actions : List Action
  deriving DecidableEq, Repr

namespace Options

def default : Options where
  withZod := true
  withShield := true
  middleware := .passThrough
  contextPath := "../../../../src/context"
  emitterPath := "../../../../src/emitter"
  trpcOptionsPath := none
  showModelName := true
  actions := Action.all

structure Key where
  camel : Text
  snake : Text
  deriving DecidableEq, Repr

namespace Key

def withZod : Key := ⟨"withZod", "with_zod"⟩
def withShield : Key := ⟨"withShield", "with_shield"⟩
def middleware : Key := ⟨"withMiddleware", "with_middleware"⟩
def contextPath : Key := ⟨"contextPath", "context_path"⟩
def emitterPath : Key := ⟨"emitterPath", "emitter_path"⟩
def trpcOptionsPath : Key := ⟨"trpcOptionsPath", "trpc_options_path"⟩
def showModelName : Key := ⟨"showModelNameInProcedure", "show_model_name_in_procedure"⟩
def actions : Key := ⟨"generateModelActions", "generate_model_actions"⟩

def find? (key : Key) (raw : OrderedMap Json) : Option (Text × Json) :=
  match OrderedMap.find? raw key.camel with
  | some value => some (key.camel, value)
  | none => (OrderedMap.find? raw key.snake).map fun value => (key.snake, value)

end Key

/-- A word for a truth value, with blanks around it and in any case. -/
def truthWord? (s : Text) : Option Bool :=
  let word := Text.lower (Text.strip s)
  if word = "true" then some true else if word = "false" then some false else none

def falseWords : List Text := ["0", "off", "f", "false", "n", "no"]

def trueWords : List Text := ["1", "on", "t", "true", "y", "yes"]

def fitsWord (n : Int) : Bool := -9223372036854775808 ≤ n && n ≤ 9223372036854775807

def boolOfInt (n : Int) : Except Flaw Bool :=
  if n = 0 then .ok false
  else if n = 1 then .ok true
  else if fitsWord n then .error .unreadableBoolean
  else .error .notBoolean

/-- Only an integral number strictly between the ends of the 64 bits is taken for an integer. -/
def boolOfFloat (x : Binary64) : Except Flaw Bool :=
  match x.toInt? with
  | some n =>
    if -9223372036854775808 < n && n < 9223372036854775808 then boolOfInt n else .error .notBoolean
  | none => .error .notBoolean

/-- A truth value, or a number or a word that stands for one. A text without an encoded form is not
looked at. -/
def readBool (value : Json) : Except Flaw Bool :=
  match value with
  | .bool b => .ok b
  | .str s =>
    match truthWord? s with
    | some b => .ok b
    | none =>
      let word := Text.asciiLower s
      if falseWords.contains word then .ok false
      else if trueWords.contains word then .ok true
      else if Text.isEncodable s then .error .unreadableBoolean
      else .error .brokenText
  | .int n => boolOfInt n
  | .float x => boolOfFloat x
  | _ => .error .notBoolean

abbrev Reading (α : Type) := Except (List Problem) α

def flag (raw : OrderedMap Json) (key : Key) (default : Bool) : Reading Bool :=
  match key.find? raw with
  | none => .ok default
  | some (name, value) =>
    match readBool value with
    | .ok b => .ok b
    | .error flaw => .error [⟨[name], flaw⟩]

/-- A text that is no word for a truth value is the path of a module. -/
def readMiddleware (raw : OrderedMap Json) : Reading MiddlewareSetting :=
  let setting (b : Bool) : MiddlewareSetting := if b then .passThrough else .off
  match Key.middleware.find? raw with
  | none => .ok Options.default.middleware
  | some (name, .str s) =>
    match truthWord? s with
    | some b => .ok (setting b)
    | none =>
      if Text.isBlankText s then .error [⟨[name], .blankMiddleware⟩] else .ok (.module s)
  | some (name, value) =>
    match readBool value with
    | .ok b => .ok (setting b)
    | .error flaw => .error [⟨[name, "bool"], flaw⟩, ⟨[name, "str"], .notText⟩]

def readPath (raw : OrderedMap Json) (key : Key) (default : Text) : Reading Text :=
  match key.find? raw with
  | none => .ok default
  | some (name, .str s) =>
    if Text.isBlankText s then .error [⟨[name], .blankPath⟩] else .ok (Text.strip s)
  | some (name, _) => .error [⟨[name], .notText⟩]

def readOptionalPath (raw : OrderedMap Json) (key : Key) : Reading (Option Text) :=
  match key.find? raw with
  | none | some (_, .null) => .ok none
  | some (_, .str s) => .ok (if Text.isBlankText s then none else some s)
  | some (name, _) => .error [⟨[name], .notText⟩]

/-- The parts of a list that is written as a text; blank parts do not count. -/
def listParts (s : Text) : List Text :=
  ((Text.splitAll ',' s).map Text.strip).filter fun part => !part.isEmpty

def readAction : Json → Except Flaw Action
  | .str s =>
    match Action.ofName? s with
    | some a => .ok a
    | none => .error (if Text.isEncodable s then .unknownAction else .brokenText)
  | _ => .error .unknownAction

def readActionsFrom (name : Text) : Nat → List Json → Reading (List Action)
  | _, [] => .ok []
  | index, item :: items =>
    match readAction item, readActionsFrom name (index + 1) items with
    | .ok a, .ok actions => .ok (a :: actions)
    | .ok _, .error problems => .error problems
    | .error flaw, .ok _ => .error [⟨[name, toString index], flaw⟩]
    | .error flaw, .error problems => .error (⟨[name, toString index], flaw⟩ :: problems)

def readActions (raw : OrderedMap Json) : Reading (List Action) :=
  match Key.actions.find? raw with
  | none => .ok Options.default.actions
  | some (name, .str s) => readActionsFrom name 0 ((listParts s).map Json.str)
  | some (name, .list items) => readActionsFrom name 0 items
  | some (name, _) => .error [⟨[name], .notList⟩]

def problems {α : Type} : Reading α → List Problem
  | .ok _ => []
  | .error found => found

def parse (raw : OrderedMap Json) : Except Failure Options :=
  let withZod := flag raw .withZod default.withZod
  let withShield := flag raw .withShield default.withShield
  let middleware := readMiddleware raw
  let contextPath := readPath raw .contextPath default.contextPath
  let emitterPath := readPath raw .emitterPath default.emitterPath
  let trpcOptionsPath := readOptionalPath raw .trpcOptionsPath
  let showModelName := flag raw .showModelName default.showModelName
  let actions := readActions raw
  match withZod, withShield, middleware, contextPath, emitterPath, trpcOptionsPath, showModelName,
    actions with
  | .ok a, .ok b, .ok c, .ok d, .ok e, .ok f, .ok g, .ok h => .ok ⟨a, b, c, d, e, f, g, h⟩
  | _, _, _, _, _, _, _, _ =>
    .error <| .options <| problems withZod ++ problems withShield ++ problems middleware ++
      problems contextPath ++ problems emitterPath ++ problems trpcOptionsPath ++
      problems showModelName ++ problems actions

def actionNames (options : Options) : List Text := options.actions.map Action.name

def allowedNames (options : Options) : List Text :=
  options.actionNames.eraseDups.mergeSort fun a b => decide (a ≤ b)

end Options

end RouterLayer
