import RouterLayer.Json.Basic
import RouterLayer.Operation

set_option autoImplicit false

namespace RouterLayer

structure Import where
  module : Text
  named : List Text
  whole : Option Text
  default : Option Text
  typeOnly : Bool
  deriving DecidableEq, Repr

/-- A query or a mutation that calls one operation of the client. Its key and the name of its result
come from the document, which may give a value that is no text. -/
structure Procedure where
  key : Json
  category : Category
  baseProcedure : Text
  resultName : Json
  clientAccessor : Text
  clientMethod : Text
  inputType : Text
  callArguments : Option (List Text)
  eventChannel : Option Text
  deriving DecidableEq, Repr

structure Subscription where
  key : Text
  baseProcedure : Text
  payloadType : Text
  channel : Text
  listener : Text
  deriving DecidableEq, Repr

inductive Endpoint
  | procedure (p : Procedure)
  | subscription (s : Subscription)
  deriving DecidableEq, Repr

structure RouterEntry where
  key : Text
  router : Text
  deriving DecidableEq, Repr

inductive Statement
  | start (contextType : Text) (options : Option Text)
  | middleware (name : Text) (handler : Option Text)
  | baseProcedure (name : Text) (middlewares : List Text)
  | router (symbol : Text) (endpoints : List Endpoint) (entries : List RouterEntry)
  | policy (symbol contextType : Text) (rules : List (Text × Json))
  /-- A statement without a text of its own. -/
  | blank (kind : Text)
  deriving DecidableEq, Repr

structure SourceFile where
  path : Text
  imports : List Import
  statements : List Statement
  deriving DecidableEq, Repr

def Endpoint.key : Endpoint → Json
  | .procedure p => p.key
  | .subscription s => .str s.key

def Endpoint.baseProcedure : Endpoint → Text
  | .procedure p => p.baseProcedure
  | .subscription s => s.baseProcedure

def Endpoint.category : Endpoint → Category
  | .procedure p => p.category
  | .subscription _ => .subscription

def Procedure.inputPart (name : Text) : Text := name ++ ": input." ++ name

/-- What a procedure passes to the client: the whole input, nothing, or some of its parts. -/
def Procedure.callExpression (p : Procedure) : Text :=
  match p.callArguments with
  | none => "input"
  | some [] => ""
  | some names => "\x7b " ++ List.intercalate ", " (names.map inputPart) ++ " \x7d"

def Statement.kind : Statement → Text
  | .start .. => "trpc_init"
  | .middleware .. => "middleware"
  | .baseProcedure .. => "base_procedure"
  | .router .. => "router"
  | .policy .. => "policy"
  | .blank kind => kind

def Statement.endpoints : Statement → List Endpoint
  | .router _ endpoints _ => endpoints
  | _ => []

namespace Import

def names (module : Text) (named : List Text) : Import := ⟨module, named, none, none, false⟩

def types (module : Text) (named : List Text) : Import := ⟨module, named, none, none, true⟩

def everything (module name : Text) : Import := ⟨module, [], some name, none, false⟩

def mainExport (module name : Text) : Import := ⟨module, [], none, some name, false⟩

end Import

namespace SourceFile

def empty (path : Text) : SourceFile := ⟨path, [], []⟩

/-- An import that is there already is not added again. -/
def addImport (f : SourceFile) (i : Import) : SourceFile :=
  if f.imports.contains i then f else ⟨f.path, f.imports ++ [i], f.statements⟩

def addStatement (f : SourceFile) (s : Statement) : SourceFile :=
  ⟨f.path, f.imports, f.statements ++ [s]⟩

def importFor? (f : SourceFile) (module : Text) : Option Import :=
  f.imports.find? (·.module = module)

def endpoints (f : SourceFile) : List Endpoint := f.statements.flatMap (·.endpoints)

def routerSymbols (f : SourceFile) : List Text :=
  f.statements.filterMap fun
    | .router symbol _ _ => some symbol
    | _ => none

end SourceFile

end RouterLayer
