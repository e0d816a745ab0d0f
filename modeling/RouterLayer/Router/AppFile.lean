import RouterLayer.Naming
import RouterLayer.Router.Layout
import RouterLayer.Visibility

set_option autoImplicit false

namespace RouterLayer

structure ModelRouter where
  model : Text
  operations : List ResolvedOperation
  notifications : List Text
  deriving DecidableEq, Repr

def ModelRouter.hasEndpoints (r : ModelRouter) : Bool :=
  RouterLayer.hasEndpoints r.operations r.notifications

namespace Router

structure Taken where
  keys : OrderedMap Text
  symbols : OrderedMap Text
  deriving DecidableEq, Repr

def Taken.empty : Taken := ⟨[], []⟩

def Taken.add (c : Taken) (model : Text) : Taken :=
  ⟨c.keys.put (Naming.routerKey model) model, c.symbols.put (Naming.routerSymbol model) model⟩

/-- A key that is taken is reported before a router that is. -/
def Taken.check (c : Taken) (model : Text) : Except Failure Unit :=
  match c.keys.find? (Naming.routerKey model) with
  | some first => .error (.collision (Naming.routerKey model) first model)
  | none =>
    match c.symbols.find? (Naming.routerSymbol model) with
    | some first => .error (.collision (Naming.routerSymbol model) first model)
    | none => .ok ()

def checkAll (c : Taken) : List Text → Except Failure Unit
  | [] => .ok ()
  | model :: rest => do
    c.check model
    checkAll (c.add model) rest

def appEntry (model : Text) : RouterEntry := ⟨Naming.routerKey model, Naming.routerSymbol model⟩

def appImport (model : Text) : Import :=
  Import.names ("./" ++ model ++ ".router") [Naming.routerSymbol model]

def appFile (routers : List ModelRouter) : Except Failure SourceFile := do
  let models := (routers.filter (·.hasEndpoints)).map (·.model)
  checkAll Taken.empty models
  let imports := Import.names "./helpers/createRouter" ["t"] :: models.map appImport
  return (imports.foldl SourceFile.addImport (SourceFile.empty appPath)).addStatement
    (.router "appRouter" [] (models.map appEntry))

end Router

end RouterLayer
