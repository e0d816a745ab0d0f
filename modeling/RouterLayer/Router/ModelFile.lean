import RouterLayer.Naming
import RouterLayer.Router.Layout
import RouterLayer.Visibility

set_option autoImplicit false

namespace RouterLayer.Router

/-- A mutation publishes its result under the action that it belongs to. -/
def publishedChannel (model : Text) (operation : Operation) : Option Text :=
  if operation.category = .mutation then some (Naming.eventChannel model operation.action.name)
  else none

def procedureOf (model : Text) (options : Options) (operation : Operation) (key name : Json) :
    Procedure :=
  let inputType := Naming.inputType (some operation.base) model options.withZod
  { key := key
    category := operation.category
    baseProcedure := baseProcedureName options
    resultName := name
    clientAccessor := Naming.uncapitalize model
    clientMethod := operation.clientMethod
    inputType := inputType
    callArguments := if inputType.isEmpty then some [] else operation.callArguments
    eventChannel := publishedChannel model operation }

/-- The key under which an endpoint's name is shown. A name that is no text can be shown as it is,
but the model's name cannot be taken out of it. -/
def procedureKey (model : Text) (showModel : Bool) : Json → Except Failure Json
  | .str name => .ok (.str (Naming.procedureKey name model showModel))
  | name => if showModel then .ok name else .error .notText

def procedure (model : Text) (options : Options) (r : ResolvedOperation) :
    Except Failure Procedure :=
  let name := Naming.endpointName r.operation.name r.declared
  (procedureKey model options.showModelName name).map fun key =>
    procedureOf model options r.operation key name

def subscription (model event : Text) (options : Options) : Subscription where
  key := event
  baseProcedure := baseProcedureName options
  payloadType := model
  channel := Naming.eventChannel model event
  listener := Naming.listener event

def schemaImports (model : Text) (operations : List Operation) : List Import :=
  let step (acc : List Text × List Import) (operation : Operation) : List Text × List Import :=
    let schema := Naming.inputType (some operation.base) model true
    if acc.1.contains schema then acc
    else
      (acc.1 ++ [schema],
        acc.2 ++ [Import.names (Naming.schemaModule operation.base model) [schema]])
  (operations.foldl step ([], [])).2

def modelImports (model : Text) (operations : List Operation) (options : Options)
    (emitter : Text) : List Import :=
  Import.names "./helpers/createRouter" ["t", baseProcedureName options] ::
    ((if options.withZod then schemaImports model operations else []) ++
      [Import.types "@prisma/client" [model],
        Import.names "@trpc/server/observable" ["observable"],
        Import.names emitter ["ee"]])

def modelEndpoints (model : Text) (operations : List ResolvedOperation)
    (notifications : List Text) (options : Options) : Except Failure (List Endpoint) := do
  let procedures ← operations.mapM (procedure model options)
  return procedures.map Endpoint.procedure ++
    notifications.map fun event => .subscription (subscription model event options)

def modelFile (site : Site) (model : Text) (operations : List ResolvedOperation)
    (notifications : List Text) (options : Options) : Except Failure SourceFile := do
  let emitter ← configuredSpecifier site Naming.routersDir options.emitterPath
  let endpoints ← modelEndpoints model operations notifications options
  let imports := modelImports model (operations.map (·.operation)) options emitter
  let file := imports.foldl SourceFile.addImport (SourceFile.empty (Naming.routerPath model))
  return file.addStatement
    (.router (Naming.routerSymbol model) endpoints [])

/-- A name that is no text stops the file at the first place that takes the name apart. -/
def unnamedFailure (name : Json) (operations : List ResolvedOperation) (options : Options) :
    Failure :=
  match operations, name with
  | [], _ => .notText
  | r :: _, name =>
    if !options.showModelName then
      if r.declared.isVoid || r.declared.isText then .wrongKind else .notText
    else
      match name with
      | .list _ => .notText
      | _ => .wrongKind

def fileOf (site : Site) (name : Json) (operations : List ResolvedOperation)
    (notifications : List Text) (options : Options) : Except Failure (Text × SourceFile) :=
  match name with
  | .str model => do
    let file ← modelFile site model operations notifications options
    return (model, file)
  | name => do
    let _ ← configuredSpecifier site Naming.routersDir options.emitterPath
    .error (unnamedFailure name operations options)

end RouterLayer.Router
