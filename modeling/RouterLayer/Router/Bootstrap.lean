import RouterLayer.Router.Layout

set_option autoImplicit false

namespace RouterLayer.Router

def globalMiddleware : Text := "globalMiddleware"

def permissionsMiddleware : Text := "permissionsMiddleware"

def publicMiddlewares (options : Options) : List Text :=
  if options.middleware = .off then [] else [globalMiddleware]

def bootstrapImports (site : Site) (options : Options) : Except Failure (List Import) := do
  let context ← configuredSpecifier site helpersDir options.contextPath
  let shield ←
    if options.withShield then do
      let s ← specifier site (Path.ofText helpersDir) (Path.ofText shieldPath)
      pure [Import.names s ["permissions"]]
    else pure []
  let settings ←
    match options.trpcOptionsPath with
    | some path => do
      let s ← configuredSpecifier site helpersDir path
      pure [Import.mainExport s "trpcOptions"]
    | none => pure []
  let middleware ←
    match options.middleware with
    | .module path => do
      let s ← configuredSpecifier site helpersDir path
      pure [Import.mainExport s "defaultMiddleware"]
    | _ => pure []
  return Import.everything "@trpc/server" "trpc" :: Import.types context ["Context"] ::
    (shield ++ settings ++ middleware)

def globalStatements (options : Options) : List Statement :=
  match options.middleware with
  | .off => []
  | .passThrough => [.middleware globalMiddleware none]
  | .module _ => [.middleware globalMiddleware (some "defaultMiddleware")]

def shieldStatements (options : Options) : List Statement :=
  if options.withShield then
    [.middleware permissionsMiddleware (some "permissions"),
      .baseProcedure "shieldedProcedure" (publicMiddlewares options ++ [permissionsMiddleware])]
  else []

def bootstrapStatements (options : Options) : List Statement :=
  .start "Context" (options.trpcOptionsPath.map fun _ => "trpcOptions") ::
    (globalStatements options ++
      .baseProcedure "publicProcedure" (publicMiddlewares options) :: shieldStatements options)

def bootstrapFile (site : Site) (options : Options) : Except Failure SourceFile := do
  let imports ← bootstrapImports site options
  return (bootstrapStatements options).foldl SourceFile.addStatement
    (imports.foldl SourceFile.addImport (SourceFile.empty bootstrapPath))

end RouterLayer.Router
