import RouterLayer.Delegate.Basic
import RouterLayer.Policy
import RouterLayer.Router.AppFile
import RouterLayer.Router.Bootstrap
import RouterLayer.Router.ModelFile
import RouterLayer.Sink.Basic
import RouterLayer.SourceFile.Render

/-!
A generation run. Options and the client generator are checked before the sink is touched; the
delegates run next; every file is built before the first one reaches the sink.
-/

set_option autoImplicit false

namespace RouterLayer

inductive OptionSource
  | checked (options : Options)
  | given (raw : OrderedMap Json)
  | ofDocument

def OptionSource.resolve (source : OptionSource) (document : Document) : Except Failure Options :=
  match source with
  | .checked options => .ok options
  | .given raw => Options.parse raw
  | .ofDocument => Options.parse document.options

structure Generated where
  options : Options
  sources : List SourceFile
  routers : List ModelRouter
  hidden : List Json
  permissions : Option PermissionMatrix
  deriving DecidableEq, Repr

namespace Generated

def paths (g : Generated) : List Text := g.sources.map (·.path)

def source? (g : Generated) (path : Text) : Option SourceFile :=
  g.sources.find? (·.path = path)

def files (g : Generated) : List (Text × Text) := g.sources.map fun f => (f.path, f.render)

end Generated

/-- A call of a delegate: what it was told, and the sink that it found. -/
structure Call (σ : Type) where
  role : Delegate.Role
  delegate : Delegate
  context : RunContext
  sink : σ

structure Report (σ : Type) where
  outcome : Except Failure Generated
  records : List Log.Record
  calls : List (Call σ)
  sink : σ

namespace Run

def buildModel (site : Router.Site) (document : Document) (options : Options) (m : Model) :
    Logged (ModelRouter × SourceFile) :=
  let mapping := document.mappingFor m.name
  let allowed := options.actionNames
  let operations := mapping.resolve allowed
  let built := Router.fileOf site m.name operations notificationEvents options
  { records := mapping.refusals allowed ++
      match built with
      | .ok (model, _) =>
        [Log.record .debug .routers
          ("  " ++ model ++ ": " ++ toString operations.length ++ " procedures, " ++
            toString notificationEvents.length ++ " subscriptions")]
      | .error _ => []
    outcome := built.map fun b => (⟨b.1, operations, notificationEvents⟩, b.2) }

def policyRecord (m : PermissionMatrix) : Log.Record :=
  Log.record .debug .policy
    ("  shield: " ++ toString m.query.length ++ " query, " ++ toString m.mutation.length ++
      " mutation, " ++ toString m.subscription.length ++ " subscription rules")

def buildPolicy (site : Router.Site) (options : Options) (models : List Text) :
    Logged (Option (PermissionMatrix × SourceFile)) :=
  if options.withShield then
    let matrix := Policy.matrix models
    (Logged.ofExcept (Policy.policyFile site matrix options)).bind fun file =>
      (Logged.note (policyRecord matrix)).bind fun _ => pure (some (matrix, file))
  else pure none

/-- All files of a run: the bootstrap, the routers in the order of the models, the permissions,
and the application router. -/
def build (site : Router.Site) (document : Document) (options : Options) : Logged Generated := do
  let visibility ← Visibility.ofModels document.models
  let bootstrap ← .ofExcept (Router.bootstrapFile site options)
  let built ← Logged.forList (buildModel site document options) visibility.visible
  let routers := built.map (·.1)
  let policy ← buildPolicy site options (routers.map (·.model))
  let app ← .ofExcept (Router.appFile routers)
  return {
    options := options
    sources := bootstrap :: (built.map (·.2) ++ (policy.map (·.2)).toList ++ [app])
    routers := routers
    hidden := visibility.hidden
    permissions := policy.map (·.1) }

/-- The calls of one delegate, what is logged of it, and whether the run goes on. -/
structure Delegated (σ : Type) where
  records : List Log.Record
  calls : List (Call σ)
  outcome : Except Failure Unit

def callDelegate {σ : Type} (role : Delegate.Role) (delegate : Option Delegate) (announcement
    warning : Text) (context : RunContext) (sink : σ) : Delegated σ :=
  match delegate with
  | none => ⟨[Log.record .warning .run warning], [], .ok ()⟩
  | some d =>
    ⟨[Log.record .info .run announcement], [⟨role, d, context, sink⟩],
      (d.run context).mapError Failure.delegateRaised⟩

def callValidation {σ : Type} (delegates : Delegates) (context : RunContext) (sink : σ) :
    Delegated σ :=
  if context.options.withZod then
    callDelegate .validation delegates.validation "Running validation delegate"
      ("withZod is enabled but no validation delegate is configured; " ++
        "schemas/ must be provided externally")
      context sink
  else ⟨[], [], .ok ()⟩

def forPolicyStarter (site : Router.Site) (context : RunContext) : RunContext :=
  { context with
    outputDir := (site.output.join (Path.ofText Router.shieldDir)).text
    contextPath :=
      some (Path.configured site.output (Path.ofText context.options.contextPath)).text }

def callPolicyStarter {σ : Type} (site : Router.Site) (delegates : Delegates)
    (context : RunContext) (sink : σ) : Delegated σ :=
  if context.options.withShield then
    callDelegate .policy delegates.policy "Running policy-starter delegate"
      "withShield is enabled but no policy-starter delegate is configured"
      (forPolicyStarter site context) sink
  else ⟨[], [], .ok ()⟩

/-- The policy starter runs only after the validation delegate returned. -/
def callDelegates {σ : Type} (site : Router.Site) (delegates : Delegates) (context : RunContext)
    (sink : σ) : Delegated σ :=
  let first := callValidation delegates context sink
  match first.outcome with
  | .error e => ⟨first.records, first.calls, .error e⟩
  | .ok () =>
    let second := callPolicyStarter site delegates context sink
    ⟨first.records ++ second.records, first.calls ++ second.calls, second.outcome⟩

def clientRecord (client : GeneratorDeclaration) : Log.Record :=
  Log.record .debug .run
    ("Using client generator " ++
      (if client.name.isVoid then client.provider else client.name).display)

def summary (g : Generated) (output : Path) : Log.Record :=
  Log.record .info .run
    ("Generated " ++ toString g.sources.length ++ " files (" ++ toString g.routers.length ++
      " routers, " ++ toString g.hidden.length ++ " hidden models) in " ++ output.text)

def deliver {σ : Type} (sink : Sink σ) (s : σ) (files : List (Text × Text)) : Stepped σ :=
  sink.save (files.foldl (fun s f => sink.createFile s f.1 f.2) s)

def perform {σ : Type} (sink : Sink σ) (s : σ) (site : Router.Site) (document : Document)
    (options : Options) (delegates : Delegates) : Report σ :=
  let reset := sink.reset s
  match reset.outcome with
  | .error e => ⟨.error e, [], [], reset.state⟩
  | .ok () =>
    let delegated :=
      callDelegates site delegates ⟨document, options, site.output.text, none⟩ reset.state
    match delegated.outcome with
    | .error e => ⟨.error e, delegated.records, delegated.calls, reset.state⟩
    | .ok () =>
      let built := build site document options
      let records := delegated.records ++ built.records
      match built.outcome with
      | .error e => ⟨.error e, records, delegated.calls, reset.state⟩
      | .ok generated =>
        let delivered := deliver sink reset.state generated.files
        match delivered.outcome with
        | .error e => ⟨.error e, records, delegated.calls, delivered.state⟩
        | .ok () =>
          ⟨.ok generated, records ++ [summary generated site.output], delegated.calls,
            delivered.state⟩

end Run

def generate {σ : Type} (sink : Sink σ) (s : σ) (cwd : Path) (document : Document)
    (outputDir : Text) (source : OptionSource) (delegates : Delegates) : Report σ :=
  match source.resolve document with
  | .error e => ⟨.error e, [], [], s⟩
  | .ok options =>
    match document.clientGenerator with
    | .error e => ⟨.error e, [], [], s⟩
    | .ok client =>
      let report :=
        Run.perform sink s ⟨cwd, Path.ofText outputDir⟩ document options delegates
      { report with records := Run.clientRecord client :: report.records }

end RouterLayer
