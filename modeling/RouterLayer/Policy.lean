import RouterLayer.Router.Layout

set_option autoImplicit false

namespace RouterLayer

abbrev Rules := OrderedMap Text

structure PermissionMatrix where
  query : Rules
  mutation : Rules
  subscription : Rules
  deriving DecidableEq, Repr

namespace Policy

def allow : Text := "allow"

def allowAll (rules : Rules) (model : Text) (operations : List Text) : Rules :=
  operations.foldl (fun acc operation => acc.put (operation ++ model) allow) rules

def addModel (m : PermissionMatrix) (model : Text) : PermissionMatrix where
  query := allowAll m.query model policyQueries
  mutation := allowAll m.mutation model policyMutations
  subscription := allowAll m.subscription model notificationEvents

def matrix (models : List Text) : PermissionMatrix := models.foldl addModel ⟨[], [], []⟩

def rulesJson (rules : Rules) : Json := .object (rules.map fun r => (r.1, .str r.2))

end Policy

namespace PermissionMatrix

def buckets (m : PermissionMatrix) : List (Text × Rules) :=
  [(Category.query.name, m.query), (Category.mutation.name, m.mutation),
    (Category.subscription.name, m.subscription)]

def members (m : PermissionMatrix) : List (Text × Json) :=
  m.buckets.map fun b => (b.1, Policy.rulesJson b.2)

end PermissionMatrix

namespace Policy

def policyImports (site : Router.Site) (options : Options) : Except Failure (List Import) := do
  let context ← Router.configuredSpecifier site Router.shieldDir options.contextPath
  return [Import.names "trpc-shield" ["shield", allow], Import.names context ["Context"]]

def policyFile (site : Router.Site) (m : PermissionMatrix) (options : Options) :
    Except Failure SourceFile := do
  let imports ← policyImports site options
  return (imports.foldl SourceFile.addImport (SourceFile.empty Router.shieldPath)).addStatement
    (.policy "permissions" "Context" m.members)

end Policy

end RouterLayer
