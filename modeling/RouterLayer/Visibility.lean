import RouterLayer.Attribute
import RouterLayer.Document

set_option autoImplicit false

namespace RouterLayer

/-- The attributes of a model. Documentation that stands for nothing has none. -/
def Model.attributes (m : Model) : Except Failure (List Attribute) :=
  if m.documentation.isVoid then .ok []
  else
    match m.documentation with
    | .str s => .ok (Attribute.readAll s)
    | _ => .error .wrongKind

def Model.isHidden (m : Model) : Except Failure Bool := m.attributes.map fun as => as.any (·.hides)

structure Visibility where
  visible : List Model
  hidden : List Json
  deriving DecidableEq, Repr

def Visibility.ofModels : List Model → Logged Visibility
  | [] => pure ⟨[], []⟩
  | m :: rest =>
    (Logged.ofExcept m.isHidden).bind fun hidden =>
      if hidden then
        (Logged.note (Log.record .debug .visibility
            ("  " ++ m.name.text ++ ": hidden by @@Gen.model(hide: true)"))).bind fun _ =>
          (Visibility.ofModels rest).bind fun v => pure ⟨v.visible, m.name :: v.hidden⟩
      else (Visibility.ofModels rest).bind fun v => pure ⟨m :: v.visible, v.hidden⟩

structure ResolvedOperation where
  operation : Operation
  declared : Json
  deriving DecidableEq, Repr

/-- An operation passes by its action or by its name on the client. -/
def Operation.isAllowed (o : Operation) (allowed : List Text) : Bool :=
  allowed.contains o.action.name || allowed.contains o.clientMethod

namespace OperationMapping

def resolve (m : OperationMapping) (allowed : List Text) : List ResolvedOperation :=
  (m.operations.filter fun p => p.1.isAllowed allowed).map fun p => ⟨p.1, p.2⟩

def refusals (m : OperationMapping) (allowed : List Text) : List Log.Record :=
  (m.operations.filter fun p => !p.1.isAllowed allowed).map fun p =>
    Log.record .debug .visibility
      ("  " ++ m.model.text ++ ": " ++ p.1.name ++ " not in generateModelActions")

end OperationMapping

def hasEndpoints (operations : List ResolvedOperation) (notifications : List Text) : Bool :=
  !operations.isEmpty || !notifications.isEmpty

end RouterLayer
