import RouterLayer.Delegate.Basic
import RouterLayer.Text.Split

/-!
Where delegates come from. A reference names one by a module and a path of attributes: the module
is imported, and the path is followed from the module, one attribute after the other.
-/

set_option autoImplicit false

namespace RouterLayer.Delegate

/-- What references are looked up in: modules, each an object under a dotted name, and objects, each
with attributes and perhaps with a meaning when it is called. -/
structure Registry (α : Type) where
  module? : Text → Except MissingModule α
  attribute? : α → Text → Option α
  delegate? : α → Option Delegate

inductive ImportFault
  | missing (part : MissingModule)
  | relative
  deriving DecidableEq, Repr

namespace Registry

variable {α : Type} (r : Registry α)

/-- A name that begins with a dot is relative to a package, and none is given. -/
def importModule (name : Text) : Except ImportFault α :=
  if name.head? = some '.' then .error .relative
  else (r.module? name).mapError .missing

def follow (target : α) : List Text → Option α
  | [] => some target
  | part :: rest =>
    match r.attribute? target part with
    | some inner => follow inner rest
    | none => none

/-- The module stands before the first colon. Only a module that is missing is reported as a fault
of the reference. -/
def load (reference : Text) : Except Failure Delegate :=
  match Text.cut? ':' reference with
  | none => .error (.delegateReference (.malformed reference))
  | some (name, path) =>
    if name.isEmpty || path.isEmpty then .error (.delegateReference (.malformed reference))
    else
      match r.importModule name with
      | .error .relative => .error .wrongKind
      | .error (.missing part) => .error (.delegateReference (.noModule name part))
      | .ok module =>
        match r.follow module (Text.splitAll '.' path) with
        | none => .error (.delegateReference (.noAttribute name path))
        | some target =>
          match r.delegate? target with
          | some delegate => .ok delegate
          | none => .error (.delegateReference (.notCallable reference))

end Registry

inductive Target
  | callable (delegate : Delegate)
  | group (members : List (Text × Target))
  | value

def Target.attribute? : Target → Text → Option Target
  | .group members, part => members.lookup part
  | _, _ => none

def Target.delegate? : Target → Option Delegate
  | .callable delegate => some delegate
  | _ => none

/-- A module under its dotted name. Only a package can hold further modules. -/
structure Module where
  name : Text
  isPackage : Bool
  members : List (Text × Target)

def findModule (modules : List Module) (name : Text) : Option Module :=
  modules.find? (·.name = name)

/-- The first part of a dotted name that is not there, after the part that it lies in. The parts in
`above` are there. -/
def firstMissing? (modules : List Module) (above : List Text) : List Text →
    Option (Option Text × Text)
  | [] => none
  | part :: rest =>
    let inner := above ++ [part]
    let name := Text.joinWith '.' inner
    match findModule modules name with
    | some _ => firstMissing? modules inner rest
    | none => some (if above.isEmpty then none else some (Text.joinWith '.' above), name)

def moduleOf (modules : List Module) (name : Text) : Except MissingModule Target :=
  match firstMissing? modules [] (Text.splitAll '.' name) with
  | some (parent, part) =>
    .error ⟨part, parent.filter fun p => (findModule modules p).any fun m => !m.isPackage⟩
  | none =>
    match findModule modules name with
    | some m => .ok (.group m.members)
    | none => .error ⟨name, none⟩

def registry (modules : List Module) : Registry Target :=
  ⟨moduleOf modules, Target.attribute?, Target.delegate?⟩

def load (modules : List Module) (reference : Text) : Except Failure Delegate :=
  (registry modules).load reference

end RouterLayer.Delegate
