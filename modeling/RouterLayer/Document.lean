import RouterLayer.Json.Display
import RouterLayer.Log
import RouterLayer.Operation

/-!
The schema document: models, the operations that the client declares for them, generators, and the
options that the document brings along. Reading checks what the rest of the program relies on to
find its way, and passes every other value on as it is, whatever its kind.
-/

set_option autoImplicit false

namespace RouterLayer

structure Field where
  name : Json
  kind : Json
  type : Json
  isList : Json
  isRequired : Json
  deriving DecidableEq, Repr

structure Model where
  name : Json
  fields : List Field
  documentation : Json
  deriving DecidableEq, Repr

structure OperationMapping where
  model : Json
  operations : List (Operation × Json)
  deriving DecidableEq, Repr

structure GeneratorDeclaration where
  name : Json
  provider : Json
  previewFeatures : List Json
  deriving DecidableEq, Repr

structure Document where
  models : List Model
  mappings : List OperationMapping
  generators : List GeneratorDeclaration
  schemaPath : Json
  options : OrderedMap Json
  deriving DecidableEq, Repr

def OperationMapping.declaredName (m : OperationMapping) (operation : Operation) : Json :=
  (m.operations.lookup operation).getD .null

namespace Document

def clientProvider : Text := "prisma-client-js"

def mappingFor (d : Document) (model : Json) : OperationMapping :=
  (d.mappings.find? fun m => model.finds m.model).getD ⟨model, []⟩

def textOf? : Json → Option Text
  | .str s => some s
  | _ => none

def clientGenerator (d : Document) : Except Failure GeneratorDeclaration :=
  match d.generators.find? (·.provider = .str clientProvider) with
  | some g => .ok g
  | none =>
    match d.generators.mapM fun g => textOf? g.provider with
    | some providers => .error (.noClient providers)
    | none => .error .wrongKind

/-- What a loop over a value goes through: the items of a list, the code points of a text, the keys
of an object, and nothing for a value that stands for nothing. -/
def elements (value : Json) : Except Failure (List Json) :=
  if value.isVoid then .ok []
  else
    match value with
    | .list items => .ok items
    | .str s => .ok (s.map fun c => .str [c])
    | .object members => .ok (members.map fun m => .str m.1)
    | _ => .error .wrongKind

def fault {α : Type} (f : Fault) : Except Failure α := .error (.document f)

def objectAt (raw : List (Text × Json)) (key : Text) : Except Failure (OrderedMap Json) :=
  match Json.member raw key with
  | .object members => .ok members
  | value => if value.isVoid then .ok [] else fault (.sectionNotObject key value)

def readField (model : Json) (raw : Json) : Except Failure Field :=
  match raw with
  | .object members =>
    if (Json.member members "name").isVoid then fault (.fieldUnnamed model raw)
    else
      .ok {
        name := Json.member members "name"
        kind := Json.memberOr members "kind" (.str "scalar")
        type := Json.memberOr members "type" (.str "String")
        isList := Json.memberOr members "isList" (.bool false)
        isRequired := Json.memberOr members "isRequired" (.bool true) }
  | _ => fault (.fieldUnnamed model raw)

def readModel (raw : Json) : Except Failure Model :=
  match raw with
  | .object members =>
    let name := Json.member members "name"
    if name.isVoid then fault (.modelUnnamed raw)
    else do
      let fields ← elements (Json.member members "fields")
      let fields ← fields.mapM (readField name)
      return ⟨name, fields, Json.member members "documentation"⟩
  | _ => fault (.modelUnnamed raw)

def readModels (raw : List (Text × Json)) : Except Failure (List Model) := do
  let datamodel ← objectAt raw "datamodel"
  match Json.member datamodel "models" with
  | .list models => models.mapM readModel
  | _ => fault .noModels

/-- Names that occur more than once. They are reported in the order of their code points, which is
possible only for texts. -/
def checkDistinct (names : List Json) : Except Failure Unit :=
  let repeated := names.filter fun n => 1 < names.countP n.same
  if repeated.isEmpty then .ok ()
  else
    match repeated.mapM textOf? with
    | some texts => fault (.duplicateModels (texts.eraseDups.mergeSort fun a b => decide (a ≤ b)))
    | none => .error .wrongKind

def operationsOf (members : List (Text × Json)) : List (Operation × Json) :=
  members.filterMap fun (m : Text × Json) =>
    if m.1 = "model" then none else (Operation.ofName? m.1).map fun o => (o, m.2)

def ignoredKeys (members : List (Text × Json)) : List Text :=
  members.filterMap fun (m : Text × Json) =>
    if m.1 = "model" then none else if (Operation.ofName? m.1).isSome then none else some m.1

def readMapping (raw : Json) : Logged OperationMapping :=
  match raw with
  | .object members =>
    let model := Json.member members "model"
    if model.isVoid then .fail (.document (.mappingUnnamed raw))
    else
      ⟨(ignoredKeys members).map fun key =>
          Log.record .debug .document
            ("  " ++ model.text ++ ": ignoring mapping key " ++ Text.quoted key),
        .ok ⟨model, operationsOf members⟩⟩
  | _ => .fail (.document (.mappingUnnamed raw))

def readMappings (raw : List (Text × Json)) : Logged (List OperationMapping) := do
  let mappings ← .ofExcept (objectAt raw "mappings")
  match Json.member mappings "modelOperations" with
  | .list entries => Logged.forList readMapping entries
  | value => if value.isVoid then return [] else .fail (.document .mappingsNotList)

/-- A provider can be held by an object that says where its value comes from. -/
def providerOf (value : Json) : Json :=
  match value with
  | .object members =>
    let inner := Json.member members "value"
    if inner.isVoid then .str [] else inner
  | _ => value

def readGenerator (raw : Json) : Except Failure GeneratorDeclaration :=
  match raw with
  | .object members => do
    let features ← elements (Json.member members "previewFeatures")
    return {
      name := Json.memberOr members "name" (.str [])
      provider := providerOf (Json.memberOr members "provider" (.str []))
      previewFeatures := features }
  | _ => fault (.generatorNotObject raw)

def readGenerators (raw : List (Text × Json)) : Except Failure (List GeneratorDeclaration) := do
  let entries ← elements (Json.member raw "generators")
  entries.mapM readGenerator

def ofJson (raw : Json) : Logged Document :=
  match raw with
  | .object raw => do
    let models ← .ofExcept (readModels raw)
    .ofExcept (checkDistinct (models.map (·.name)))
    let mappings ← readMappings raw
    let generators ← .ofExcept (readGenerators raw)
    let options ← .ofExcept (objectAt raw "config")
    return ⟨models, mappings, generators, Json.member raw "schemaPath", options⟩
  | _ => .fail (.document .notObject)

inductive Source
  | missing | directory | bytes (content : ByteArray)

def unifyLineEnds : List Char → List Char
  | '\r' :: '\n' :: rest => '\n' :: unifyLineEnds rest
  | '\r' :: rest => '\n' :: unifyLineEnds rest
  | c :: rest => c :: unifyLineEnds rest
  | [] => []

def readText (path : Text) (content : String) : Logged Document :=
  match Json.read (String.ofList (unifyLineEnds content.toList)) with
  | .ok value => ofJson value
  | .error (.malformed e) => .fail (.document (.notJson path e))
  | .error (.integerTooLong digits) => .fail (.longInteger digits)
  | .error .tooDeep => .fail .deepNesting

def load (path : Text) (source : Source) : Logged Document :=
  match source with
  | .missing => .fail (.document (.unreadable path .missing))
  | .directory => .fail (.document (.unreadable path .directory))
  | .bytes content =>
    match String.fromUTF8? content with
    | some text => readText path text
    | none => .fail .undecodable

end Document

end RouterLayer
