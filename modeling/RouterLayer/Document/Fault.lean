import RouterLayer.Json.Display
import RouterLayer.Json.Reader

set_option autoImplicit false

namespace RouterLayer.Document

inductive Unreadable
  | missing | directory
  deriving DecidableEq, Repr

def Unreadable.text : Unreadable → Text
  | .missing => "[Errno 2] No such file or directory"
  | .directory => "[Errno 21] Is a directory"

inductive Fault
  | unreadable (path : Text) (reason : Unreadable)
  | notJson (path : Text) (error : Json.SyntaxError)
  | notObject
  | sectionNotObject (key : Text) (value : Json)
  | noModels
  | modelUnnamed (entry : Json)
  | fieldUnnamed (model entry : Json)
  | duplicateModels (names : List Text)
  | mappingsNotList
  | mappingUnnamed (entry : Json)
  | generatorNotObject (entry : Json)
  deriving DecidableEq, Repr

def Fault.message : Fault → Text
  | .unreadable path reason =>
    "Cannot read schema document " ++ path ++ ": " ++ reason.text ++ ": " ++ Text.quoted path
  | .notJson path error =>
    "Schema document " ++ path ++ " is not valid JSON: " ++ error.message
  | .notObject => "Schema document must be a JSON object"
  | .sectionNotObject key value =>
    "Schema document " ++ key ++ " must be an object, got " ++ value.kindWord
  | .noModels => "Schema document has no datamodel.models list"
  | .modelUnnamed entry => "Model entry without a name: " ++ entry.display
  | .fieldUnnamed model entry =>
    "Model " ++ model.text ++ " has a field without a name: " ++ entry.display
  | .duplicateModels names => "Duplicate model names: " ++ List.intercalate ", " names
  | .mappingsNotList => "mappings.modelOperations must be a list"
  | .mappingUnnamed entry => "Operation mapping without a model: " ++ entry.display
  | .generatorNotObject entry => "Generator entry must be an object: " ++ entry.display

end RouterLayer.Document
