import RouterLayer.Json.Display
import RouterLayer.Operation
import RouterLayer.Plural
import RouterLayer.Text.Case
import RouterLayer.Text.Split

set_option autoImplicit false

namespace RouterLayer.Naming

def collection (model : Text) : Text := Plural.plural (Text.lower model)

def routerSymbol (model : Text) : Text := collection model ++ "Router"

def routerKey (model : Text) : Text := Text.lower model

def routersDir : Text := "routers"

def routerPath (model : Text) : Text := routersDir ++ "/" ++ model ++ ".router.ts"

def mapFirst (f : CodePoint → Text) : Text → Text
  | [] => []
  | c :: rest => f c ++ rest

def uncapitalize (s : Text) : Text := mapFirst Text.lowerPoint s

def capitalize (s : Text) : Text := mapFirst Text.upperPoint s

/-- The declared name, of whatever kind it is; one that stands for nothing leaves the name of the
operation. -/
def endpointName (operation : Text) (declared : Json) : Json :=
  if declared.isVoid then .str operation else declared

def procedureKey (name model : Text) (showModel : Bool) : Text :=
  if showModel then name
  else
    match Text.dropFirst model name with
    | [] => name
    | rest => rest

/-- The schema of an operation's input; empty without validation, and without an operation. -/
def inputType (operation : Option Operation) (model : Text) (validated : Bool) : Text :=
  match operation with
  | some o => if validated then model ++ o.schemaSuffix else []
  | none => []

def schemaModule (operation : Operation) (model : Text) : Text :=
  "../schemas/" ++ operation.name ++ model ++ ".schema"

def eventChannel (model event : Text) : Text := model ++ ":" ++ event

def listener (event : Text) : Text := "on" ++ capitalize event

end RouterLayer.Naming
