import RouterLayer.Json.Display
import RouterLayer.Json.Indented
import RouterLayer.SourceFile.Basic
import RouterLayer.Text.Split

set_option autoImplicit false

namespace RouterLayer

/-- An object literal of permissions. The rule that allows is a name of the generated code, so it
loses its quotes. -/
def rulesLiteral (rules : List (Text × Json)) : Text :=
  Text.replaceAll "\"allow\"" "allow" (Json.indented 0 (.object rules))

def filled (s : Option Text) : Option Text := s.filter fun s => !s.isEmpty

namespace Import

/-- The whole module goes before its main export, and that before single names. -/
def binding (i : Import) : Text :=
  match filled i.whole, filled i.default with
  | some name, _ => "* as " ++ name
  | none, some name => name
  | none, none => "\x7b " ++ List.intercalate ", " i.named ++ " \x7d"

def line (i : Import) : Text :=
  "import " ++ (if i.typeOnly then "type " else "") ++ i.binding ++ " from '" ++ i.module ++ "';\n"

end Import

namespace Procedure

def takesInput (p : Procedure) : Bool := !p.inputType.isEmpty

def inputLine (p : Procedure) : Text :=
  if p.takesInput then "    .input(" ++ p.inputType ++ ")\n" else []

def emitLine (p : Procedure) : Text :=
  match filled p.eventChannel with
  | some channel => "      ee.emit('" ++ channel ++ "', " ++ p.resultName.text ++ ");\n"
  | none => []

def render (p : Procedure) : Text :=
  "  " ++ p.key.text ++ ": " ++ p.baseProcedure ++ "\n" ++
  p.inputLine ++
  "    ." ++ p.category.name ++ "(async (\x7b ctx" ++ (if p.takesInput then ", input" else "") ++
    " \x7d) => \x7b\n" ++
  "      const " ++ p.resultName.text ++ " = await ctx.prisma." ++ p.clientAccessor ++ "." ++
    p.clientMethod ++ "(" ++ p.callExpression ++ ");\n" ++
  p.emitLine ++
  "      return " ++ p.resultName.text ++ ";\n" ++
  "    \x7d),\n"

end Procedure

def Subscription.render (s : Subscription) : Text :=
  "  " ++ s.key ++ ": " ++ s.baseProcedure ++ ".subscription(() =>\n" ++
  "    observable<" ++ s.payloadType ++ ">((emit) => \x7b\n" ++
  "      const " ++ s.listener ++ " = (data: " ++ s.payloadType ++ ") => emit.next(data);\n" ++
  "      ee.on('" ++ s.channel ++ "', " ++ s.listener ++ ");\n" ++
  "      return () => \x7b\n" ++
  "        ee.off('" ++ s.channel ++ "', " ++ s.listener ++ ");\n" ++
  "      \x7d;\n" ++
  "    \x7d),\n" ++
  "  ),\n"

def Endpoint.render : Endpoint → Text
  | .procedure p => p.render
  | .subscription s => s.render

def RouterEntry.render (e : RouterEntry) : Text := "  " ++ e.key ++ ": " ++ e.router ++ ",\n"

def passThrough : Text := "async (\x7b ctx, next \x7d) => \x7b\n  return next(\x7b ctx \x7d);\n\x7d"

def useCall (middleware : Text) : Text := ".use(" ++ middleware ++ ")"

def Statement.render : Statement → Text
  | .start contextType options =>
    "export const t = trpc.initTRPC.context<" ++ contextType ++ ">().create(" ++
      options.getD [] ++ ");\n"
  | .middleware name handler =>
    "export const " ++ name ++ " = t.middleware(" ++
      (filled handler).getD passThrough ++ ");\n"
  | .baseProcedure name middlewares =>
    "export const " ++ name ++ " = t.procedure" ++
      middlewares.flatMap useCall ++ ";\n"
  | .router symbol endpoints entries =>
    "export const " ++ symbol ++ " = t.router(\x7b\n" ++
      endpoints.flatMap (·.render) ++ entries.flatMap (·.render) ++ "\x7d);\n"
  | .policy symbol contextType rules =>
    "export const " ++ symbol ++ " = shield<" ++ contextType ++ ">(" ++ rulesLiteral rules ++ ");\n"
  | .blank _ => []

/-- Statements with an empty line before each; the first has it only if something precedes. -/
def renderStatements : (opened : Bool) → List Statement → Text
  | _, [] => []
  | opened, s :: rest => (if opened then "\n" else "") ++ s.render ++ renderStatements true rest

def SourceFile.render (f : SourceFile) : Text :=
  f.imports.flatMap (·.line) ++ renderStatements (!f.imports.isEmpty) f.statements

end RouterLayer
