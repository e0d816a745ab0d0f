import RouterLayer.SourceFile.Render

set_option autoImplicit false

namespace RouterLayer.Procedure

def opening (p : Procedure) : Text := "  " ++ p.key.text ++ ": " ++ p.baseProcedure ++ "\n"

def schemaLine (schema : Text) : Text := "    .input(" ++ schema ++ ")\n"

def resolverLine (p : Procedure) (parameter : Text) : Text :=
  "    ." ++ p.category.name ++ "(async (\x7b " ++ parameter ++ " \x7d) => \x7b\n"

def callLine (p : Procedure) (expression : Text) : Text :=
  "      const " ++ p.resultName.text ++ " = await ctx.prisma." ++ p.clientAccessor ++ "." ++
    p.clientMethod ++ "(" ++ expression ++ ");\n"

def parameter (p : Procedure) : Text := if p.takesInput then "ctx, input" else "ctx"

def ending (p : Procedure) : Text :=
  p.emitLine ++ "      return " ++ p.resultName.text ++ ";\n    \x7d),\n"

theorem render_eq (p : Procedure) : p.render = p.opening ++ p.inputLine ++
    p.resolverLine p.parameter ++ p.callLine p.callExpression ++ p.ending := by
  have hparameter (s : Text) : ("(async (\x7b " : Text) ++ (p.parameter ++ s) =
      "(async (\x7b ctx" ++ ((if p.takesInput then ", input" else "") ++ s) := by
    unfold parameter
    cases p.takesInput <;> rfl
  unfold render opening resolverLine callLine ending
  simp only [List.append_assoc, hparameter]
  rfl

end RouterLayer.Procedure
