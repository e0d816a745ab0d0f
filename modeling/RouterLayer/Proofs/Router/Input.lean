import RouterLayer.Proofs.Run.Success
import RouterLayer.Proofs.SourceFile.Framed
import RouterLayer.Proofs.SourceFile.Procedure

/-!
Whether a procedure reads its input. Its text shows it at three places: a line that declares the
schema, the parameter of the resolver, and what is passed to the client. Nothing is known of the
names in between, so each place is found by what must stand before it. The three agree, and they say
whether the input is validated (`procedure_input`).
-/

set_option autoImplicit false

namespace RouterLayer

namespace Procedure

def IsDeclaration (declared : Text) : Prop := declared = [] ∨ ∃ schema, declared = schemaLine schema

def IsBuiltFromInput (expression : Text) : Prop :=
  expression = "input" ∨ ∃ names : List Text, names ≠ [] ∧
    expression = "\x7b " ++ List.intercalate ", " (names.map inputPart) ++ " \x7d"

def DeclaresInput (p : Procedure) : Prop :=
  ∃ schema rest, p.render = p.opening ++ schemaLine schema ++ rest

def BindsInput (p : Procedure) : Prop :=
  ∃ declared rest, IsDeclaration declared ∧
    p.render = p.opening ++ declared ++ p.resolverLine "ctx, input" ++ rest

def PassesInput (p : Procedure) : Prop :=
  ∃ declared parameter expression rest, IsDeclaration declared ∧
    parameter ∈ (["ctx", "ctx, input"] : List Text) ∧ IsBuiltFromInput expression ∧
    p.render = p.opening ++ declared ++ p.resolverLine parameter ++ p.callLine expression ++ rest

variable {p : Procedure}

theorem isDeclaration_inputLine (p : Procedure) : IsDeclaration p.inputLine := by
  unfold inputLine
  split
  · exact .inr ⟨_, rfl⟩
  · exact .inl rfl

theorem render_of_not_takesInput (h : p.takesInput = false) : p.render =
    p.opening ++ (p.resolverLine "ctx" ++ (p.callLine p.callExpression ++ p.ending)) := by
  have hline : p.inputLine = [] := by simp [inputLine, h]
  have hparameter : p.parameter = "ctx" := by simp [parameter, h]
  rw [render_eq, hline, hparameter]
  simp only [List.append_assoc, List.nil_append]

theorem declaresInput_iff : p.DeclaresInput ↔ p.takesInput = true := by
  constructor
  · rintro ⟨schema, rest, h⟩
    by_contra htakes
    rw [render_of_not_takesInput (by simpa using htakes), schemaLine, resolverLine] at h
    simp only [List.append_assoc, List.append_cancel_left_eq] at h
    exact p.category.input_ne_name _ _ h.symm
  · intro htakes
    have hline : p.inputLine = schemaLine p.inputType := by simp [inputLine, htakes, schemaLine]
    refine ⟨p.inputType, p.resolverLine p.parameter ++ p.callLine p.callExpression ++ p.ending, ?_⟩
    rw [render_eq, hline]
    simp only [List.append_assoc]

theorem eq_of_isDeclaration (h : p.takesInput = false) {declared rest : Text}
    (hdeclared : IsDeclaration declared) (heq : p.render = p.opening ++ declared ++ rest) :
    p.resolverLine "ctx" ++ (p.callLine p.callExpression ++ p.ending) = rest := by
  rcases hdeclared with rfl | ⟨schema, rfl⟩
  · rw [List.append_nil, render_of_not_takesInput h] at heq
    exact List.append_cancel_left heq
  · have htakes := declaresInput_iff.mp ⟨schema, rest, heq⟩
    rw [h] at htakes
    cases htakes

theorem resolverLine_ne (s t : Text) :
    p.resolverLine "ctx" ++ s ≠ p.resolverLine "ctx, input" ++ t := by
  intro h
  unfold resolverLine at h
  simp only [List.append_assoc, List.append_cancel_left_eq] at h
  rw [← List.append_assoc] at h
  exact Text.append_ne_append (by decide) h

theorem bindsInput_iff : p.BindsInput ↔ p.takesInput = true := by
  constructor
  · rintro ⟨declared, rest, hdeclared, h⟩
    by_contra htakes
    rw [List.append_assoc] at h
    exact resolverLine_ne _ _ (eq_of_isDeclaration (by simpa using htakes) hdeclared h)
  · intro htakes
    have hparameter : p.parameter = "ctx, input" := by simp [parameter, htakes]
    refine ⟨p.inputLine, p.callLine p.callExpression ++ p.ending, p.isDeclaration_inputLine, ?_⟩
    rw [render_eq, hparameter]
    simp only [List.append_assoc]

theorem passesInput_of_ne (h : p.callArguments ≠ some []) : p.PassesInput := by
  have hbuilt : IsBuiltFromInput p.callExpression := by
    rcases harguments : p.callArguments with _ | _ | ⟨name, names⟩
    · exact .inl (callExpression_of_none harguments)
    · contradiction
    · exact .inr ⟨name :: names, nofun, by rw [callExpression, harguments]⟩
  have hparameter : p.parameter ∈ (["ctx", "ctx, input"] : List Text) := by
    unfold parameter
    split <;> decide
  exact ⟨p.inputLine, p.parameter, p.callExpression, p.ending, p.isDeclaration_inputLine,
    hparameter, hbuilt, p.render_eq⟩

theorem IsBuiltFromInput.ne {expression : Text} (h : IsBuiltFromInput expression) (s t : Text) :
    (");\n" : Text) ++ s ≠ expression ++ t := by
  rcases h with rfl | ⟨names, -, rfl⟩
  · exact Text.append_ne_append (by decide)
  · simp only [List.append_assoc]
    exact Text.append_ne_append (by decide)

theorem not_passesInput (htakes : p.takesInput = false) (h : p.callArguments = some []) :
    ¬p.PassesInput := by
  rintro ⟨declared, parameter, expression, rest, hdeclared, hparameter, hbuilt, heq⟩
  simp only [List.append_assoc] at heq
  rw [← List.append_assoc] at heq
  replace heq := eq_of_isDeclaration htakes hdeclared heq
  simp only [List.mem_cons, List.not_mem_nil, or_false] at hparameter
  rcases hparameter with rfl | rfl
  · rw [callLine, callLine, callExpression_of_nil h] at heq
    simp only [List.append_assoc, List.append_cancel_left_eq] at heq
    exact hbuilt.ne _ _ heq
  · exact resolverLine_ne _ _ heq

end Procedure

namespace Router

variable (model : Text) (options : Options) (operation : Operation) (key name : Json)

theorem takesInput_procedureOf :
    (procedureOf model options operation key name).takesInput = options.withZod := by
  have hsuffix : operation.base.schemaSuffix ≠ [] := by
    cases operation <;> decide
  cases hzod : options.withZod with
  | false => simp [procedureOf, Procedure.takesInput, Naming.inputType, hzod]
  | true => simp [procedureOf, Procedure.takesInput, Naming.inputType, hzod, hsuffix]

theorem callArguments_procedureOf :
    (procedureOf model options operation key name).callArguments =
      if options.withZod then operation.callArguments else some [] := by
  have htakes := takesInput_procedureOf model options operation key name
  unfold procedureOf Procedure.takesInput at *
  cases hzod : options.withZod <;> simp_all

theorem passesInput_procedureOf :
    (procedureOf model options operation key name).PassesInput ↔ options.withZod = true := by
  have htakes := takesInput_procedureOf model options operation key name
  have harguments := callArguments_procedureOf model options operation key name
  cases hzod : options.withZod with
  | false =>
    rw [hzod] at htakes harguments
    simpa using Procedure.not_passesInput htakes harguments
  | true =>
    have hne : operation.callArguments ≠ some [] := by
      cases operation <;> decide
    rw [hzod] at harguments
    exact iff_of_true (Procedure.passesInput_of_ne (harguments ▸ hne)) rfl

/-- A procedure declares its input, takes it and passes it on, or none of these. -/
theorem procedure_input (model : Text) (options : Options) (r : ResolvedOperation) :
    (r.declared.isOptionalText = true → ∃ p, procedure model options r = .ok p) ∧
      ∀ p, procedure model options r = .ok p →
        (p.DeclaresInput ↔ options.withZod = true) ∧ (p.BindsInput ↔ options.withZod = true) ∧
          (p.PassesInput ↔ options.withZod = true) := by
  refine ⟨fun h => exists_ok (isOk_procedure model h), fun p hp => ?_⟩
  obtain ⟨key, -, rfl⟩ := map_eq_ok.mp hp
  rw [Procedure.declaresInput_iff, Procedure.bindsInput_iff, takesInput_procedureOf]
  exact ⟨Iff.rfl, Iff.rfl, passesInput_procedureOf model options r.operation key _⟩

theorem procedure_input_upsert :
    (∃ p, procedure "Post" { Options.default with withZod := true } ⟨.upsertOne, .null⟩ = .ok p ∧
        p.DeclaresInput ∧ p.BindsInput ∧ p.PassesInput) ∧
      ∃ p, procedure "Post" { Options.default with withZod := false } ⟨.upsertOne, .null⟩ = .ok p ∧
        ¬p.DeclaresInput ∧ ¬p.BindsInput ∧ ¬p.PassesInput := by
  constructor
  · obtain ⟨hreturns, hagree⟩ :=
      procedure_input "Post" { Options.default with withZod := true } ⟨.upsertOne, .null⟩
    obtain ⟨p, hp⟩ := hreturns rfl
    obtain ⟨hdeclares, hbinds, hpasses⟩ := hagree p hp
    exact ⟨p, hp, hdeclares.mpr rfl, hbinds.mpr rfl, hpasses.mpr rfl⟩
  · obtain ⟨hreturns, hagree⟩ :=
      procedure_input "Post" { Options.default with withZod := false } ⟨.upsertOne, .null⟩
    obtain ⟨p, hp⟩ := hreturns rfl
    obtain ⟨hdeclares, hbinds, hpasses⟩ := hagree p hp
    exact ⟨p, hp, hdeclares.not.mpr nofun, hbinds.not.mpr nofun, hpasses.not.mpr nofun⟩

end Router

end RouterLayer
