import RouterLayer.Proofs.Router.Imports

set_option autoImplicit false

namespace RouterLayer

namespace Router

variable {site : Site} {options : Options}

theorem bound_optionalImport {name : Text} {path? : Option Text} {imports : List Import}
    (h : optionalImport site name path? = .ok imports) :
    imports.flatMap (·.bound) = (path?.map fun _ => name).toList := by
  rcases optionalImport_ok h with ⟨rfl, rfl⟩ | ⟨path, s, rfl, _, rfl⟩ <;> rfl

theorem closed_bootstrapFile {f : SourceFile} (h : bootstrapFile site options = .ok f) :
    f.Closed := by
  obtain ⟨imports, himports, rfl⟩ := bootstrapFile_ok h
  obtain ⟨context, settings, middleware, _, hsettings, hmiddleware, rfl⟩ :=
    bootstrapImports_ok himports
  refine SourceFile.closed_ofParts ?_
  simp only [List.flatMap_cons, List.flatMap_append, bound_optionalImport hsettings,
    bound_optionalImport hmiddleware]
  unfold bootstrapStatements globalStatements shieldStatements publicMiddlewares shieldImports
  cases options.withShield <;> cases options.trpcOptionsPath <;> cases options.middleware <;>
    simp [ClosedFrom, Statement.uses, Statement.declared, MiddlewareSetting.path?]

section ModelFile

variable {model emitter : Text} {operations : List Operation}

theorem mem_bound_modelImports {name : Text}
    (h : name ∈ (["t", baseProcedureName options, model, "observable", "ee"] : List Text)) :
    name ∈ (modelImports model operations options emitter).flatMap (·.bound) := by
  simp only [modelImports, List.flatMap_cons, List.flatMap_append, List.flatMap_nil,
    Import.bound_names, Import.bound_types, List.mem_append, List.mem_cons, List.not_mem_nil,
    or_false] at h ⊢
  tauto

theorem schemaOf_mem_bound_modelImports {o : Operation} (hzod : options.withZod = true)
    (ho : o ∈ operations) :
    schemaOf model o ∈ (modelImports model operations options emitter).flatMap (·.bound) := by
  have hschema : schemaOf model o ∈ (schemaImports model operations).flatMap (·.bound) :=
    bound_schemaImports ho
  simp only [modelImports, hzod, if_true, List.flatMap_cons, List.flatMap_append, List.mem_append]
  exact .inr (.inl hschema)

theorem withZod_of_takesInput {o : Operation} {key resultName : Json}
    (h : (procedureOf model options o key resultName).takesInput = true) :
    options.withZod = true := by
  cases hzod : options.withZod with
  | true => rfl
  | false =>
    have hinput : (procedureOf model options o key resultName).inputType = [] := by
      simp [procedureOf, Naming.inputType, hzod]
    rw [Procedure.takesInput, hinput] at h
    cases h

theorem uses_procedureOf {o : Operation} {key resultName : Json} {name : Text}
    (h : name ∈ (Endpoint.procedure (procedureOf model options o key resultName)).uses) :
    name = baseProcedureName options ∨ name = "ee" ∨
      (options.withZod = true ∧ name = schemaOf model o) := by
  simp only [Endpoint.uses, List.mem_cons, List.mem_append, List.mem_ite_nil_right,
    List.not_mem_nil, or_false] at h
  rcases h with h | ⟨htakes, h⟩ | ⟨_, h⟩
  · exact .inl h
  · have hzod := withZod_of_takesInput htakes
    refine .inr (.inr ⟨hzod, ?_⟩)
    rw [h, schemaOf, ← hzod]
    rfl
  · exact .inr (.inl h)

theorem uses_modelEndpoints {resolved : List ResolvedOperation} {notifications : List Text}
    {endpoints : List Endpoint} {name : Text}
    (h : modelEndpoints model resolved notifications options = .ok endpoints)
    (hname : name ∈ endpoints.flatMap (·.uses)) :
    name ∈ ([baseProcedureName options, model, "observable", "ee"] : List Text) ∨
      (options.withZod = true ∧ ∃ r ∈ resolved, name = schemaOf model r.operation) := by
  obtain ⟨e, he, hname⟩ := List.mem_flatMap.mp hname
  rcases mem_modelEndpoints h he with ⟨r, hr, key, declared, rfl⟩ | ⟨event, _, rfl⟩
  · rcases uses_procedureOf hname with rfl | rfl | ⟨hzod, rfl⟩
    · exact .inl (by simp)
    · exact .inl (by simp)
    · exact .inr ⟨hzod, r, hr, rfl⟩
  · simp only [Endpoint.uses, subscription, List.mem_cons, List.not_mem_nil, or_false] at hname ⊢
    tauto

theorem closed_modelFile {resolved : List ResolvedOperation} {notifications : List Text}
    {f : SourceFile} (h : modelFile site model resolved notifications options = .ok f) :
    f.Closed := by
  obtain ⟨emitter, endpoints, _, hendpoints, rfl⟩ := modelFile_ok h
  refine SourceFile.closed_ofParts ⟨fun name hname => ?_, trivial⟩
  simp only [Statement.uses, List.map_nil, List.append_nil, List.mem_cons] at hname
  rcases hname with rfl | hname
  · exact mem_bound_modelImports (by simp)
  · rcases uses_modelEndpoints hendpoints hname with hname | ⟨hzod, r, hr, rfl⟩
    · exact mem_bound_modelImports (List.mem_cons_of_mem _ hname)
    · exact schemaOf_mem_bound_modelImports hzod (List.mem_map_of_mem hr)

end ModelFile

theorem closed_appFile {routers : List ModelRouter} {f : SourceFile}
    (h : appFile routers = .ok f) : f.Closed := by
  obtain ⟨_, rfl⟩ := appFile_ok h
  refine SourceFile.closed_ofParts ⟨fun name hname => ?_, trivial⟩
  simp only [Statement.uses, List.flatMap_nil, List.nil_append, List.map_map, List.mem_cons,
    List.flatMap_cons, List.mem_append, Import.bound_names] at hname ⊢
  rcases hname with rfl | hname
  · exact .inl (.inl rfl)
  · obtain ⟨r, hr, rfl⟩ := List.mem_map.mp hname
    exact .inr (List.mem_flatMap.mpr ⟨appImport r.model, List.mem_map_of_mem hr,
      List.mem_singleton.mpr rfl⟩)

end Router

theorem Policy.closed_policyFile {site : Router.Site} {m : PermissionMatrix} {options : Options}
    {f : SourceFile} (h : policyFile site m options = .ok f) : f.Closed := by
  obtain ⟨imports, himports, rfl⟩ := policyFile_ok h
  obtain ⟨context, _, rfl⟩ := policyImports_ok himports
  refine SourceFile.closed_ofParts ⟨fun name hname => ?_, trivial⟩
  simp only [Statement.uses, List.flatMap_cons, List.flatMap_nil, Import.bound_names,
    List.mem_append, List.mem_cons, List.not_mem_nil, or_false] at hname ⊢
  tauto

end RouterLayer
