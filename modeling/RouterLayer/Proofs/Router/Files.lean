import RouterLayer.Policy
import RouterLayer.Proofs.Outcome
import RouterLayer.Router.AppFile
import RouterLayer.Router.Bootstrap
import RouterLayer.Router.ModelFile

set_option autoImplicit false

namespace RouterLayer

namespace SourceFile

@[simp] theorem path_addImport (f : SourceFile) (i : Import) : (f.addImport i).path = f.path := by
  unfold addImport; split <;> rfl

@[simp] theorem statements_addImport (f : SourceFile) (i : Import) :
    (f.addImport i).statements = f.statements := by
  unfold addImport; split <;> rfl

@[simp] theorem path_addImports (imports : List Import) (f : SourceFile) :
    (imports.foldl addImport f).path = f.path := by
  induction imports generalizing f with
  | nil => rfl
  | cons i imports ih => rw [List.foldl_cons, ih, path_addImport]

@[simp] theorem statements_addImports (imports : List Import) (f : SourceFile) :
    (imports.foldl addImport f).statements = f.statements := by
  induction imports generalizing f with
  | nil => rfl
  | cons i imports ih => rw [List.foldl_cons, ih, statements_addImport]

theorem addStatements (statements : List Statement) (f : SourceFile) :
    statements.foldl addStatement f = ⟨f.path, f.imports, f.statements ++ statements⟩ := by
  induction statements generalizing f with
  | nil => simp
  | cons s statements ih => simp [ih, addStatement]

/-- The file of a list of imports, each kept once, and a list of statements. -/
def ofParts (path : Text) (imports : List Import) (statements : List Statement) : SourceFile :=
  ⟨path, (imports.foldl addImport (empty path)).imports, statements⟩

theorem addStatement_addImports (path : Text) (imports : List Import) (s : Statement) :
    (imports.foldl addImport (empty path)).addStatement s = ofParts path imports [s] := by
  simp [addStatement, ofParts, empty]

end SourceFile

namespace Router

theorem bootstrapFile_ok {site : Site} {options : Options} {f : SourceFile}
    (h : bootstrapFile site options = .ok f) :
    ∃ imports, bootstrapImports site options = .ok imports ∧
      f = .ofParts bootstrapPath imports (bootstrapStatements options) := by
  obtain ⟨imports, hi, h⟩ := bind_eq_ok.mp h
  cases h
  refine ⟨imports, hi, ?_⟩
  rw [SourceFile.addStatements, SourceFile.path_addImports, SourceFile.statements_addImports]
  rfl

theorem modelEndpoints_ok {model : Text} {operations : List ResolvedOperation}
    {notifications : List Text} {options : Options} {endpoints : List Endpoint}
    (h : modelEndpoints model operations notifications options = .ok endpoints) :
    ∃ procedures,
      List.Forall₂ (fun r p => procedure model options r = .ok p) operations procedures ∧
      endpoints = procedures.map .procedure ++
        notifications.map fun event => .subscription (subscription model event options) := by
  obtain ⟨procedures, hprocedures, h⟩ := bind_eq_ok.mp h
  cases h
  exact ⟨procedures, mapM_eq_ok.mp hprocedures, rfl⟩

theorem mem_modelEndpoints {model : Text} {operations : List ResolvedOperation}
    {notifications : List Text} {options : Options} {endpoints : List Endpoint}
    (h : modelEndpoints model operations notifications options = .ok endpoints) {e : Endpoint}
    (he : e ∈ endpoints) :
    (∃ r ∈ operations, ∃ key name, e = .procedure (procedureOf model options r.operation key name)) ∨
      ∃ event ∈ notifications, e = .subscription (subscription model event options) := by
  obtain ⟨procedures, hprocedures, rfl⟩ := modelEndpoints_ok h
  rcases List.mem_append.mp he with he | he
  · obtain ⟨p, hp, rfl⟩ := List.mem_map.mp he
    obtain ⟨r, hr, hbuilt⟩ := (mem_iff_ok hprocedures).mp hp
    obtain ⟨key, _, rfl⟩ := map_eq_ok.mp hbuilt
    exact .inl ⟨r, hr, key, _, rfl⟩
  · obtain ⟨event, hevent, rfl⟩ := List.mem_map.mp he
    exact .inr ⟨event, hevent, rfl⟩

theorem modelFile_ok {site : Site} {model : Text} {operations : List ResolvedOperation}
    {notifications : List Text} {options : Options} {f : SourceFile}
    (h : modelFile site model operations notifications options = .ok f) :
    ∃ emitter endpoints,
      configuredSpecifier site Naming.routersDir options.emitterPath = .ok emitter ∧
      modelEndpoints model operations notifications options = .ok endpoints ∧
      f = .ofParts (Naming.routerPath model)
        (modelImports model (operations.map (·.operation)) options emitter)
        [.router (Naming.routerSymbol model) endpoints []] := by
  obtain ⟨emitter, hemitter, h⟩ := bind_eq_ok.mp h
  obtain ⟨endpoints, hendpoints, h⟩ := bind_eq_ok.mp h
  cases h
  exact ⟨emitter, endpoints, hemitter, hendpoints, SourceFile.addStatement_addImports ..⟩

theorem appFile_ok {routers : List ModelRouter} {f : SourceFile} (h : appFile routers = .ok f) :
    checkAll Taken.empty ((routers.filter (·.hasEndpoints)).map (·.model)) = .ok () ∧
      f = .ofParts appPath
        (Import.names "./helpers/createRouter" ["t"] ::
          ((routers.filter (·.hasEndpoints)).map (·.model)).map appImport)
        [.router "appRouter" []
          (((routers.filter (·.hasEndpoints)).map (·.model)).map appEntry)] := by
  obtain ⟨⟨⟩, hcheck, h⟩ := bind_eq_ok.mp h
  cases h
  exact ⟨hcheck, SourceFile.addStatement_addImports ..⟩

end Router

theorem Policy.policyFile_ok {site : Router.Site} {m : PermissionMatrix} {options : Options}
    {f : SourceFile} (h : policyFile site m options = .ok f) :
    ∃ imports, policyImports site options = .ok imports ∧
      f = .ofParts Router.shieldPath imports [.policy "permissions" "Context" m.members] := by
  obtain ⟨imports, hi, h⟩ := bind_eq_ok.mp h
  cases h
  exact ⟨imports, hi, SourceFile.addStatement_addImports ..⟩

end RouterLayer
