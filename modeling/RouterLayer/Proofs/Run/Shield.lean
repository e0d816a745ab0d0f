import RouterLayer.Proofs.Run.Links

/-!
No endpoint passes the shield by. All endpoints of a run are built on one base procedure. With the
shield, its chain holds the middleware of the permissions, and these come from the file of the same
run; without it, there is no such file and nobody asks for the permissions (`shields_generate`).
-/

set_option autoImplicit false

namespace RouterLayer

namespace SourceFile

def declarations (f : SourceFile) (name : Text) : List Statement :=
  f.statements.filter (·.declared = some name)

structure BuiltOn (f : SourceFile) (base : Text) : Prop where
  imported : ∃ i ∈ f.imports, i.module = "./helpers/createRouter" ∧ base ∈ i.named
  endpoints : ∀ e ∈ f.endpoints, e.baseProcedure = base

end SourceFile

namespace Generated

structure BuiltOn (g : Generated) (base : Text) : Prop where
  routers : ∀ r ∈ g.routers, ∃ f, g.source? (Naming.routerPath r.model) = some f ∧
    f.endpoints.length = r.operations.length + r.notifications.length ∧ f.BuiltOn base
  endpoints : ∀ f ∈ g.sources, ∀ e ∈ f.endpoints, e.baseProcedure = base

/-- The way from the procedure of the endpoints to the rules: each step is the only one that its
file takes, and the last file is one of the run. -/
structure Shielded (g : Generated) (bootstrap : SourceFile) : Prop where
  procedure : bootstrap.declarations "shieldedProcedure" =
    [.baseProcedure "shieldedProcedure"
      ((if g.options.middleware = .off then [] else [("globalMiddleware" : Text)]) ++
        [("permissionsMiddleware" : Text)])]
  middleware : bootstrap.declarations "permissionsMiddleware" =
    [.middleware "permissionsMiddleware" (some "permissions")]
  imported : ∀ i, i ∈ bootstrap.imports ∧ ("permissions" : Text) ∈ i.bound ↔ i = Router.shieldImport
  located : bootstrap.locate Router.shieldImport.module = "shield/shield.ts"
  permissions : ∃ shield m, g.source? "shield/shield.ts" = some shield ∧ g.permissions = some m ∧
    shield.declarations "permissions" = [.policy "permissions" "Context" m.members]

/-- A model may itself be called like the permissions; its type is one of the client. -/
structure Unshielded (g : Generated) (bootstrap : SourceFile) : Prop where
  procedure : bootstrap.declarations "publicProcedure" =
    [.baseProcedure "publicProcedure"
      (if g.options.middleware = .off then [] else [("globalMiddleware" : Text)])]
  absent : ("shield/shield.ts" : Text) ∉ g.paths
  permissions : g.permissions = none
  unimported : ∀ f ∈ g.sources, ∀ i ∈ f.imports, ("permissions" : Text) ∈ i.bound →
    i = Import.types "@prisma/client" ["permissions"] ∧
      f.path = Naming.routerPath "permissions" ∧ ∃ r ∈ g.routers, r.model = "permissions"

end Generated

namespace Router

variable {site : Site} {options : Options} {f : SourceFile} {i : Import}

theorem baseProcedure_modelEndpoints {model : Text} {operations : List ResolvedOperation}
    {notifications : List Text} {endpoints : List Endpoint}
    (h : modelEndpoints model operations notifications options = .ok endpoints) :
    ∀ e ∈ endpoints, e.baseProcedure = baseProcedureName options := by
  intro e he
  rcases mem_modelEndpoints h he with ⟨r, _, key, name, rfl⟩ | ⟨event, _, rfl⟩
  · rfl
  · rfl

theorem builtOn_modelFile {model : Text} {operations : List ResolvedOperation}
    {notifications : List Text}
    (h : modelFile site model operations notifications options = .ok f) :
    f.endpoints.length = operations.length + notifications.length ∧
      f.BuiltOn (baseProcedureName options) := by
  have hlength : f.endpoints.length = operations.length + notifications.length := by
    have houtline := congrArg (fun o => o.offers.length) (outline_modelFile h)
    simpa [SourceFile.outline] using houtline
  refine ⟨hlength, ?_⟩
  obtain ⟨emitter, endpoints, _, hendpoints, rfl⟩ := modelFile_ok h
  refine ⟨⟨bootstrapImport ["t", baseProcedureName options], ?_, rfl, by simp [bootstrapImport,
    Import.names]⟩, fun e he => baseProcedure_modelEndpoints hendpoints e ?_⟩
  · exact SourceFile.mem_imports_ofParts.mpr List.mem_cons_self
  · simpa [SourceFile.endpoints, SourceFile.ofParts, Statement.endpoints] using he

theorem declarations_bootstrapFile (h : bootstrapFile site options = .ok f) (name : Text) :
    f.declarations name = (bootstrapStatements options).filter (·.declared = some name) := by
  obtain ⟨imports, _, rfl⟩ := bootstrapFile_ok h
  rfl

theorem declarations_shielded (h : bootstrapFile site options = .ok f)
    (hon : options.withShield = true) :
    f.declarations "shieldedProcedure" =
        [.baseProcedure "shieldedProcedure"
          (publicMiddlewares options ++ [permissionsMiddleware])] ∧
      f.declarations permissionsMiddleware =
        [.middleware permissionsMiddleware (some "permissions")] := by
  rw [declarations_bootstrapFile h, declarations_bootstrapFile h]
  unfold bootstrapStatements globalStatements shieldStatements
  rw [hon]
  cases options.middleware <;> exact ⟨rfl, rfl⟩

theorem declarations_public (h : bootstrapFile site options = .ok f)
    (hoff : options.withShield = false) :
    f.declarations "publicProcedure" =
      [.baseProcedure "publicProcedure" (publicMiddlewares options)] := by
  rw [declarations_bootstrapFile h]
  unfold bootstrapStatements globalStatements shieldStatements
  rw [hoff]
  cases options.middleware <;> rfl

theorem permissions_bootstrapFile (h : bootstrapFile site options = .ok f) :
    i ∈ f.imports ∧ ("permissions" : Text) ∈ i.bound ↔ options.withShield = true ∧ i = shieldImport := by
  obtain ⟨imports, himports, rfl⟩ := bootstrapFile_ok h
  obtain ⟨context, settings, middleware, _, hsettings, hmiddleware, rfl⟩ :=
    bootstrapImports_ok himports
  have hother {name : Text} {path? : Option Text} {imports : List Import}
      (h : optionalImport site name path? = .ok imports) (hi : i ∈ imports) : i.bound = [name] := by
    rcases optionalImport_ok h with ⟨_, rfl⟩ | ⟨_, s, _, _, rfl⟩
    · cases hi
    · rw [List.mem_singleton.mp hi, Import.bound_mainExport]
  rw [SourceFile.mem_imports_ofParts]
  simp only [List.mem_cons, List.mem_append, mem_shieldImports]
  constructor
  · rintro ⟨rfl | rfl | (hi | hi) | hi, hbound⟩
    · exact absurd hbound (by decide)
    · rw [Import.bound_types] at hbound
      exact absurd hbound (by decide)
    · exact hi
    · rw [hother hsettings hi] at hbound
      exact absurd hbound (by decide)
    · rw [hother hmiddleware hi] at hbound
      exact absurd hbound (by decide)
  · rintro ⟨hon, rfl⟩
    exact ⟨.inr (.inr (.inl (.inl ⟨hon, rfl⟩))), List.mem_singleton.mpr rfl⟩

theorem schemaOf_ne_permissions (model : Text) (o : Operation) :
    schemaOf model o ≠ "permissions" := by
  have hending : ("Schema" : Text) <:+ schemaOf model o := by
    have hsuffix : ∀ o : Operation, ("Schema" : Text) <:+ o.schemaSuffix := by
      intro o
      cases o <;> decide
    exact (hsuffix o.base).trans (List.suffix_append model _)
  intro h
  rw [h] at hending
  exact absurd hending (by decide)

theorem permissions_modelFile {model : Text} {operations : List ResolvedOperation}
    {notifications : List Text}
    (h : modelFile site model operations notifications options = .ok f) (hi : i ∈ f.imports)
    (hbound : ("permissions" : Text) ∈ i.bound) :
    model = "permissions" ∧ i = Import.types "@prisma/client" ["permissions"] := by
  obtain ⟨emitter, endpoints, _, _, rfl⟩ := modelFile_ok h
  rw [SourceFile.mem_imports_ofParts] at hi
  simp only [modelImports, List.mem_cons, List.mem_append, List.mem_ite_nil_right,
    List.not_mem_nil, or_false] at hi
  rcases hi with rfl | ⟨_, hi⟩ | rfl | rfl | rfl
  · unfold baseProcedureName at hbound
    split at hbound <;> exact absurd hbound (by decide)
  · obtain ⟨o, _, rfl⟩ := mem_schemaImports hi
    exact absurd (List.mem_singleton.mp hbound).symm (schemaOf_ne_permissions model o)
  · obtain rfl : "permissions" = model := List.mem_singleton.mp hbound
    exact ⟨rfl, rfl⟩
  · exact absurd hbound (by decide)
  · rw [Import.bound_names] at hbound
    exact absurd hbound (by decide)

theorem permissions_appFile {routers : List ModelRouter} (h : appFile routers = .ok f)
    (hi : i ∈ f.imports) : ("permissions" : Text) ∉ i.bound := by
  obtain ⟨_, rfl⟩ := appFile_ok h
  rw [SourceFile.mem_imports_ofParts] at hi
  simp only [List.mem_cons, List.mem_map] at hi
  rcases hi with rfl | ⟨model, _, rfl⟩
  · decide
  · intro hbound
    have hending : ("Router" : Text) <:+ Naming.routerSymbol model := List.suffix_append _ _
    rw [← List.mem_singleton.mp hbound] at hending
    exact absurd hending (by decide)

end Router

namespace Run.Parts

variable {site : Router.Site} {d : Document} {options : Options} {p : Parts}

theorem builtOn_generated (h : p.Fit site d options) :
    (p.generated d options).BuiltOn (Router.baseProcedureName options) := by
  have hpaths : (p.generated d options).paths.Nodup := nodup_paths h
  refine ⟨?_, fun f hf e he => ?_⟩
  · intro r hr
    obtain ⟨model, hmodel, rfl⟩ := List.mem_map.mp hr
    obtain ⟨f, hf, hbuilt⟩ := ok_of_mem h.routers hmodel
    have hsource : (p.generated d options).source? (Naming.routerPath model) = some f :=
      (Generated.source?_eq_some hpaths).mpr
        ⟨mem_sources.mpr (.inr (.inl hf)), (Router.declared_modelFile hbuilt).1⟩
    exact ⟨f, hsource, Router.builtOn_modelFile hbuilt⟩
  obtain ⟨model, _, hbuilt⟩ := (mem_iff_ok h.routers).mp (mem_routers_of_endpoint h hf he)
  exact (Router.builtOn_modelFile hbuilt).2.endpoints e he

theorem shielded_generated (h : p.Fit site d options) (hon : options.withShield = true) :
    (p.generated d options).Shielded p.bootstrap := by
  have hpaths : (p.generated d options).paths.Nodup := nodup_paths h
  obtain ⟨hprocedure, hmiddleware⟩ := Router.declarations_shielded h.bootstrap hon
  refine ⟨hprocedure, hmiddleware, fun i => ?_, ?_, ?_⟩
  · rw [Router.permissions_bootstrapFile h.bootstrap]
    exact and_iff_right hon
  · unfold SourceFile.locate SourceFile.directory
    rw [(Router.declared_bootstrapFile h.bootstrap).1]
    rfl
  · obtain ⟨shield, hshield⟩ := (shield_ok h).1 hon
    have hbuilt := (shield_ok h).2 shield hshield
    refine ⟨shield, Policy.matrix p.models, ?_, if_pos hon, ?_⟩
    · exact (Generated.source?_eq_some hpaths).mpr
        ⟨mem_sources.mpr (.inr (.inr (.inl hshield))), (Router.declared_policyFile hbuilt).1⟩
    · obtain ⟨imports, _, rfl⟩ := Policy.policyFile_ok hbuilt
      rfl

theorem unshielded_generated (h : p.Fit site d options) (hoff : options.withShield = false) :
    (p.generated d options).Unshielded p.bootstrap := by
  have hshield : p.shield = none := by
    have hshield := h.shield
    rw [hoff] at hshield
    exact (Except.ok.inj hshield).symm
  refine ⟨Router.declarations_public h.bootstrap hoff, ?_, ?_, fun f hf i hi hbound => ?_⟩
  · have hpaths : (p.generated d options).paths =
        Router.bootstrapPath :: p.models.map Naming.routerPath ++ [] ++ [Router.appPath] := by
      rw [Generated.paths, generated, paths_sources h, hoff]
      rfl
    rw [hpaths]
    simp only [List.cons_append, List.append_nil, List.mem_cons, List.mem_append, List.mem_map,
      List.not_mem_nil, or_false, not_or, not_exists, not_and]
    exact ⟨by decide, fun model _ => Naming.routerPath_ne (by decide) model, by decide⟩
  · rw [generated, hoff]
    rfl
  · rcases mem_sources.mp hf with rfl | hf | hf | rfl
    · obtain ⟨hon, _⟩ := (Router.permissions_bootstrapFile h.bootstrap).mp ⟨hi, hbound⟩
      rw [hoff] at hon
      cases hon
    · obtain ⟨model, hmodel, hbuilt⟩ := (mem_iff_ok h.routers).mp hf
      obtain ⟨rfl, hclient⟩ := Router.permissions_modelFile hbuilt hi hbound
      exact ⟨hclient, (Router.declared_modelFile hbuilt).1, _, List.mem_map_of_mem hmodel, rfl⟩
    · rw [hshield] at hf
      cases hf
    · exact absurd hbound (Router.permissions_appFile h.app hi)

end Run.Parts

/-- In a run that returns, every endpoint is built on the shielded procedure if there is a shield,
and on the public procedure if there is none. -/
theorem shields_generate {σ : Type} (sink : Sink σ) (s : σ) (cwd : Path) (d : Document)
    (outputDir : Text) (source : OptionSource) (delegates : Delegates) (g : Generated)
    (hg : (generate sink s cwd d outputDir source delegates).outcome = .ok g) :
    source.resolve d = .ok g.options ∧
    ∃ bootstrap, g.source? "routers/helpers/createRouter.ts" = some bootstrap ∧
      (g.options.withShield = true → g.BuiltOn "shieldedProcedure" ∧ g.Shielded bootstrap) ∧
      (g.options.withShield = false → g.BuiltOn "publicProcedure" ∧ g.Unshielded bootstrap) := by
  obtain ⟨options, hvet, hbuild⟩ := Run.generate_ok _ _ _ _ _ _ _ hg
  obtain ⟨p, hfit, rfl⟩ := Run.build_ok hbuild
  have hpaths : (p.generated d options).paths.Nodup := Run.Parts.nodup_paths hfit
  have hbuilt := Run.Parts.builtOn_generated hfit
  refine ⟨Run.resolve_of_vet hvet, p.bootstrap, ?_, fun hon => ⟨?_, Run.Parts.shielded_generated hfit hon⟩,
    fun hoff => ⟨?_, Run.Parts.unshielded_generated hfit hoff⟩⟩
  · exact (Generated.source?_eq_some hpaths).mpr
      ⟨Run.Parts.mem_sources.mpr (.inl rfl), (Router.declared_bootstrapFile hfit.bootstrap).1⟩
  · rwa [Router.baseProcedureName, show options.withShield = true from hon] at hbuilt
  · rwa [Router.baseProcedureName, show options.withShield = false from hoff] at hbuilt

def Run.namesake : Document where
  models := [⟨.str "permissions", [], .null⟩]
  mappings := [⟨.str "permissions", [(.findMany, .str "findManyPermissions"), (.createOne, .null)]⟩]
  generators := [⟨.str "client", .str "prisma-client-js", []⟩]
  schemaPath := .null
  options := []

theorem shields_generate_namesake :
    let run := fun options => (generate MemorySink.sink .empty ⟨.single, ["work"]⟩ Run.namesake
      "out" (.checked options) .none).outcome
    (∃ g bootstrap, run { Options.default with middleware := .off } = .ok g ∧
      g.routers.map (·.model) = ["permissions"] ∧
      g.BuiltOn "shieldedProcedure" ∧ g.Shielded bootstrap) ∧
    ∃ g bootstrap, run { Options.default with withShield := false } = .ok g ∧
      g.routers.map (·.model) = ["permissions"] ∧
      g.BuiltOn "publicProcedure" ∧ g.Unshielded bootstrap := by
  intro run
  have hshielded : (run { Options.default with middleware := .off }).map (fun g =>
      (g.options.withShield, g.routers.map (·.model))) =
      .ok (true, ["permissions"]) := by decide +kernel
  have hpublic : (run { Options.default with withShield := false }).map (fun g =>
      (g.options.withShield, g.routers.map (·.model))) =
      .ok (false, ["permissions"]) := by decide +kernel
  constructor
  · obtain ⟨g, hg, hsummary⟩ := map_eq_ok.mp hshielded
    obtain ⟨hon, hmodels⟩ := Prod.mk.inj hsummary
    obtain ⟨_, bootstrap, _, hguarded, _⟩ := shields_generate _ _ _ _ _ _ _ g hg
    exact ⟨g, bootstrap, hg, hmodels, hguarded hon⟩
  · obtain ⟨g, hg, hsummary⟩ := map_eq_ok.mp hpublic
    obtain ⟨hoff, hmodels⟩ := Prod.mk.inj hsummary
    obtain ⟨_, bootstrap, _, _, hopen⟩ := shields_generate _ _ _ _ _ _ _ g hg
    exact ⟨g, bootstrap, hg, hmodels, hopen hoff⟩

end RouterLayer
