import RouterLayer.Proofs.Run.Stages

set_option autoImplicit false

namespace RouterLayer

inductive Offer
  | call (category : Category) (method : Text)
  | news (event : Text)
  deriving DecidableEq, Repr

def Endpoint.offer : Endpoint → Offer
  | .procedure p => .call p.category p.clientMethod
  | .subscription s => .news s.key

def Statement.entries : Statement → List RouterEntry
  | .router _ _ entries => entries
  | _ => []

/-- A file without its texts: where it lies, what its endpoints offer, which routers it joins. -/
structure Outline where
  path : Text
  offers : List Offer
  entries : List RouterEntry
  deriving DecidableEq, Repr

def SourceFile.outline (f : SourceFile) : Outline :=
  ⟨f.path, f.endpoints.map (·.offer), f.statements.flatMap (·.entries)⟩

theorem SourceFile.endpoints_eq_nil {f : SourceFile} {path : Text} {entries : List RouterEntry}
    (h : f.outline = ⟨path, [], entries⟩) : f.endpoints = [] :=
  List.map_eq_nil_iff.mp (congrArg Outline.offers h)

namespace Written

def offers (raw : Json) (options : Options) (model : Text) : List Offer :=
  (((operations (mappingOf raw model)).filter fun p => options.admits p.1).map fun p =>
    .call p.1.category p.1.clientMethod) ++
  [.news "create", .news "update", .news "delete"]

def outlines (raw : Json) (options : Options) : List Outline :=
  ⟨"routers/helpers/createRouter.ts", [], []⟩ ::
    ((visibleModels raw).map fun model =>
      ⟨"routers/" ++ model ++ ".router.ts", offers raw options model, []⟩) ++
    (if options.withShield then [⟨"shield/shield.ts", [], []⟩] else []) ++
    [⟨"routers/index.ts", [],
      (visibleModels raw).map fun model => ⟨Text.lower model, Naming.routerSymbol model⟩⟩]

def hazardOptions : OptionSource := .given [("generateModelActions", .str "findUnique, create")]

end Written

namespace Router

variable {site : Site} {options : Options}

theorem outline_bootstrapFile {f : SourceFile} (h : bootstrapFile site options = .ok f) :
    f.outline = ⟨bootstrapPath, [], []⟩ := by
  obtain ⟨imports, _, rfl⟩ := bootstrapFile_ok h
  have hstatements : ∀ s ∈ bootstrapStatements options, s.endpoints = [] ∧ s.entries = [] := by
    intro s hs
    simp only [bootstrapStatements, globalStatements, shieldStatements, List.mem_cons,
      List.mem_append] at hs
    rcases hs with rfl | hs | rfl | hs
    · exact ⟨rfl, rfl⟩
    · split at hs <;> simp at hs <;> subst hs <;> exact ⟨rfl, rfl⟩
    · exact ⟨rfl, rfl⟩
    · split at hs
      · simp only [List.mem_cons, List.not_mem_nil, or_false] at hs
        rcases hs with rfl | rfl <;> exact ⟨rfl, rfl⟩
      · cases hs
  have hendpoints := List.flatMap_eq_nil_iff.mpr fun s hs => (hstatements s hs).1
  have hentries := List.flatMap_eq_nil_iff.mpr fun s hs => (hstatements s hs).2
  simp only [SourceFile.outline, SourceFile.endpoints, SourceFile.ofParts, hendpoints, hentries]
  rfl

theorem offer_procedure {model : Text} {r : ResolvedOperation} {p : Procedure}
    (h : procedure model options r = .ok p) :
    (Endpoint.procedure p).offer = .call r.operation.category r.operation.clientMethod := by
  obtain ⟨_, _, rfl⟩ := map_eq_ok.mp h
  rfl

theorem offers_modelEndpoints {model : Text} {operations : List ResolvedOperation}
    {notifications : List Text} {endpoints : List Endpoint}
    (h : modelEndpoints model operations notifications options = .ok endpoints) :
    endpoints.map (·.offer) =
      (operations.map fun r => .call r.operation.category r.operation.clientMethod) ++
        notifications.map .news := by
  obtain ⟨procedures, hprocedures, rfl⟩ := modelEndpoints_ok h
  have hcalls : procedures.map (fun p => (Endpoint.procedure p).offer) =
      operations.map fun r => .call r.operation.category r.operation.clientMethod :=
    map_eq_of_forall₂ (fun r p hp => offer_procedure hp) hprocedures
  rw [List.map_append, List.map_map, List.map_map, ← hcalls]
  rfl

theorem outline_modelFile {model : Text} {operations : List ResolvedOperation}
    {notifications : List Text} {f : SourceFile}
    (h : modelFile site model operations notifications options = .ok f) :
    f.outline = ⟨Naming.routerPath model,
      (operations.map fun r => .call r.operation.category r.operation.clientMethod) ++
        notifications.map .news, []⟩ := by
  obtain ⟨_, endpoints, _, hendpoints, rfl⟩ := modelFile_ok h
  rw [← offers_modelEndpoints hendpoints]
  simp [SourceFile.outline, SourceFile.endpoints, SourceFile.ofParts, Statement.endpoints,
    Statement.entries]

theorem outline_appFile {routers : List ModelRouter} {f : SourceFile}
    (h : appFile routers = .ok f) :
    f.outline = ⟨appPath, [],
      ((routers.filter (·.hasEndpoints)).map (·.model)).map appEntry⟩ := by
  obtain ⟨_, rfl⟩ := appFile_ok h
  simp [SourceFile.outline, SourceFile.endpoints, SourceFile.ofParts, Statement.endpoints,
    Statement.entries]

end Router

theorem Policy.outline_policyFile {site : Router.Site} {m : PermissionMatrix} {options : Options}
    {f : SourceFile} (h : policyFile site m options = .ok f) :
    f.outline = ⟨Router.shieldPath, [], []⟩ := by
  obtain ⟨_, _, rfl⟩ := policyFile_ok h
  rfl

/-- Every model has the subscriptions, so none is left out of the application router. -/
theorem Document.hasEndpoints_routerOf (d : Document) (options : Options) (model : Text) :
    (d.routerOf options model).hasEndpoints = true := by
  simp [routerOf, ModelRouter.hasEndpoints, RouterLayer.hasEndpoints, notificationEvents]

theorem Document.models_routerOf (d : Document) (options : Options) (models : List Text) :
    (models.map (d.routerOf options)).map (·.model) = models := by
  rw [List.map_map]
  exact List.map_id models

theorem Document.filter_routerOf (d : Document) (options : Options) (models : List Text) :
    ((models.map (d.routerOf options)).filter (·.hasEndpoints)).map (·.model) = models := by
  rw [List.filter_eq_self.mpr]
  · exact d.models_routerOf options models
  · intro r hr
    obtain ⟨model, _, rfl⟩ := List.mem_map.mp hr
    exact d.hasEndpoints_routerOf options model

def Document.offers (d : Document) (options : Options) (model : Text) : List Offer :=
  ((d.chosen options (.str model)).map fun r =>
    .call r.operation.category r.operation.clientMethod) ++ notificationEvents.map .news

theorem offers_ofJson {raw : Json} {d : Document} (h : (Document.ofJson raw).outcome = .ok d)
    (options : Options) (model : Text) :
    d.offers options model = Written.offers raw options model := by
  rw [Document.offers, Document.chosen, operations_mappingFor h, List.map_map]
  rfl

namespace Run.Parts

variable {site : Router.Site} {d : Document} {options : Options} {p : Parts}

theorem outline_shield (h : p.Fit site d options) : p.shield.toList.map (·.outline) =
    if options.withShield then [⟨Router.shieldPath, [], []⟩] else [] := by
  have hs := h.shield
  split at hs
  · next hon =>
    obtain ⟨file, hfile, hsome⟩ := map_eq_ok.mp hs
    rw [← hsome, if_pos hon, Option.toList_some, List.map_singleton,
      Policy.outline_policyFile hfile]
  · next hoff =>
    rw [← Except.ok.inj hs, if_neg hoff]
    rfl

theorem mem_routers_of_endpoint (h : p.Fit site d options) {f : SourceFile} (hf : f ∈ p.sources)
    {e : Endpoint} (he : e ∈ f.endpoints) : f ∈ p.routers := by
  rcases mem_sources.mp hf with rfl | hf | hf | rfl
  · rw [SourceFile.endpoints_eq_nil (Router.outline_bootstrapFile h.bootstrap)] at he
    cases he
  · exact hf
  · rw [SourceFile.endpoints_eq_nil (Policy.outline_policyFile ((shield_ok h).2 f hf))] at he
    cases he
  · rw [SourceFile.endpoints_eq_nil (Router.outline_appFile h.app)] at he
    cases he

theorem outline_sources (h : p.Fit site d options) : p.sources.map (·.outline) =
    ⟨Router.bootstrapPath, [], []⟩ ::
      (p.models.map fun model => ⟨Naming.routerPath model, d.offers options model, []⟩) ++
      (if options.withShield then [⟨Router.shieldPath, [], []⟩] else []) ++
      [⟨Router.appPath, [], p.models.map Router.appEntry⟩] := by
  have hrouters : p.routers.map (·.outline) =
      p.models.map fun model => ⟨Naming.routerPath model, d.offers options model, []⟩ :=
    map_eq_of_forall₂ (fun model f hf => Router.outline_modelFile hf) h.routers
  have happ := Router.outline_appFile h.app
  rw [d.filter_routerOf] at happ
  rw [Parts.sources, List.map_cons, List.map_append, List.map_append, hrouters, outline_shield h,
    List.map_singleton, happ, Router.outline_bootstrapFile h.bootstrap]
  rfl

theorem visibleModels_ofJson {raw : Json} (hd : (Document.ofJson raw).outcome = .ok d)
    (h : p.Fit site d options) :
    Written.visibleNames raw = p.models.map Json.str ∧ Written.visibleModels raw = p.models := by
  have hnames : Written.visibleNames raw = p.models.map Json.str := by
    rw [← visibleNames_ofJson hd, h.models]
  refine ⟨hnames, ?_⟩
  rw [Written.visibleModels, hnames, List.filterMap_map]
  exact List.filterMap_some ..

end Run.Parts

/-- The files of a run that returns are those that the written document asks for. -/
theorem outline_generate {σ : Type} (sink : Sink σ) (s : σ) (cwd : Path) (raw : Json)
    (d : Document) (outputDir : Text) (source : OptionSource) (options : Options)
    (delegates : Delegates) (g : Generated)
    (hd : (Document.ofJson raw).outcome = .ok d) (ho : source.resolve d = .ok options)
    (hg : (generate sink s cwd d outputDir source delegates).outcome = .ok g) :
    Written.visibleNames raw = (Written.visibleModels raw).map Json.str ∧
      g.sources.map (·.outline) = Written.outlines raw options := by
  obtain ⟨p, hfit, rfl⟩ := Run.generate_fit ho hg
  obtain ⟨hnames, hmodels⟩ := Run.Parts.visibleModels_ofJson hd hfit
  refine ⟨hmodels ▸ hnames, ?_⟩
  rw [Run.Parts.generated, Run.Parts.outline_sources hfit, Written.outlines, hmodels]
  simp only [offers_ofJson hd]
  rfl

theorem outline_generate_hazards :
    ∃ d g, (Document.ofJson Written.hazards).outcome = .ok d ∧
      Written.hazardOptions.resolve d =
        .ok { Options.default with actions := [.findUnique, .create] } ∧
      (generate MemorySink.sink .empty ⟨.single, ["work"]⟩ d "out" Written.hazardOptions
        .none).outcome = .ok g ∧
      g.sources.map (·.outline) = [
        ⟨"routers/helpers/createRouter.ts", [], []⟩,
        ⟨"routers/Volcanoes.router.ts", [.call .query "findUniqueOrThrow", .call .mutation "create",
          .news "create", .news "update", .news "delete"], []⟩,
        ⟨"routers/Tornadoes.router.ts", [.news "create", .news "update", .news "delete"], []⟩,
        ⟨"shield/shield.ts", [], []⟩,
        ⟨"routers/index.ts", [],
          [⟨"volcanoes", "volcanoesRouter"⟩, ⟨"tornadoes", "tornadoesRouter"⟩]⟩] := by
  have hrun : ((Document.ofJson Written.hazards).outcome >>= fun d =>
      (generate MemorySink.sink .empty ⟨.single, ["work"]⟩ d "out" Written.hazardOptions
        .none).outcome).isOk = true := by decide +kernel
  obtain ⟨g, hrun⟩ := exists_ok hrun
  obtain ⟨d, hd, hg⟩ := bind_eq_ok.mp hrun
  have ho : Written.hazardOptions.resolve d =
      .ok { Options.default with actions := [.findUnique, .create] } := rfl
  refine ⟨d, g, hd, ho, hg, ?_⟩
  rw [(outline_generate _ _ _ _ _ _ _ _ _ _ hd ho hg).2]
  decide +kernel

end RouterLayer
