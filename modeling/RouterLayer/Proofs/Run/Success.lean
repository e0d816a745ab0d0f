import RouterLayer.Proofs.Router.Configured
import RouterLayer.Proofs.Run.Noninterference

set_option autoImplicit false

namespace RouterLayer

def Json.isOptionalText : Json → Bool
  | .null | .str _ => true
  | _ => false

namespace Router

variable {site : Site} {options : Options}

def Site.isExtension (site : Site) (configured : Text) : Bool :=
  Path.moduleExtensions.contains (site.pathOf configured).normal.text

/-- A declared name that is missing leaves the name of the operation, so there always is one. -/
theorem isOk_procedure (model : Text) {r : ResolvedOperation}
    (h : r.declared.isOptionalText = true) : (procedure model options r).isOk = true := by
  have hname : ∃ name, Naming.endpointName r.operation.name r.declared = .str name := by
    unfold Naming.endpointName
    cases hdeclared : r.declared with
    | null => exact ⟨_, rfl⟩
    | str s => split <;> exact ⟨_, rfl⟩
    | _ => rw [hdeclared] at h; cases h
  obtain ⟨name, hname⟩ := hname
  rw [procedure, isOk_map, hname]
  rfl

theorem isOk_modelEndpoints (model : Text) {operations : List ResolvedOperation}
    {notifications : List Text} (ho : ∀ r ∈ operations, r.declared.isOptionalText = true) :
    (modelEndpoints model operations notifications options).isOk = true := by
  rw [modelEndpoints, isOk_return, isOk_mapM]
  exact fun r hr => isOk_procedure model (ho r hr)

section Specifiers

variable (h : site.Clean)
include h

theorem isOk_configuredSpecifier (dir path : Text) :
    (configuredSpecifier site dir path).isOk = true ↔ site.isExtension path = false := by
  have hnone : Path.specifier? site.cwd (site.output.join (Path.ofText dir))
      (Path.configured site.output (Path.ofText path)) = none ↔ site.isExtension path = true := by
    rw [Path.specifier?_eq_none (h.configured path), normal_configured, Site.isExtension,
      List.contains_iff_mem]
    rfl
  unfold configuredSpecifier specifier
  split
  · next s hs =>
    rw [hs] at hnone
    simp only [reduceCtorEq, false_iff, Bool.not_eq_true] at hnone
    simp [hnone, Except.isOk, Except.toBool]
  · next hs =>
    simp [hnone.mp hs, Except.isOk, Except.toBool]

theorem isOk_optionalImport (name : Text) {path? : Option Text} :
    (optionalImport site name path?).isOk = true ↔
      ∀ path ∈ path?.toList, site.isExtension path = false := by
  cases path? with
  | none => exact ⟨fun _ _ hp => (nomatch hp), fun _ => rfl⟩
  | some path =>
    rw [Option.toList_some, List.forall_mem_singleton, ← isOk_configuredSpecifier h helpersDir,
      optionalImport, isOk_return]

theorem isOk_bootstrapFile : (bootstrapFile site options).isOk = true ↔
    ∀ path ∈ options.contextPath :: (options.trpcOptionsPath.toList ++
      options.middleware.path?.toList), site.isExtension path = false := by
  rw [List.forall_mem_cons, List.forall_mem_append, ← isOk_configuredSpecifier h helpersDir,
    ← isOk_optionalImport h "trpcOptions", ← isOk_optionalImport h "defaultMiddleware",
    bootstrapFile, isOk_return, bootstrapImports_eq]
  refine isOk_seq fun _ _ => isOk_seq fun _ _ => ?_
  rw [isOk_return]

theorem isOk_policyFile {m : PermissionMatrix} : (Policy.policyFile site m options).isOk = true ↔
    site.isExtension options.contextPath = false := by
  rw [← isOk_configuredSpecifier h shieldDir, Policy.policyFile, isOk_return, Policy.policyImports,
    isOk_return]

theorem isOk_modelFile {model : Text} {operations : List ResolvedOperation}
    {notifications : List Text} (ho : ∀ r ∈ operations, r.declared.isOptionalText = true) :
    (modelFile site model operations notifications options).isOk = true ↔
      site.isExtension options.emitterPath = false := by
  have hendpoints : (modelEndpoints model operations notifications options).isOk = true :=
    isOk_modelEndpoints model ho
  rw [← isOk_configuredSpecifier h Naming.routersDir, modelFile]
  refine (isOk_seq fun _ _ => ?_).trans (and_iff_left hendpoints)
  rw [isOk_return]

end Specifiers

theorem isOk_appFile {routers : List ModelRouter} : (appFile routers).isOk = true ↔
    (((routers.filter (·.hasEndpoints)).map (·.model)).map Naming.routerKey).Nodup ∧
      (((routers.filter (·.hasEndpoints)).map (·.model)).map Naming.routerSymbol).Nodup := by
  have hcheck (models : List Text) : (checkAll Taken.empty models).isOk = true ↔
      (models.map Naming.routerKey).Nodup ∧ (models.map Naming.routerSymbol).Nodup := by
    rw [isOk_iff]
    refine ⟨fun ⟨⟨⟩, h⟩ => ?_, fun ⟨hkeys, hsymbols⟩ => ⟨(), ?_⟩⟩
    · exact ⟨(checkAll_eq_ok.mp h).1, (checkAll_eq_ok.mp h).2.1⟩
    · exact checkAll_eq_ok.mpr ⟨hkeys, hsymbols, fun _ _ => ⟨rfl, rfl⟩⟩
  rw [appFile, isOk_return, hcheck]

end Router

structure Document.Typed (d : Document) : Prop where
  name : ∀ m ∈ d.models, m.name.isText = true
  documentation : ∀ m ∈ d.models, m.documentation.isOptionalText = true
  declared : ∀ m ∈ d.mappings, ∀ p ∈ m.operations, p.2.isOptionalText = true

def Json.text? : Json → Option Text
  | .str s => some s
  | _ => none

namespace Document

variable {d : Document}

def visibleTexts (d : Document) : List Text := d.visible.filterMap (·.name.text?)

theorem Typed.visible (h : d.Typed) : d.visible.map (·.name) = d.visibleTexts.map Json.str := by
  have hall : ∀ m ∈ d.visible, m.name.isText = true := fun m hm =>
    h.name m (List.mem_of_mem_filter hm)
  unfold visibleTexts
  generalize d.visible = models at hall
  induction models with
  | nil => rfl
  | cons m rest ih =>
    obtain ⟨hm, hrest⟩ := List.forall_mem_cons.mp hall
    cases hname : m.name with
    | str s => simp [hname, Json.text?, ih hrest]
    | _ => rw [hname] at hm; cases hm

theorem forall_mem_chosen (good : Json → Prop) (h : ∀ m ∈ d.mappings, ∀ p ∈ m.operations, good p.2)
    (options : Options) (name : Json) : ∀ r ∈ d.chosen options name, good r.declared := by
  intro r hr
  obtain ⟨p, hp, rfl⟩ := List.mem_map.mp hr
  replace hp := List.mem_of_mem_filter hp
  unfold Document.declared mappingFor at hp
  cases hfind : d.mappings.find? fun m => name.finds m.model with
  | none =>
    rw [hfind] at hp
    cases hp
  | some m =>
    rw [hfind] at hp
    exact h m (List.mem_of_find?_eq_some hfind) p hp

theorem isOptionalText_chosen
    (h : ∀ m ∈ d.mappings, ∀ p ∈ m.operations, p.2.isOptionalText = true) (options : Options)
    (name : Json) : ∀ r ∈ d.chosen options name, r.declared.isOptionalText = true :=
  forall_mem_chosen (fun declared => declared.isOptionalText = true) h options name

theorem Typed.chosen (h : d.Typed) (options : Options) (name : Json) :
    ∀ r ∈ d.chosen options name, r.declared.isOptionalText = true :=
  isOptionalText_chosen h.declared options name

theorem Typed.isHidden (h : d.Typed) : (d.models.mapM Model.isHidden).isOk = true := by
  rw [isOk_mapM]
  intro m hm
  have hdocumentation := h.documentation m hm
  rw [Model.isHidden, isOk_map, Model.attributes]
  cases hdoc : m.documentation with
  | null => rfl
  | str s => split <;> rfl
  | _ => rw [hdoc] at hdocumentation; cases hdocumentation

end Document

namespace Run

variable {site : Router.Site} {options : Options} {d : Document}

theorem isOk_buildNamed (model : Text) : (buildNamed site d options (.str model)).isOk =
    (Router.modelFile site model (d.chosen options (.str model)) notificationEvents
      options).isOk := by
  rw [buildNamed, isOk_map, Router.fileOf, isOk_return]

theorem isOk_assemble {hidden : List Json} {models : List Text} :
    (assemble site options (buildNamed site d options) hidden (models.map Json.str)).isOk = true ↔
      (Router.bootstrapFile site options).isOk = true ∧
      (∀ model ∈ models, (Router.modelFile site model (d.chosen options (.str model))
        notificationEvents options).isOk = true) ∧
      (options.withShield = true →
        (Policy.policyFile site (Policy.matrix models) options).isOk = true) ∧
      (Router.appFile (models.map (d.routerOf options))).isOk = true := by
  have hbuild : ((models.map Json.str).mapM (buildNamed site d options)).isOk = true ↔
      ∀ model ∈ models, (Router.modelFile site model (d.chosen options (.str model))
        notificationEvents options).isOk = true := by
    rw [isOk_mapM, List.forall_mem_map]
    simp only [isOk_buildNamed]
  have hpolicy : (buildPolicy site options models).outcome.isOk = true ↔
      (options.withShield = true →
        (Policy.policyFile site (Policy.matrix models) options).isOk = true) := by
    rw [outcome_buildPolicy]
    split
    · next hon => simp [hon]
    · next hoff => simp [hoff, Except.isOk, Except.toBool]
  unfold assemble
  refine isOk_seq fun _ _ => (isOk_seq fun built hbuilt => ?_).trans (and_congr_left' hbuild)
  -- the later files are made from the names of the routers, which are those of the models
  obtain ⟨hnames, hrouters, _⟩ := mapM_buildNamed_ok hbuilt
  have hmodels : models = built.map (·.1.model) := Json.map_str_injective hnames
  rw [← hmodels] at hrouters
  have hcut : (built.map (·.1)).map (·.model) = models := by rw [hmodels]; exact List.map_map ..
  rw [hrouters] at hcut
  rw [hrouters, hcut]
  refine (isOk_seq fun _ _ => ?_).trans (and_congr_left' hpolicy)
  rw [isOk_return]

/-- The causes that are left once all values have the right kinds. -/
def obstructs : Failure → Bool
  | .collision .. | .noTarget => true
  | _ => false

theorem obstructs_of_assemble (hd : d.Typed) {hidden : List Json} {models : List Text} :
    FailsOnly obstructs
      (assemble site options (buildNamed site d options) hidden (models.map Json.str)) := by
  have hmodel (model : Text) : FailsOnly obstructs (buildNamed site d options (.str model)) := by
    have hendpoints : (Router.modelEndpoints model (d.chosen options (.str model))
        notificationEvents options).isOk = true :=
      Router.isOk_modelEndpoints model (hd.chosen options (.str model))
    exact .map _ (.bind (.bind (Router.failsOnly_specifier site rfl _ _) fun _ =>
      .bind (.of_isOk hendpoints) fun _ => .ok _) fun _ => .ok _)
  have hpolicy (models : List Text) :
      FailsOnly obstructs (buildPolicy site options models).outcome := by
    rw [outcome_buildPolicy]
    split
    · exact .map _ (Router.failsOnly_policyFile site options rfl _)
    · exact .ok _
  unfold assemble
  rw [List.mapM_map]
  exact .bind (Router.failsOnly_bootstrapFile site options rfl) fun _ => .bind (.mapM hmodel _)
    fun _ => .bind (hpolicy _) fun _ =>
    .bind (Router.failsOnly_appFile (fun _ _ _ => rfl) _) fun _ => .ok _

end Run

def Options.importedPaths (options : Options) (models : List Text) : List Text :=
  options.contextPath :: (options.trpcOptionsPath.toList ++ options.middleware.path?.toList) ++
    if models.isEmpty then [] else [options.emitterPath]

namespace Run

variable {site : Router.Site} {options : Options} {d : Document}

theorem isOk_build (hsite : site.Clean) (hd : d.Typed) :
    (build site d options).outcome.isOk = true ↔
      (d.visibleTexts.map Naming.routerKey).Nodup ∧
      (d.visibleTexts.map Naming.routerSymbol).Nodup ∧
      ∀ path ∈ options.importedPaths d.visibleTexts, site.isExtension path = false := by
  have hmodels : (∀ model ∈ d.visibleTexts, (Router.modelFile site model
        (d.chosen options (.str model)) notificationEvents options).isOk = true) ↔
      ∀ model ∈ d.visibleTexts, site.isExtension options.emitterPath = false :=
    forall₂_congr fun model _ => Router.isOk_modelFile hsite (hd.chosen options _)
  rw [outcome_build, hd.visible]
  refine (isOk_seq fun _ _ => isOk_assemble).trans ((and_iff_right hd.isHidden).trans ?_)
  rw [Router.isOk_bootstrapFile hsite, hmodels, Router.isOk_policyFile hsite, Router.isOk_appFile,
    d.filter_routerOf, Options.importedPaths, List.forall_mem_append]
  -- without a visible model there is no router, and nothing imports the emitter
  cases d.visibleTexts with
  | nil => simp; tauto
  | cons model rest => simp; tauto

theorem obstructs_of_build (hd : d.Typed) :
    FailsOnly obstructs (build site d options).outcome := by
  rw [outcome_build, hd.visible]
  exact .bind (.of_isOk hd.isHidden) fun _ => obstructs_of_assemble hd

end Run

/-- A run over values of the right kinds returns unless two visible models collide or a path that
it imports leads to nothing but an extension, and nothing else can stop it. -/
theorem returns_iff (s : MemorySink) (cwd outputDir : Text) (d : Document) (source : OptionSource)
    (options : Options) (hclient : d.clientGenerator.isOk = true) (hd : d.Typed)
    (ho : source.resolve d = .ok options) :
    let outcome :=
      (generate MemorySink.sink s (Path.ofText cwd) d outputDir source .none).outcome
    (outcome.isOk = true ↔
      (d.visibleTexts.map Text.lower).Nodup ∧ (d.visibleTexts.map Naming.routerSymbol).Nodup ∧
      ∀ path ∈ options.importedPaths d.visibleTexts,
        ((Path.ofText outputDir).join (Path.ofText path)).normal.text ∉ Path.moduleExtensions) ∧
    ∀ e, outcome = .error e → (∃ key first second, e = .collision key first second) ∨
      (e = .noTarget ∧ e.message? = some "no path specified") := by
  intro outcome
  have hsite := Router.Site.clean_ofText cwd outputDir
  have houtcome : outcome =
      (Run.build ⟨Path.ofText cwd, Path.ofText outputDir⟩ d options).outcome := by
    change (generate MemorySink.sink s (Path.ofText cwd) d outputDir source .none).outcome = _
    rw [Run.outcome_generate_none, Run.vet_eq_resolve source hclient, ho]
    rfl
  rw [houtcome]
  refine ⟨?_, fun e he => ?_⟩
  · rw [Run.isOk_build hsite hd]
    simp only [Router.Site.isExtension, ← Bool.not_eq_true, List.contains_iff_mem]
    rfl
  · have hobstructs := Run.obstructs_of_build hd e he
    cases e with
    | collision key first second => exact .inl ⟨key, first, second, rfl⟩
    | noTarget => exact .inr ⟨rfl, rfl⟩
    | _ => cases hobstructs

def Run.rivals (second : Text) : Document where
  models := [⟨.str "User", [], .null⟩, ⟨.str second, [], .null⟩]
  mappings := []
  generators := [⟨.str "client", .str "prisma-client-js", []⟩]
  schemaPath := .null
  options := []

def Run.bareEmitter : Options := { Options.default with emitterPath := ".ts" }

theorem returns_iff_rivals :
    (generate MemorySink.sink .empty (Path.ofText "/work") (Run.rivals "Reply") "out" .ofDocument
      .none).outcome.isOk = true ∧
    (generate MemorySink.sink .empty (Path.ofText "/work") (Run.rivals "USER") "out" .ofDocument
      .none).outcome.isOk = false ∧
    (generate MemorySink.sink .empty (Path.ofText "/work") (Run.rivals "Reply") "."
      (.checked Run.bareEmitter) .none).outcome.isOk = false := by
  refine ⟨?_, ?_, ?_⟩
  · refine (returns_iff .empty "/work" "out" (Run.rivals "Reply") .ofDocument Options.default rfl
      ⟨by decide, by decide, by decide⟩ rfl).1.mpr ?_
    decide +kernel
  · rw [← Bool.not_eq_true, (returns_iff .empty "/work" "out" (Run.rivals "USER") .ofDocument
      Options.default rfl ⟨by decide, by decide, by decide⟩ rfl).1]
    decide +kernel
  · rw [← Bool.not_eq_true, (returns_iff .empty "/work" "." (Run.rivals "Reply")
      (.checked Run.bareEmitter) Run.bareEmitter rfl ⟨by decide, by decide, by decide⟩ rfl).1]
    decide +kernel

end RouterLayer
