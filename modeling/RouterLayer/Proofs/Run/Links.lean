import RouterLayer.Proofs.Router.Scope
import RouterLayer.Proofs.Run.Paths

/-!
The files of a run link. Besides packages, the modules that the options name, and the schemas,
which someone else provides, a file imports only files of its own run. Each of these lies where it
is looked for and declares what is imported from it (`links_generate`).
-/

set_option autoImplicit false

namespace RouterLayer

def configuredNames : List Text := ["Context", "trpcOptions", "defaultMiddleware", "ee"]

namespace Import

def isOwn (i : Import) : Bool :=
  i.isRelative && !("../schemas/" : Text).isPrefixOf i.module &&
    i.bound.all (!configuredNames.contains ·)

theorem isOwn_of_package {i : Import} (h : i.isRelative = false) : i.isOwn = false := by
  simp [isOwn, h]

theorem isOwn_of_configured {i : Import} (name : Text) (hname : name ∈ configuredNames)
    (hbound : name ∈ i.bound) : i.isOwn = false := by
  cases h : i.isOwn with
  | false => rfl
  | true =>
    have hfree := List.all_eq_true.mp (Bool.and_eq_true_iff.mp h).2 name hbound
    rw [List.contains_iff_mem.mpr hname] at hfree
    cases hfree

end Import

namespace Router

variable {site : Site} {options : Options} {i : Import}

def bootstrapImport (names : List Text) : Import := Import.names "./helpers/createRouter" names

def shieldImport : Import := Import.names "../../shield/shield" ["permissions"]

theorem isOwn_appImport (model : Text) : (appImport model).isOwn = true := by
  have hfree : Naming.routerSymbol model ∉ configuredNames := by
    have hother : ∀ name ∈ configuredNames, ¬ ("Router" : Text) <:+ name := by decide
    exact fun h => hother _ h (List.suffix_append _ _)
  have hrelative : (appImport model).isRelative = true := rfl
  have hschemas : ("../schemas/" : Text).isPrefixOf (appImport model).module = false := rfl
  have hbound : (appImport model).bound = [Naming.routerSymbol model] := rfl
  simp [Import.isOwn, hrelative, hschemas, hbound, hfree]

theorem isOwn_schemaImport (model : Text) (o : Operation) :
    (schemaImport model o).isOwn = false := by
  have hprefix : ("../schemas/" : Text) <+: (schemaImport model o).module := by
    simp only [schemaImport, Import.names, Naming.schemaModule, List.append_assoc]
    exact List.prefix_append _ _
  simp [Import.isOwn, List.isPrefixOf_iff_prefix.mpr hprefix]

theorem own_bootstrapFile {f : SourceFile} (h : bootstrapFile site options = .ok f) :
    i ∈ f.imports ∧ i.isOwn = true ↔ options.withShield = true ∧ i = shieldImport := by
  obtain ⟨imports, himports, rfl⟩ := bootstrapFile_ok h
  obtain ⟨context, settings, middleware, _, hsettings, hmiddleware, rfl⟩ :=
    bootstrapImports_ok himports
  have hoptional {name : Text} {path? : Option Text} {imports : List Import}
      (h : optionalImport site name path? = .ok imports) (hname : name ∈ configuredNames)
      (hi : i ∈ imports) : i.isOwn = false := by
    rcases optionalImport_ok h with ⟨_, rfl⟩ | ⟨_, s, _, _, rfl⟩
    · cases hi
    · exact Import.isOwn_of_configured name hname (by simp [List.mem_singleton.mp hi])
  rw [SourceFile.mem_imports_ofParts]
  simp only [List.mem_cons, List.mem_append, shieldImports, List.mem_ite_nil_right,
    List.not_mem_nil, or_false]
  constructor
  · rintro ⟨rfl | rfl | (hi | hi) | hi, hown⟩
    · cases hown
    · rw [Import.isOwn_of_configured "Context" (by decide) (by simp)] at hown
      cases hown
    · exact hi
    · rw [hoptional hsettings (by decide) hi] at hown
      cases hown
    · rw [hoptional hmiddleware (by decide) hi] at hown
      cases hown
  · rintro ⟨hon, rfl⟩
    exact ⟨.inr (.inr (.inl (.inl ⟨hon, rfl⟩))), by decide⟩

theorem own_modelFile {model : Text} {operations : List ResolvedOperation}
    {notifications : List Text} {f : SourceFile}
    (h : modelFile site model operations notifications options = .ok f) :
    i ∈ f.imports ∧ i.isOwn = true ↔ i = bootstrapImport ["t", baseProcedureName options] := by
  obtain ⟨emitter, endpoints, _, _, rfl⟩ := modelFile_ok h
  rw [SourceFile.mem_imports_ofParts]
  simp only [modelImports, List.mem_cons, List.mem_append, List.mem_ite_nil_right,
    List.not_mem_nil, or_false]
  constructor
  · rintro ⟨rfl | ⟨_, hi⟩ | rfl | rfl | rfl, hown⟩
    · rfl
    · obtain ⟨o, _, rfl⟩ := mem_schemaImports hi
      rw [isOwn_schemaImport] at hown
      cases hown
    · rw [Import.isOwn_of_package rfl] at hown
      cases hown
    · rw [Import.isOwn_of_package rfl] at hown
      cases hown
    · rw [Import.isOwn_of_configured "ee" (by decide) (by simp)] at hown
      cases hown
  · rintro rfl
    refine ⟨.inl rfl, ?_⟩
    unfold baseProcedureName
    split <;> decide

theorem own_appFile {routers : List ModelRouter} {f : SourceFile} (h : appFile routers = .ok f) :
    i ∈ f.imports ∧ i.isOwn = true ↔ i = bootstrapImport ["t"] ∨
      ∃ r ∈ routers.filter (·.hasEndpoints), i = appImport r.model := by
  obtain ⟨_, rfl⟩ := appFile_ok h
  rw [SourceFile.mem_imports_ofParts]
  simp only [List.mem_cons, List.mem_map, exists_exists_and_eq_and]
  constructor
  · rintro ⟨rfl | ⟨r, hr, rfl⟩, _⟩
    · exact .inl rfl
    · exact .inr ⟨r, hr, rfl⟩
  · rintro (rfl | ⟨r, hr, rfl⟩)
    · exact ⟨.inl rfl, by decide⟩
    · exact ⟨.inr ⟨r, hr, rfl⟩, isOwn_appImport r.model⟩

theorem own_policyFile {m : PermissionMatrix} {f : SourceFile}
    (h : Policy.policyFile site m options = .ok f) (hi : i ∈ f.imports) : i.isOwn = false := by
  obtain ⟨imports, himports, rfl⟩ := Policy.policyFile_ok h
  obtain ⟨context, _, rfl⟩ := Policy.policyImports_ok himports
  rw [SourceFile.mem_imports_ofParts] at hi
  simp only [List.mem_cons, List.not_mem_nil, or_false] at hi
  rcases hi with rfl | rfl
  · exact Import.isOwn_of_package rfl
  · exact Import.isOwn_of_configured "Context" (by decide) (by simp)

section Places

variable {model : Text} {f : SourceFile}

theorem locate_bootstrapImport (hf : f.directory = ⟨.none, [Naming.routersDir]⟩)
    (names : List Text) : f.locate (bootstrapImport names).module = bootstrapPath := by
  unfold SourceFile.locate
  rw [hf]
  rfl

theorem locate_appImport (hf : f.directory = ⟨.none, [Naming.routersDir]⟩)
    (hmodel : CodePoint.char '/' ∉ model) :
    f.locate (appImport model).module = Naming.routerPath model := by
  have hclean : (Path.mk .none [model ++ ".router"]).Clean :=
    Path.clean_ending hmodel (by decide) (by decide)
  -- a model may be called "..", but with the ending it is no step to the parent
  have hparent : model ++ ".router" ≠ Path.parent := Path.ne_parent_of_ending (by decide)
  have hmodule : (appImport model).module = Path.specifierText [model ++ ".router"] := by
    rw [Path.specifierText, if_neg hparent]
    exact List.append_assoc ..
  have hjoin : (Path.mk .none [Naming.routersDir]).join ⟨.none, [model ++ ".router"]⟩ =
      ⟨.none, [Naming.routersDir, model ++ ".router"]⟩ := rfl
  have hnormal : Path.parent ∉ [Naming.routersDir, model ++ ".router"] := by
    simp only [List.mem_cons, List.not_mem_nil, or_false, not_or]
    exact ⟨by decide, hparent.symm⟩
  unfold SourceFile.locate
  rw [hf, hmodule, Path.ofText_specifierText hclean, hjoin, Path.normal,
    Path.resolveSegments_names hnormal]
  have htext : (Path.mk .none [Naming.routersDir, model ++ ".router"]).text =
      Naming.routersDir ++ ("/" ++ (model ++ ".router")) := rfl
  rw [htext]
  simp only [Naming.routerPath, List.append_assoc]
  rfl

end Places

section Declared

variable {f : SourceFile}

theorem declared_bootstrapFile (h : bootstrapFile site options = .ok f) :
    f.path = bootstrapPath ∧ [("t" : Text), baseProcedureName options] ⊆ f.declared := by
  obtain ⟨imports, _, rfl⟩ := bootstrapFile_ok h
  refine ⟨rfl, ?_⟩
  unfold SourceFile.declared SourceFile.ofParts bootstrapStatements globalStatements
    shieldStatements baseProcedureName
  cases options.withShield <;> cases options.middleware <;> simp [Statement.declared]

theorem declared_modelFile {model : Text} {operations : List ResolvedOperation}
    {notifications : List Text}
    (h : modelFile site model operations notifications options = .ok f) :
    f.path = Naming.routerPath model ∧ [Naming.routerSymbol model] ⊆ f.declared := by
  obtain ⟨emitter, endpoints, _, _, rfl⟩ := modelFile_ok h
  exact ⟨rfl, List.Subset.refl _⟩

theorem declared_policyFile {m : PermissionMatrix} (h : Policy.policyFile site m options = .ok f) :
    f.path = shieldPath ∧ [("permissions" : Text)] ⊆ f.declared := by
  obtain ⟨imports, _, rfl⟩ := Policy.policyFile_ok h
  exact ⟨rfl, List.Subset.refl _⟩

end Declared

end Router

/-- The import stands for exactly one of the files, and that file declares what it brings in. -/
def Import.Links (i : Import) (f : SourceFile) (sources : List SourceFile) : Prop :=
  (sources.map (·.path)).count (f.locate i.module) = 1 ∧
    ∃ target ∈ sources, target.path = f.locate i.module ∧ i.bound ⊆ target.declared

theorem Import.links_of_mem {i : Import} {f target : SourceFile} {sources : List SourceFile}
    (hpaths : (sources.map (·.path)).Nodup) (hmem : target ∈ sources)
    (hpath : target.path = f.locate i.module) (hbound : i.bound ⊆ target.declared) :
    i.Links f sources := by
  refine ⟨List.count_eq_one_of_mem hpaths ?_, target, hmem, hpath, hbound⟩
  exact hpath ▸ List.mem_map_of_mem hmem

namespace Run.Parts

variable {site : Router.Site} {d : Document} {options : Options} {p : Parts} {f : SourceFile}

theorem closed_sources (h : p.Fit site d options) (hf : f ∈ p.sources) : f.Closed := by
  rcases mem_sources.mp hf with rfl | hf | hf | rfl
  · exact Router.closed_bootstrapFile h.bootstrap
  · obtain ⟨model, _, hbuilt⟩ := (mem_iff_ok h.routers).mp hf
    exact Router.closed_modelFile hbuilt
  · exact Policy.closed_policyFile ((shield_ok h).2 f hf)
  · exact Router.closed_appFile h.app

theorem links_sources (h : p.Fit site d options)
    (hmodels : ∀ model ∈ p.models, CodePoint.char '/' ∉ model) (hf : f ∈ p.sources) {i : Import}
    (hi : i ∈ f.imports) (hown : i.isOwn = true) :
    (i.module = "./helpers/createRouter" ∨ i.module = "../../shield/shield" ∨
      ∃ model ∈ p.models, i.module = "./" ++ model ++ ".router") ∧ i.Links f p.sources := by
  have hpaths := nodup_paths h
  have hbootstrap := Router.declared_bootstrapFile h.bootstrap
  have happ : p.app.directory = ⟨.none, [Naming.routersDir]⟩ := by
    obtain ⟨_, happ⟩ := Router.appFile_ok h.app
    rw [happ]
    rfl
  have htarget {f : SourceFile} {names : List Text}
      (hf : f.directory = ⟨.none, [Naming.routersDir]⟩)
      (hnames : names ⊆ [("t" : Text), Router.baseProcedureName options]) :
      (Router.bootstrapImport names).Links f p.sources := by
    refine Import.links_of_mem hpaths (mem_sources.mpr (.inl rfl)) ?_
      (List.Subset.trans hnames hbootstrap.2)
    rw [hbootstrap.1, Router.locate_bootstrapImport hf]
  -- the bootstrap imports the policy, a router the bootstrap, the policy no file of the run, and
  -- the application router the bootstrap and the routers
  rcases mem_sources.mp hf with rfl | hf | hf | rfl
  · obtain ⟨hon, rfl⟩ := (Router.own_bootstrapFile h.bootstrap).mp ⟨hi, hown⟩
    obtain ⟨shield, hshield⟩ := (shield_ok h).1 hon
    obtain ⟨hpath, hdeclared⟩ := Router.declared_policyFile ((shield_ok h).2 shield hshield)
    refine ⟨.inr (.inl rfl), Import.links_of_mem hpaths
      (mem_sources.mpr (.inr (.inr (.inl hshield)))) ?_ hdeclared⟩
    unfold SourceFile.locate SourceFile.directory
    rw [hpath, hbootstrap.1]
    rfl
  · obtain ⟨model, hmodel, hbuilt⟩ := (mem_iff_ok h.routers).mp hf
    obtain rfl := (Router.own_modelFile hbuilt).mp ⟨hi, hown⟩
    have hdirectory := SourceFile.directory_router (hmodels model hmodel)
      (Router.declared_modelFile hbuilt).1
    exact ⟨.inl rfl, htarget hdirectory (List.Subset.refl _)⟩
  · rw [Router.own_policyFile ((shield_ok h).2 f hf) hi] at hown
    cases hown
  · rcases (Router.own_appFile h.app).mp ⟨hi, hown⟩ with rfl | ⟨r, hr, rfl⟩
    · exact ⟨.inl rfl, htarget happ (by simp)⟩
    · obtain ⟨model, hmodel, rfl⟩ := List.mem_map.mp (List.mem_of_mem_filter hr)
      obtain ⟨target, htarget, hbuilt⟩ := ok_of_mem h.routers hmodel
      obtain ⟨hpath, hdeclared⟩ := Router.declared_modelFile hbuilt
      refine ⟨.inr (.inr ⟨model, hmodel, rfl⟩), Import.links_of_mem hpaths
        (mem_sources.mpr (.inr (.inl htarget))) ?_ hdeclared⟩
      exact hpath.trans (Router.locate_appImport happ (hmodels model hmodel)).symm

end Run.Parts

/-- What a run that returns has generated links, if no model's name has a slash. -/
theorem links_generate {σ : Type} (sink : Sink σ) (s : σ) (cwd : Path) (d : Document)
    (outputDir : Text) (source : OptionSource) (delegates : Delegates) (g : Generated)
    (hg : (generate sink s cwd d outputDir source delegates).outcome = .ok g)
    (hslash : ∀ r ∈ g.routers, CodePoint.char '/' ∉ r.model) :
    ∀ f ∈ g.sources, f.Closed ∧ ∀ i ∈ f.imports, i.isOwn = true →
      (i.module = "./helpers/createRouter" ∨ i.module = "../../shield/shield" ∨
        ∃ r ∈ g.routers, i.module = "./" ++ r.model ++ ".router") ∧ i.Links f g.sources := by
  obtain ⟨options, hvet, hbuild⟩ := Run.generate_ok sink s cwd d outputDir source delegates hg
  obtain ⟨p, hfit, rfl⟩ := Run.build_ok hbuild
  intro f hf
  refine ⟨Run.Parts.closed_sources hfit hf, fun i hi hown => ?_⟩
  have hmodels : ∀ model ∈ p.models, CodePoint.char '/' ∉ model := fun model hmodel =>
    hslash _ (List.mem_map_of_mem hmodel)
  obtain ⟨hmodule, hlinks⟩ := Run.Parts.links_sources hfit hmodels hf hi hown
  refine ⟨hmodule.imp_right (Or.imp_right ?_), hlinks⟩
  rintro ⟨model, hmodel, h⟩
  exact ⟨_, List.mem_map_of_mem hmodel, h⟩

def Run.pair : Document where
  models := [⟨.str "User", [], .null⟩, ⟨.str "Reply", [], .null⟩]
  mappings := [⟨.str "User",
    [(.findMany, .str "findManyUser"), (.createOne, .str "createOneUser")]⟩]
  generators := [⟨.str "client", .str "prisma-client-js", []⟩]
  schemaPath := .null
  options := []

theorem links_generate_pair :
    ∃ g, (generate MemorySink.sink .empty ⟨.single, ["work"]⟩ Run.pair "out" .ofDocument
        .none).outcome = .ok g ∧
      ((g.sources.flatMap (·.imports)).filter (·.isOwn)).map (·.module) =
        (["../../shield/shield", "./helpers/createRouter", "./helpers/createRouter",
          "./helpers/createRouter", "./User.router", "./Reply.router"] : List Text) ∧
      ∀ f ∈ g.sources, f.Closed ∧ ∀ i ∈ f.imports, i.isOwn = true →
        (i.module = "./helpers/createRouter" ∨ i.module = "../../shield/shield" ∨
          ∃ r ∈ g.routers, i.module = "./" ++ r.model ++ ".router") ∧ i.Links f g.sources := by
  have hrun : (generate MemorySink.sink .empty ⟨.single, ["work"]⟩ Run.pair "out" .ofDocument
      .none).outcome.map (fun g => (g.routers.map (·.model),
        ((g.sources.flatMap (·.imports)).filter (·.isOwn)).map (·.module))) =
      .ok (["User", "Reply"], ["../../shield/shield", "./helpers/createRouter",
        "./helpers/createRouter", "./helpers/createRouter", "./User.router",
        "./Reply.router"]) := by
    decide +kernel
  obtain ⟨g, hg, hsummary⟩ := map_eq_ok.mp hrun
  obtain ⟨hmodels, hown⟩ := Prod.mk.inj hsummary
  refine ⟨g, hg, hown, links_generate _ _ _ _ _ _ _ g hg fun r hr => ?_⟩
  have hplain : ∀ model ∈ g.routers.map (·.model), CodePoint.char '/' ∉ model := by
    rw [hmodels]
    decide
  exact hplain _ (List.mem_map_of_mem hr)

end RouterLayer
