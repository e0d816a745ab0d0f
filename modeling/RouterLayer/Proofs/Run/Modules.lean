import RouterLayer.Proofs.Path.Characters
import RouterLayer.Proofs.Run.Success
import RouterLayer.Proofs.Text.ScriptLiteral

/-!
The modules that generated files import, as their texts show them. A module stands between quotes as
it is, so it is read as itself just when nothing in it is special (`Import.isFaithful_iff`); what can
be special comes from the places, the configured paths and the names of the models
(`faithful_generate`).
-/

set_option autoImplicit false

namespace RouterLayer

namespace Import

def clause (i : Import) : Text := (if i.typeOnly then "type " else "") ++ i.binding

/-- The literal in the line of the import stands for the module, and the line ends behind it. -/
def IsFaithful (i : Import) : Prop :=
  ∃ rest, i.line = "import " ++ i.clause ++ " from " ++ rest ∧
    Script.readLiteral? rest = some (i.module.units, (";\n" : Text))

theorem line_eq (i : Import) : i.line =
    "import " ++ i.clause ++ " from " ++ ("'" ++ (i.module ++ (("'" : Text) ++ ";\n"))) := by
  unfold line clause
  simp only [List.append_assoc, List.append_cancel_left_eq]
  rfl

theorem isFaithful_iff {i : Import} : i.IsFaithful ↔ Script.IsPlain i.module := by
  rw [← Script.readLiteral?_iff i.module ";\n"]
  constructor
  · rintro ⟨rest, hline, hread⟩
    rw [line_eq, List.append_cancel_left_eq] at hline
    rwa [hline]
  · exact fun h => ⟨_, i.line_eq, h⟩

end Import

theorem SourceFile.forall_mem_ofParts {path : Text} {imports : List Import}
    {statements : List Statement} {good : Import → Prop} :
    (∀ i ∈ (ofParts path imports statements).imports, good i) ↔ ∀ i ∈ imports, good i := by
  simp only [mem_imports_ofParts]

/-- The characters of the modules whose names do not depend on a run. -/
def modulePoints : Text := "/.-@abcdefghijklmnopqrstuvwxyzABCDEFGHIJKLMNOPQRSTUVWXYZ"

section Modules

variable {good : CodePoint → Prop} (hgood : ∀ c ∈ modulePoints, good c)
include hgood

theorem forall_mem_of_modulePoints {s : Text} (h : s ⊆ modulePoints) : ∀ c ∈ s, good c :=
  fun c hc => hgood c (h hc)

namespace Router

variable {site : Site} {options : Options} (hcwd : site.cwd.Within good)
  (hout : site.output.Within good)
include hcwd hout

theorem forall_mem_module {dir path s : Text} (hpath : ∀ c ∈ path, good c)
    (h : configuredSpecifier site dir path = .ok s) : ∀ c ∈ s, good c :=
  forall_mem_configuredSpecifier (hgood _ (by decide)) (hgood _ (by decide)) hcwd hout hpath h

theorem forall_mem_optionalImport {name : Text} {path? : Option Text} {imports : List Import}
    (hpath : ∀ path ∈ path?, ∀ c ∈ path, good c)
    (h : optionalImport site name path? = .ok imports) :
    ∀ i ∈ imports, ∀ c ∈ i.module, good c := by
  rcases optionalImport_ok h with ⟨-, rfl⟩ | ⟨path, s, hsome, hs, rfl⟩
  · exact List.forall_mem_nil _
  · exact List.forall_mem_singleton.mpr
      (forall_mem_module hgood hcwd hout (hpath path hsome) hs)

theorem forall_mem_bootstrapFile {f : SourceFile}
    (hpaths : ∀ path ∈ options.contextPath :: (options.trpcOptionsPath.toList ++
      options.middleware.path?.toList), ∀ c ∈ path, good c)
    (h : bootstrapFile site options = .ok f) : ∀ i ∈ f.imports, ∀ c ∈ i.module, good c := by
  simp only [List.forall_mem_cons, List.forall_mem_append, Option.mem_toList] at hpaths
  obtain ⟨hcontext, hsettings, hmiddleware⟩ := hpaths
  obtain ⟨imports, himports, rfl⟩ := bootstrapFile_ok h
  obtain ⟨context, settings, middleware, hc, hs, hm, rfl⟩ := bootstrapImports_ok himports
  rw [SourceFile.forall_mem_ofParts]
  simp only [List.forall_mem_cons, List.forall_mem_append]
  refine ⟨forall_mem_of_modulePoints hgood (by decide),
    forall_mem_module hgood hcwd hout hcontext hc, ⟨fun i hi => ?_,
      forall_mem_optionalImport hgood hcwd hout hsettings hs⟩,
      forall_mem_optionalImport hgood hcwd hout hmiddleware hm⟩
  obtain ⟨-, rfl⟩ := mem_shieldImports.mp hi
  exact forall_mem_of_modulePoints hgood (by decide)

theorem forall_mem_modelFile {model : Text} {operations : List ResolvedOperation}
    {notifications : List Text} {f : SourceFile} (hmodel : ∀ c ∈ model, good c)
    (hemitter : ∀ c ∈ options.emitterPath, good c)
    (h : modelFile site model operations notifications options = .ok f) :
    ∀ i ∈ f.imports, ∀ c ∈ i.module, good c := by
  obtain ⟨emitter, endpoints, he, -, rfl⟩ := modelFile_ok h
  have hbootstrap : ("./helpers/createRouter" : Text) ⊆ modulePoints := by decide
  have hclient : ("@prisma/client" : Text) ⊆ modulePoints := by decide
  have hschema : ∀ i ∈ schemaImports model (operations.map (·.operation)),
      ∀ c ∈ i.module, good c := by
    intro i hi
    obtain ⟨o, -, rfl⟩ := mem_schemaImports hi
    have hname : o.base.name ⊆ modulePoints := by cases o <;> decide
    simp only [schemaImport, Import.names, Naming.schemaModule, List.forall_mem_append]
    exact ⟨⟨⟨forall_mem_of_modulePoints hgood (by decide),
      forall_mem_of_modulePoints hgood hname⟩, hmodel⟩,
      forall_mem_of_modulePoints hgood (by decide)⟩
  rw [SourceFile.forall_mem_ofParts]
  simp only [modelImports, List.forall_mem_cons, List.forall_mem_append]
  refine ⟨forall_mem_of_modulePoints hgood hbootstrap, fun i hi => ?_,
    forall_mem_of_modulePoints hgood hclient, forall_mem_of_modulePoints hgood (by decide),
    forall_mem_module hgood hcwd hout hemitter he, List.forall_mem_nil _⟩
  split at hi
  · exact hschema i hi
  · cases hi

omit hcwd hout in
theorem forall_mem_appFile {routers : List ModelRouter} {f : SourceFile}
    (hmodels : ∀ r ∈ routers, ∀ c ∈ r.model, good c) (h : appFile routers = .ok f) :
    ∀ i ∈ f.imports, ∀ c ∈ i.module, good c := by
  obtain ⟨-, rfl⟩ := appFile_ok h
  rw [SourceFile.forall_mem_ofParts]
  intro i hi
  rcases List.mem_cons.mp hi with rfl | hi
  · exact forall_mem_of_modulePoints hgood (by decide)
  · obtain ⟨model, hmodel, rfl⟩ := List.mem_map.mp hi
    obtain ⟨r, hr, rfl⟩ := List.mem_map.mp hmodel
    simp only [appImport, Import.names, List.forall_mem_append]
    exact ⟨⟨forall_mem_of_modulePoints hgood (by decide), hmodels r (List.mem_of_mem_filter hr)⟩,
      forall_mem_of_modulePoints hgood (by decide)⟩

end Router

namespace Policy

theorem forall_mem_policyFile {site : Router.Site} {options : Options} {m : PermissionMatrix}
    {f : SourceFile} (hcwd : site.cwd.Within good) (hout : site.output.Within good)
    (hcontext : ∀ c ∈ options.contextPath, good c)
    (h : policyFile site m options = .ok f) : ∀ i ∈ f.imports, ∀ c ∈ i.module, good c := by
  obtain ⟨imports, himports, rfl⟩ := policyFile_ok h
  obtain ⟨context, hc, rfl⟩ := policyImports_ok himports
  rw [SourceFile.forall_mem_ofParts]
  simp only [List.forall_mem_cons]
  exact ⟨forall_mem_of_modulePoints hgood (by decide),
    Router.forall_mem_module hgood hcwd hout hcontext hc, List.forall_mem_nil _⟩

end Policy

end Modules

namespace Run

structure Within (good : CodePoint → Prop) (cwd : Path) (outputDir : Text) (options : Options)
    (models : List Text) : Prop where
  cwd : cwd.Within good
  outputDir : ∀ c ∈ outputDir, good c
  paths : ∀ path ∈ options.importedPaths models, ∀ c ∈ path, good c

namespace Parts

variable {good : CodePoint → Prop} {cwd : Path} {outputDir : Text} {d : Document}
  {options : Options} {p : Parts}

theorem visibleTexts (h : p.Fit ⟨cwd, Path.ofText outputDir⟩ d options) :
    d.visibleTexts = p.models := by
  have hnames : d.visibleTexts = (d.visible.map (·.name)).filterMap Json.text? := by
    rw [List.filterMap_map]
    rfl
  have htext : Json.text? ∘ Json.str = some := rfl
  rw [hnames, h.models, List.filterMap_map, htext, List.filterMap_some]

theorem forall_mem_module (h : p.Fit ⟨cwd, Path.ofText outputDir⟩ d options)
    (hgood : ∀ c ∈ modulePoints, good c) (hgiven : Within good cwd outputDir options d.visibleTexts)
    (hmodels : ∀ model ∈ d.visibleTexts, ∀ c ∈ model, good c) :
    ∀ f ∈ p.sources, ∀ i ∈ f.imports, ∀ c ∈ i.module, good c := by
  obtain ⟨hcwd, houtput, hpaths⟩ := hgiven
  have hout : (Path.ofText outputDir).Within good := Path.within_ofText houtput
  rw [visibleTexts h] at hmodels hpaths
  rw [Options.importedPaths, List.forall_mem_append] at hpaths
  intro f hf
  rcases mem_sources.mp hf with rfl | hf | hf | rfl
  · exact Router.forall_mem_bootstrapFile hgood hcwd hout hpaths.1 h.bootstrap
  · obtain ⟨model, hmodel, hfile⟩ := (mem_iff_ok h.routers).mp hf
    have hemitter : ∀ c ∈ options.emitterPath, good c := by
      refine hpaths.2 _ ?_
      rw [if_neg (by simpa using List.ne_nil_of_mem hmodel)]
      exact List.mem_singleton_self _
    exact Router.forall_mem_modelFile hgood hcwd hout (hmodels model hmodel) hemitter hfile
  · exact Policy.forall_mem_policyFile hgood hcwd hout (hpaths.1 _ List.mem_cons_self)
      ((shield_ok h).2 f hf)
  · refine Router.forall_mem_appFile hgood (fun r hr => ?_) h.app
    obtain ⟨model, hmodel, rfl⟩ := List.mem_map.mp hr
    exact hmodels model hmodel

end Parts

end Run

/-- An import of a generated file stands for its module unless that has a character that literals
treat as special, and such a character comes from a place, from a configured path or from the name
of a model. -/
theorem faithful_generate {σ : Type} (sink : Sink σ) (s : σ) (cwd : Path) (d : Document)
    (outputDir : Text) (source : OptionSource) (delegates : Delegates) (g : Generated)
    (hg : (generate sink s cwd d outputDir source delegates).outcome = .ok g) :
    (∀ f ∈ g.sources, ∀ i ∈ f.imports, i.IsFaithful ↔ Script.IsPlain i.module) ∧
    (Run.Within (Script.isSpecial · = false) cwd outputDir g.options d.visibleTexts →
      (∀ model ∈ d.visibleTexts, Script.IsPlain model) →
      ∀ f ∈ g.sources, ∀ i ∈ f.imports, i.IsFaithful) := by
  refine ⟨fun _ _ _ _ => Import.isFaithful_iff, fun hgiven hmodels f hf i hi => ?_⟩
  obtain ⟨options, _, hbuild⟩ := Run.generate_ok _ _ _ _ _ _ _ hg
  obtain ⟨p, hfit, rfl⟩ := Run.build_ok hbuild
  exact Import.isFaithful_iff.mpr
    (Run.Parts.forall_mem_module hfit (by decide) hgiven hmodels f hf i hi)

def Run.contextIn (directory : Text) : Options :=
  { Options.default with contextPath := "../" ++ directory ++ "/context" }

theorem faithful_generate_spaced :
    ∃ g, (generate MemorySink.sink .empty ⟨.single, ["work"]⟩ (Run.rivals "Post") "out"
        (.checked (Run.contextIn "my app")) .none).outcome = .ok g ∧
      g.sources.flatMap (·.imports.map (·.module)) = (["@trpc/server", "../../../my app/context",
        "../../shield/shield", "./helpers/createRouter", "@prisma/client",
        "@trpc/server/observable", "../../../src/emitter", "./helpers/createRouter",
        "@prisma/client", "@trpc/server/observable", "../../../src/emitter", "trpc-shield",
        "../../my app/context", "./helpers/createRouter", "./User.router", "./Post.router"] :
          List Text) ∧
      ∀ f ∈ g.sources, ∀ i ∈ f.imports, i.IsFaithful := by
  have hrun : (generate MemorySink.sink .empty ⟨.single, ["work"]⟩ (Run.rivals "Post") "out"
      (.checked (Run.contextIn "my app")) .none).outcome.map (fun g =>
        (g.options, g.sources.flatMap (·.imports.map (·.module)))) =
      .ok (Run.contextIn "my app", ["@trpc/server", "../../../my app/context",
        "../../shield/shield", "./helpers/createRouter", "@prisma/client",
        "@trpc/server/observable", "../../../src/emitter", "./helpers/createRouter",
        "@prisma/client", "@trpc/server/observable", "../../../src/emitter", "trpc-shield",
        "../../my app/context", "./helpers/createRouter", "./User.router", "./Post.router"]) := by
    decide +kernel
  obtain ⟨g, hg, hsummary⟩ := map_eq_ok.mp hrun
  obtain ⟨hoptions, hmodules⟩ := Prod.mk.inj hsummary
  refine ⟨g, hg, hmodules, (faithful_generate MemorySink.sink .empty ⟨.single, ["work"]⟩
    (Run.rivals "Post") "out" _ .none g hg).2 ?_ (by decide)⟩
  have hcwd : ∀ s ∈ (["work"] : List Text), Script.IsPlain s := by decide
  rw [hoptions]
  exact ⟨hcwd, by decide, by decide⟩

theorem not_faithful_generate :
    ¬∀ (cwd : Path) (d : Document) (outputDir : Text) (options : Options) (g : Generated),
      (generate MemorySink.sink .empty cwd d outputDir (.checked options) .none).outcome = .ok g →
      ∀ f ∈ g.sources, ∀ i ∈ f.imports, i.IsFaithful := by
  intro h
  have hrun : (generate MemorySink.sink .empty ⟨.single, ["work"]⟩ (Run.rivals "Post") "out"
      (.checked (Run.contextIn "it's")) .none).outcome.map (fun g =>
        (g.sources.flatMap (·.imports.map (·.module))).contains
          ("../../../it's/context" : Text)) = .ok true := by decide +kernel
  obtain ⟨g, hg, hmodule⟩ := map_eq_ok.mp hrun
  obtain ⟨f, hf, hmodule⟩ := List.mem_flatMap.mp (List.contains_iff_mem.mp hmodule)
  obtain ⟨i, hi, hmodule⟩ := List.mem_map.mp hmodule
  have hplain := Import.isFaithful_iff.mp (h _ _ _ _ g hg f hf i hi)
  rw [hmodule] at hplain
  exact absurd hplain (by decide)

end RouterLayer
