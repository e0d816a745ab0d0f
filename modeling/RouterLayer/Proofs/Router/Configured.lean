import Mathlib.Data.List.Nodup
import RouterLayer.Proofs.Router.Imports
import RouterLayer.Proofs.Run.Calls

set_option autoImplicit false

namespace RouterLayer

namespace Router.Site

variable (site : Site)

def pathOf (configured : Text) : Path := site.output.join (Path.ofText configured)

def lead (directory : Path) (specifier : Text) : List Segment :=
  site.cwd.absoluteSegments ((site.output.join directory).join (Path.ofText specifier))

def moduleOf (configured : Text) : List Segment :=
  site.cwd.absoluteSegments (site.pathOf configured).normal.dropExtension

structure Clean : Prop where
  cwd : site.cwd.Clean
  output : site.output.Clean

end Router.Site

/-- The file imports the name from a file, and from no other file than the one at the place. -/
def SourceFile.Takes (f : SourceFile) (site : Router.Site) (name : Text) (place : List Segment) :
    Prop :=
  (∃ i ∈ f.imports, i.isRelative = true ∧ name ∈ i.bound) ∧
    ∀ i ∈ f.imports, i.isRelative = true → name ∈ i.bound → site.lead f.directory i.module = place

theorem Path.head_specifierText (steps : List Segment) :
    (specifierText steps).head? = some (CodePoint.char '.') := by
  cases steps with
  | nil => rfl
  | cons s rest =>
    by_cases h : s = parent
    · rw [specifierText, if_pos h, h]
      cases rest <;> rfl
    · rw [specifierText, if_neg h]
      rfl

namespace Router

variable {site : Site} {options : Options} {dir path s : Text}

theorem specifier?_of_specifier {source target : Path} (h : specifier site source target = .ok s) :
    Path.specifier? site.cwd source target = some s := by
  unfold specifier at h
  split at h
  · next hsome => rw [hsome, Except.ok.inj h]
  · cases h

theorem normal_configured (output path : Path) :
    (Path.configured output path).normal = (output.join path).normal := by
  unfold Path.configured
  split
  · next h => rw [Path.join_of_isAbsolute output path h]
  · exact Path.normal_normal _

theorem Site.clean_ofText (cwd outputDir : Text) :
    Site.Clean ⟨Path.ofText cwd, Path.ofText outputDir⟩ :=
  ⟨Path.clean_ofText cwd, Path.clean_ofText outputDir⟩

namespace Site.Clean

variable (h : site.Clean)
include h

theorem pathOf (configured : Text) : (site.pathOf configured).Clean :=
  h.output.join (Path.clean_ofText configured)

theorem configured (configured : Text) :
    (Path.configured site.output (Path.ofText configured)).Clean := by
  unfold Path.configured
  split
  · exact Path.clean_ofText configured
  · exact (h.pathOf configured).normal

theorem names_moduleOf (configured : Text) :
    site.cwd.Names (site.pathOf configured) (site.moduleOf configured) :=
  Path.names_dropExtension h.cwd (h.pathOf configured)

theorem names_configured (configured : Text) :
    site.cwd.Names (Path.configured site.output (Path.ofText configured))
      (site.moduleOf configured) :=
  (Path.names_congr (h.configured configured) (h.pathOf configured)
    (normal_configured _ _)).mpr (h.names_moduleOf configured)

theorem lead_eq (hs : configuredSpecifier site dir path = .ok s) :
    site.lead (Path.ofText dir) s = site.moduleOf path :=
  (Path.names_specifier h.cwd (h.output.join (Path.clean_ofText dir)) (h.configured path)
    (specifier?_of_specifier hs)).unique (h.names_configured path)

end Site.Clean

theorem head_configuredSpecifier (h : configuredSpecifier site dir path = .ok s) :
    s.head? = some (CodePoint.char '.') := by
  rw [Path.specifier?_eq_some (specifier?_of_specifier h)]
  exact Path.head_specifierText _

theorem takes_of_configured (h : site.Clean) (dir : Text) {f : SourceFile} {name : Text}
    (hdir : f.directory = Path.ofText dir)
    (hsome : ∃ i ∈ f.imports, name ∈ i.bound ∧ configuredSpecifier site dir path = .ok i.module)
    (hall : ∀ i ∈ f.imports, i.isRelative = true → name ∈ i.bound →
      configuredSpecifier site dir path = .ok i.module) :
    f.Takes site name (site.moduleOf path) := by
  obtain ⟨i, hi, hname, hs⟩ := hsome
  refine ⟨⟨i, hi, ?_, hname⟩, fun j hj hrelative hname => ?_⟩
  · rw [Import.isRelative, head_configuredSpecifier hs]
    rfl
  · rw [hdir]
    exact h.lead_eq (hall j hj hrelative hname)

section Bootstrap

def optionalModule (name : Text) (path? : Option Text) : List (Text × Text) :=
  path?.toList.map fun path => (name, path)

def bootstrapModules (options : Options) : List (Text × Text) :=
  ("Context", options.contextPath) :: (optionalModule "trpcOptions" options.trpcOptionsPath ++
    optionalModule "defaultMiddleware" options.middleware.path?)

def bootstrapNames : List Text := ["Context", "trpcOptions", "defaultMiddleware"]

theorem names_bootstrapModules (options : Options) :
    ((bootstrapModules options).map (·.1)).Sublist bootstrapNames := by
  unfold bootstrapModules optionalModule
  cases options.trpcOptionsPath <;> cases options.middleware.path? <;>
    simp [bootstrapNames]

def describe (i : Import) : List Text × Except Failure Text := (i.bound, .ok i.module)

def describeConfigured (site : Site) (c : Text × Text) : List Text × Except Failure Text :=
  ([c.1], configuredSpecifier site helpersDir c.2)

theorem describe_optionalImport {name : Text} {path? : Option Text} {imports : List Import}
    (h : optionalImport site name path? = .ok imports) :
    imports.map describe = (optionalModule name path?).map (describeConfigured site) := by
  rcases optionalImport_ok h with ⟨rfl, rfl⟩ | ⟨path, s, rfl, hs, rfl⟩
  · rfl
  · simp only [optionalModule, Option.toList_some, List.map_singleton, describeConfigured, hs]
    rfl

theorem mem_describe_bootstrapImports {imports : List Import}
    (h : bootstrapImports site options = .ok imports) (d : List Text × Except Failure Text) :
    d ∈ imports.map describe ↔ d = describe (.everything "@trpc/server" "trpc") ∨
      d ∈ (shieldImports options).map describe ∨
      d ∈ (bootstrapModules options).map (describeConfigured site) := by
  obtain ⟨context, settings, middleware, hcontext, hsettings, hmiddleware, rfl⟩ :=
    bootstrapImports_ok h
  have hfirst : describe (Import.types context ["Context"]) =
      describeConfigured site ("Context", options.contextPath) := by
    rw [describeConfigured, hcontext]
    rfl
  simp only [List.map_cons, List.map_append, List.mem_cons, List.mem_append, hfirst,
    describe_optionalImport hsettings, describe_optionalImport hmiddleware, bootstrapModules]
  tauto

theorem takes_bootstrapFile (h : site.Clean) {f : SourceFile}
    (hf : bootstrapFile site options = .ok f) {c : Text × Text}
    (hc : c ∈ bootstrapModules options) : f.Takes site c.1 (site.moduleOf c.2) := by
  obtain ⟨imports, himports, rfl⟩ := bootstrapFile_ok hf
  have hdescribed := mem_describe_bootstrapImports himports
  refine takes_of_configured h helpersDir rfl ?_ fun i hi _ hname => ?_
  · obtain ⟨i, hi, hdescribe⟩ := List.mem_map.mp
      ((hdescribed _).mpr (.inr (.inr (List.mem_map_of_mem hc))))
    obtain ⟨hbound, hs⟩ := Prod.mk.inj hdescribe
    refine ⟨i, SourceFile.mem_imports_ofParts.mpr hi, ?_, hs.symm⟩
    rw [hbound]
    exact List.mem_singleton_self _
  · have hi := List.mem_map_of_mem (f := describe) (SourceFile.mem_imports_ofParts.mp hi)
    have hnames := names_bootstrapModules options
    have hone : c.1 ∈ bootstrapNames := hnames.subset (List.mem_map_of_mem hc)
    -- neither the package nor the shield brings in such a name, and the options give it one module
    rcases (hdescribed _).mp hi with hpackage | hshield | hconfigured
    · rw [(Prod.mk.inj hpackage).1, Import.bound_everything, List.mem_singleton] at hname
      exact absurd (hname ▸ hone) (by decide)
    · obtain ⟨j, hj, hdescribe⟩ := List.mem_map.mp hshield
      obtain ⟨_, rfl⟩ := mem_shieldImports.mp hj
      rw [← (Prod.mk.inj hdescribe).1, Import.bound_names, List.mem_singleton] at hname
      exact absurd (hname ▸ hone) (by decide)
    · obtain ⟨c', hc', hdescribe⟩ := List.mem_map.mp hconfigured
      obtain ⟨hbound, hs⟩ := Prod.mk.inj hdescribe
      rw [← hbound, List.mem_singleton] at hname
      rw [List.inj_on_of_nodup_map (hnames.nodup (by decide)) hc hc' hname]
      exact hs

end Bootstrap

theorem schemaOf_ne_ee (model : Text) (o : Operation) : schemaOf model o ≠ "ee" := by
  have hsuffix : 3 ≤ o.base.schemaSuffix.length := by cases o <;> decide
  intro h
  have hlength := congrArg List.length h
  rw [schemaOf, Naming.inputType, if_pos rfl, List.length_append,
    show ("ee" : Text).length = 2 from rfl] at hlength
  omega

/-- A model that has the emitter's name is no exception: its type comes from a package. -/
theorem takes_modelFile (h : site.Clean) {model : Text} (hmodel : CodePoint.char '/' ∉ model)
    {operations : List ResolvedOperation} {notifications : List Text} {f : SourceFile}
    (hf : modelFile site model operations notifications options = .ok f) :
    f.Takes site "ee" (site.moduleOf options.emitterPath) := by
  obtain ⟨emitter, endpoints, hemitter, _, rfl⟩ := modelFile_ok hf
  refine takes_of_configured h Naming.routersDir (SourceFile.directory_router hmodel rfl) ?_
    fun i hi hrelative hname => ?_
  · refine ⟨Import.names emitter ["ee"], SourceFile.mem_imports_ofParts.mpr ?_, ?_, hemitter⟩
    · simp [modelImports]
    · exact List.mem_singleton_self _
  · replace hi := SourceFile.mem_imports_ofParts.mp hi
    simp only [modelImports, List.mem_cons, List.mem_append, List.mem_ite_nil_right,
      List.not_mem_nil, or_false] at hi
    -- in order: the bootstrap, the schemas, two packages, the emitter
    rcases hi with rfl | ⟨_, hi⟩ | rfl | rfl | rfl
    · refine absurd hname ?_
      unfold baseProcedureName
      split <;> decide
    · obtain ⟨o, _, rfl⟩ := mem_schemaImports hi
      exact absurd (List.mem_singleton.mp hname).symm (schemaOf_ne_ee model o)
    · cases hrelative
    · cases hrelative
    · exact hemitter

end Router

theorem Policy.takes_policyFile {site : Router.Site} (h : site.Clean) {options : Options}
    {m : PermissionMatrix} {f : SourceFile} (hf : policyFile site m options = .ok f) :
    f.Takes site "Context" (site.moduleOf options.contextPath) := by
  obtain ⟨imports, himports, rfl⟩ := policyFile_ok hf
  obtain ⟨context, hcontext, rfl⟩ := policyImports_ok himports
  refine Router.takes_of_configured h Router.shieldDir rfl ?_
    fun i hi hrelative _ => ?_
  · refine ⟨Import.names context ["Context"], SourceFile.mem_imports_ofParts.mpr ?_, ?_, hcontext⟩
    · exact List.mem_cons_of_mem _ List.mem_cons_self
    · exact List.mem_singleton_self _
  · replace hi := SourceFile.mem_imports_ofParts.mp hi
    simp only [List.mem_cons, List.not_mem_nil, or_false] at hi
    rcases hi with rfl | rfl
    · cases hrelative
    · exact hcontext

/-- Every configured path names one module, and everything that the options configure is imported
from the module of its path; the policy starter is told of the module of the context. -/
structure Router.Configured (site : Router.Site) (options : Options)
    (place : Text → List Segment) : Prop where
  names : ∀ configured, site.cwd.Names (site.pathOf configured) (place configured)
  bootstrap : ∀ f, bootstrapFile site options = .ok f →
    f.Takes site "Context" (place options.contextPath) ∧
      (∀ path, options.trpcOptionsPath = some path → f.Takes site "trpcOptions" (place path)) ∧
      ∀ path, options.middleware = .module path → f.Takes site "defaultMiddleware" (place path)
  routers : ∀ model operations notifications f, CodePoint.char '/' ∉ model →
    modelFile site model operations notifications options = .ok f →
      f.Takes site "ee" (place options.emitterPath)
  policy : ∀ m f, Policy.policyFile site m options = .ok f →
    f.Takes site "Context" (place options.contextPath)

theorem configured_modules {σ : Type} (sink : Sink σ) (s : σ) (cwd outputDir : Text) (d : Document)
    (source : OptionSource) (options : Options) (delegates : Delegates)
    (ho : source.resolve d = .ok options) :
    ∃ place, Router.Configured ⟨Path.ofText cwd, Path.ofText outputDir⟩ options place ∧
      ∀ c ∈ (generate sink s (Path.ofText cwd) d outputDir source delegates).calls,
        c.role = .policy → ∃ path, c.context.contextPath = some path ∧
          (Path.ofText cwd).Names (Path.ofText path) (place options.contextPath) := by
  have h := Router.Site.clean_ofText cwd outputDir
  refine ⟨Router.Site.moduleOf ⟨Path.ofText cwd, Path.ofText outputDir⟩,
    ⟨h.names_moduleOf, fun f hf => ⟨?_, fun path hpath => ?_, fun path hpath => ?_⟩,
      fun model operations notifications f hmodel hf => ?_, fun m f hf => ?_⟩,
    fun c hc hrole => ?_⟩
  · exact Router.takes_bootstrapFile h hf List.mem_cons_self
  · refine Router.takes_bootstrapFile h hf (c := ("trpcOptions", path)) ?_
    simp [Router.bootstrapModules, Router.optionalModule, hpath]
  · refine Router.takes_bootstrapFile h hf (c := ("defaultMiddleware", path)) ?_
    simp [Router.bootstrapModules, Router.optionalModule, MiddlewareSetting.path?, hpath]
  · exact Router.takes_modelFile h hmodel hf
  · exact Policy.takes_policyFile h hf
  · have hcontext := (Run.calls_generate delegates s sink (Path.ofText cwd) d outputDir source ho
      c hc).2
    rw [hrole] at hcontext
    refine ⟨_, congrArg RunContext.contextPath hcontext, ?_⟩
    rw [Path.ofText_text (h.configured options.contextPath)]
    exact h.names_configured options.contextPath

namespace Router

/-- Options that name a module beside the output directory, one at an absolute path, and one
within the output. -/
def relocated : Options :=
  { Options.default with
    contextPath := "../lib/context.ts"
    trpcOptionsPath := some "/srv/settings.js"
    middleware := .module "guard" }

def workshop : Site := ⟨Path.ofText "/work", Path.ofText "out"⟩

end Router

namespace Run

def plain : Document := ⟨[], [], [⟨.str "client", .str "prisma-client-js", []⟩], .null, []⟩

def starterOnly : Delegates := ⟨none, some ⟨"starter", fun _ => .ok ()⟩⟩

def relocatedCalls : List (Call MemorySink) :=
  (generate MemorySink.sink .empty (Path.ofText "/work") plain "out" (.checked Router.relocated)
    starterOnly).calls

end Run

theorem configured_modules_relocated :
    (Router.bootstrapFile Router.workshop Router.relocated).isOk = true ∧
    (Router.modelFile Router.workshop "Post" [] notificationEvents Router.relocated).isOk = true ∧
    (Policy.policyFile Router.workshop (Policy.matrix []) Router.relocated).isOk = true ∧
    Run.relocatedCalls.map (·.role) = [.policy] ∧
    ∃ place, place "../lib/context.ts" = [("work" : Text), "lib", "context"] ∧
      place "/srv/settings.js" = [("srv" : Text), "settings"] ∧
      place "guard" = [("work" : Text), "out", "guard"] ∧
      Router.Configured Router.workshop Router.relocated place ∧
      ∀ c ∈ Run.relocatedCalls, c.role = .policy → ∃ path, c.context.contextPath = some path ∧
        (Path.ofText "/work").Names (Path.ofText path) (place Router.relocated.contextPath) := by
  obtain ⟨place, hconfigured, hcalls⟩ := configured_modules MemorySink.sink .empty "/work" "out"
    Run.plain (.checked Router.relocated) Router.relocated Run.starterOnly rfl
  have hbuilt : (Router.bootstrapFile Router.workshop Router.relocated).isOk = true ∧
      (Router.modelFile Router.workshop "Post" [] notificationEvents Router.relocated).isOk = true ∧
      (Policy.policyFile Router.workshop (Policy.matrix []) Router.relocated).isOk = true ∧
      Run.relocatedCalls.map (·.role) = [.policy] := by decide +kernel
  obtain ⟨hbootstrap, hrouter, hpolicy, hroles⟩ := hbuilt
  refine ⟨hbootstrap, hrouter, hpolicy, hroles, place, ?_, ?_, ?_, hconfigured, hcalls⟩
  · exact (hconfigured.names _).unique ⟨"/work/lib/context", by decide, by decide⟩
  · exact (hconfigured.names _).unique ⟨"/srv/settings", by decide, by decide⟩
  · exact (hconfigured.names _).unique ⟨"/work/out/guard", by decide, by decide⟩

/-- A router of a name with a slash lies in a directory of its own, from which the specifier does
not lead to the emitter. -/
theorem not_takes_nested :
    ∃ f, Router.modelFile Router.workshop "a/b" [] notificationEvents Options.default = .ok f ∧
      ∀ place,
        Router.workshop.cwd.Names (Router.workshop.pathOf Options.default.emitterPath) place →
        ¬ f.Takes Router.workshop "ee" place := by
  have hrun : (Router.modelFile Router.workshop "a/b" [] notificationEvents Options.default).map
      (fun f => f.imports.any fun i => i.isRelative && i.bound.contains "ee" &&
        Router.workshop.lead f.directory i.module = ["work", "src", "emitter"]) = .ok true := by
    decide +kernel
  obtain ⟨f, hf, himports⟩ := map_eq_ok.mp hrun
  refine ⟨f, hf, fun place hnames htakes => ?_⟩
  have hplace : place = ["src", "emitter"] :=
    hnames.unique ⟨"/src/emitter", by decide, by decide⟩
  obtain ⟨i, hi, himport⟩ := List.any_eq_true.mp himports
  simp only [Bool.and_eq_true, decide_eq_true_iff, List.contains_iff_mem] at himport
  obtain ⟨⟨hrelative, hname⟩, hlead⟩ := himport
  rw [htakes.2 i hi hrelative hname, hplace] at hlead
  exact absurd hlead (by decide)

end RouterLayer
