import RouterLayer.Proofs.Policy.Layout
import RouterLayer.Proofs.Router.Input
import RouterLayer.Proofs.Run.Modules
import RouterLayer.Proofs.SourceFile.Layout

set_option autoImplicit false

namespace RouterLayer

open Text (IsFlat)

/-- A value that leaves the name of an operation alone, or replaces it by an identifier. -/
def Json.IsName (declared : Json) : Prop :=
  declared.isVoid = true ∨ ∃ s ∈ declared.text?, s.IsAsciiIdentifier

instance (declared : Json) : Decidable declared.IsName := inferInstanceAs (Decidable (_ ∨ _))

theorem Json.eq_str_of_text? {value : Json} {s : Text} (h : value.text? = some s) :
    value = .str s := by
  cases value <;> cases h
  rfl

structure Operation.Flat (o : Operation) : Prop where
  name : o.name.IsFlat
  clientMethod : o.clientMethod.IsFlat
  action : o.action.name.IsFlat
  schemaSuffix : o.base.schemaSuffix.IsFlat
  callArguments : ∀ names ∈ o.callArguments, ∀ name ∈ names, name.IsFlat

theorem Operation.flat (o : Operation) : o.Flat := by
  cases o <;> exact ⟨by decide, by decide, by decide, by decide, by decide⟩

namespace Router

variable {site : Site} {options : Options} {model : Text}

theorem isFlat_baseProcedureName (options : Options) : (baseProcedureName options).IsFlat := by
  unfold baseProcedureName
  split <;> decide

section Members

variable (h : model.IsAsciiIdentifier)
include h

theorem isFlat_schemaOf (o : Operation) : (schemaOf model o).IsFlat :=
  h.isFlat.append o.flat.schemaSuffix

theorem isFlat_eventChannel {event : Text} (hevent : event.IsFlat) :
    (Naming.eventChannel model event).IsFlat :=
  (h.isFlat.append (by decide)).append hevent

theorem flat_procedureOf (o : Operation) {key name : Json} (hkey : key.text.IsFlat)
    (hname : name.text.IsFlat) : (procedureOf model options o key name).Flat where
  key := hkey
  baseProcedure := isFlat_baseProcedureName options
  resultName := hname
  clientAccessor := Naming.isFlat_uncapitalize h
  clientMethod := o.flat.clientMethod
  inputType := by
    change (Naming.inputType (some o.base) model options.withZod).IsFlat
    cases options.withZod
    · exact List.forall_mem_nil _
    · exact isFlat_schemaOf h o
  callArguments := by
    rw [callArguments_procedureOf]
    split
    · exact o.flat.callArguments
    · simp
  eventChannel := by
    intro channel hchannel
    unfold procedureOf publishedChannel at hchannel
    simp only at hchannel
    split at hchannel <;> cases hchannel
    exact isFlat_eventChannel h o.flat.action

theorem flat_subscription {event : Text} (hevent : event ∈ notificationEvents) :
    (subscription model event options).Flat where
  key := (by decide : ∀ event ∈ notificationEvents, event.IsFlat) event hevent
  baseProcedure := isFlat_baseProcedureName options
  payloadType := h.isFlat
  channel := isFlat_eventChannel h
    ((by decide : ∀ event ∈ notificationEvents, event.IsFlat) event hevent)
  listener := (by decide : ∀ event ∈ notificationEvents, (Naming.listener event).IsFlat) event hevent

theorem flat_procedure {r : ResolvedOperation} {p : Procedure} (hdeclared : r.declared.IsName)
    (hp : procedure model options r = .ok p) : p.Flat := by
  obtain ⟨key, hkey, rfl⟩ := map_eq_ok.mp hp
  have hname : ∃ s, Naming.endpointName r.operation.name r.declared = .str s ∧ s.IsFlat := by
    unfold Naming.endpointName
    split
    · exact ⟨_, rfl, r.operation.flat.name⟩
    · next hvoid =>
      obtain ⟨s, hs, hflat⟩ := hdeclared.resolve_left hvoid
      exact ⟨s, Json.eq_str_of_text? hs, hflat.isFlat⟩
  obtain ⟨s, hs, hflat⟩ := hname
  rw [hs] at hkey ⊢
  cases hkey
  exact flat_procedureOf h r.operation (Naming.isFlat_procedureKey hflat _ _) hflat

theorem flat_modelEndpoints {operations : List ResolvedOperation} {endpoints : List Endpoint}
    (hdeclared : ∀ r ∈ operations, r.declared.IsName)
    (he : modelEndpoints model operations notificationEvents options = .ok endpoints) :
    ∀ e ∈ endpoints, e.Flat := by
  obtain ⟨procedures, hprocedures, rfl⟩ := modelEndpoints_ok he
  refine List.forall_mem_append.mpr ⟨List.forall_mem_map.mpr fun p hp => ?_,
    List.forall_mem_map.mpr fun event hevent => flat_subscription h hevent⟩
  obtain ⟨r, hr, hbuilt⟩ := (mem_iff_ok hprocedures).mp hp
  exact flat_procedure h (hdeclared r hr) hbuilt

end Members

end Router

theorem SourceFile.flat_ofParts {path : Text} {imports : List Import} {statements : List Statement}
    (hmodule : ∀ i ∈ (ofParts path imports statements).imports, i.module.IsFlat)
    (hbound : ∀ i ∈ imports, ∀ name ∈ i.bound, name.IsFlat)
    (hstatements : ∀ s ∈ statements, s.Flat) (himports : imports ≠ []) (hne : statements ≠ []) :
    (ofParts path imports statements).Flat where
  imports i hi := by
    have hi' := hbound i (mem_imports_ofParts.mp hi)
    simp only [Import.bound, List.forall_mem_append, Option.mem_toList] at hi'
    exact ⟨hmodule i hi, hi'.2, hi'.1.1, hi'.1.2⟩
  statements := hstatements
  imports_ne_nil := by
    obtain ⟨i, hi⟩ := List.exists_mem_of_ne_nil _ himports
    exact List.ne_nil_of_mem (mem_imports_ofParts.mpr hi)
  statements_ne_nil := hne

namespace Router

variable {site : Site} {options : Options} {f : SourceFile}

theorem isFlat_publicMiddlewares (options : Options) :
    ∀ m ∈ publicMiddlewares options, m.IsFlat := by
  unfold publicMiddlewares
  split <;> decide

theorem flat_bootstrapStatements (options : Options) :
    ∀ s ∈ bootstrapStatements options, s.Flat := by
  have hglobal : ∀ s ∈ globalStatements options, s.Flat := by
    unfold globalStatements
    split
    · exact List.forall_mem_nil _
    · exact List.forall_mem_singleton.mpr ⟨by decide, by decide⟩
    · exact List.forall_mem_singleton.mpr ⟨by decide, by decide⟩
  have hshield : ∀ s ∈ shieldStatements options, s.Flat := by
    unfold shieldStatements
    split
    · refine List.forall_mem_cons.mpr ⟨⟨by decide, by decide⟩, List.forall_mem_singleton.mpr
        ⟨by decide, List.forall_mem_append.mpr ⟨isFlat_publicMiddlewares options, by decide⟩⟩⟩
    · exact List.forall_mem_nil _
  have hstart : IsFlat ((options.trpcOptionsPath.map fun _ => ("trpcOptions" : Text)).getD []) := by
    cases options.trpcOptionsPath
    · exact List.forall_mem_nil _
    · exact (by decide : IsFlat "trpcOptions")
  simp only [bootstrapStatements, List.forall_mem_cons, List.forall_mem_append]
  exact ⟨⟨by decide, hstart⟩, hglobal, ⟨by decide, isFlat_publicMiddlewares options⟩, hshield⟩

theorem isFlat_optionalImport {name : Text} {path? : Option Text} {imports : List Import}
    (hname : name.IsFlat) (h : optionalImport site name path? = .ok imports) :
    ∀ i ∈ imports, ∀ name ∈ i.bound, name.IsFlat := by
  rcases optionalImport_ok h with ⟨-, rfl⟩ | ⟨path, s, -, -, rfl⟩
  · exact List.forall_mem_nil _
  · exact List.forall_mem_singleton.mpr (List.forall_mem_singleton.mpr hname)

theorem flat_bootstrapFile (h : bootstrapFile site options = .ok f)
    (hmodule : ∀ i ∈ f.imports, i.module.IsFlat) : f.Flat := by
  obtain ⟨imports, himports, rfl⟩ := bootstrapFile_ok h
  obtain ⟨context, settings, middleware, -, hs, hm, rfl⟩ := bootstrapImports_ok himports
  refine SourceFile.flat_ofParts hmodule ?_ (flat_bootstrapStatements options)
    (List.cons_ne_nil _ _) (List.cons_ne_nil _ _)
  simp only [List.forall_mem_cons, List.forall_mem_append]
  refine ⟨by decide, ?_, ⟨fun i hi => ?_, isFlat_optionalImport (by decide) hs⟩,
    isFlat_optionalImport (by decide) hm⟩
  · simp only [Import.bound_types]
    decide
  · obtain ⟨-, rfl⟩ := mem_shieldImports.mp hi
    decide

theorem flat_modelFile {model : Text} {operations : List ResolvedOperation}
    (hmodel : model.IsAsciiIdentifier) (hdeclared : ∀ r ∈ operations, r.declared.IsName)
    (h : modelFile site model operations notificationEvents options = .ok f)
    (hmodule : ∀ i ∈ f.imports, i.module.IsFlat) : f.Flat := by
  obtain ⟨emitter, endpoints, -, hendpoints, rfl⟩ := modelFile_ok h
  refine SourceFile.flat_ofParts hmodule ?_ ?_ (List.cons_ne_nil _ _) (List.cons_ne_nil _ _)
  · simp only [modelImports, List.forall_mem_cons, List.forall_mem_append, Import.bound_names,
      Import.bound_types, List.not_mem_nil, IsEmpty.forall_iff, implies_true, and_true]
    refine ⟨⟨by decide, isFlat_baseProcedureName options⟩, fun i hi => ?_, hmodel.isFlat,
      by decide, by decide⟩
    split at hi
    · obtain ⟨o, -, rfl⟩ := mem_schemaImports hi
      exact List.forall_mem_singleton.mpr (isFlat_schemaOf hmodel o)
    · cases hi
  · exact List.forall_mem_singleton.mpr ⟨Naming.isFlat_routerSymbol hmodel,
      flat_modelEndpoints hmodel hdeclared hendpoints, List.forall_mem_nil _⟩

theorem flat_appFile {routers : List ModelRouter}
    (hmodels : ∀ r ∈ routers, r.model.IsAsciiIdentifier) (h : appFile routers = .ok f)
    (hmodule : ∀ i ∈ f.imports, i.module.IsFlat) : f.Flat := by
  obtain ⟨-, rfl⟩ := appFile_ok h
  have hlisted : ∀ model ∈ (routers.filter (·.hasEndpoints)).map (·.model),
      model.IsAsciiIdentifier :=
    List.forall_mem_map.mpr fun r hr => hmodels r (List.mem_of_mem_filter hr)
  refine SourceFile.flat_ofParts hmodule ?_ ?_ (List.cons_ne_nil _ _) (List.cons_ne_nil _ _)
  · refine List.forall_mem_cons.mpr ⟨by decide, List.forall_mem_map.mpr fun model hmodel => ?_⟩
    exact List.forall_mem_singleton.mpr (Naming.isFlat_routerSymbol (hlisted model hmodel))
  · exact List.forall_mem_singleton.mpr ⟨by decide, List.forall_mem_nil _, List.forall_mem_map.mpr
      fun model hmodel => ⟨Naming.isFlat_routerKey (hlisted model hmodel),
        Naming.isFlat_routerSymbol (hlisted model hmodel)⟩⟩

end Router

theorem Policy.flat_policyFile {site : Router.Site} {options : Options} {models : List Text}
    {f : SourceFile} (hmodels : ∀ model ∈ models, model.IsAsciiIdentifier)
    (h : policyFile site (matrix models) options = .ok f)
    (hmodule : ∀ i ∈ f.imports, i.module.IsFlat) : f.Flat := by
  obtain ⟨imports, himports, rfl⟩ := policyFile_ok h
  obtain ⟨context, -, rfl⟩ := policyImports_ok himports
  refine SourceFile.flat_ofParts hmodule ?_ ?_ (List.cons_ne_nil _ _) (List.cons_ne_nil _ _)
  · simp only [List.forall_mem_cons, Import.bound_names, List.not_mem_nil, IsEmpty.forall_iff,
      implies_true, and_true]
    exact ⟨⟨by decide, by decide⟩, by decide⟩
  · exact List.forall_mem_singleton.mpr ⟨by decide, by decide, span_rulesLiteral hmodels⟩

namespace Run

variable {cwd : Path} {outputDir : Text} {d : Document} {options : Options} {p : Parts}

theorem Parts.flat_sources (h : p.Fit ⟨cwd, Path.ofText outputDir⟩ d options)
    (hgiven : Within (Text.isFlat · = true) cwd outputDir options d.visibleTexts)
    (hmodels : ∀ model ∈ d.visibleTexts, model.IsAsciiIdentifier)
    (hdeclared : ∀ m ∈ d.mappings, ∀ q ∈ m.operations, q.2.IsName) :
    ∀ f ∈ p.sources, f.Flat := by
  have hmodule := forall_mem_module h (by decide) hgiven fun model hmodel =>
    (hmodels model hmodel).isFlat
  rw [visibleTexts h] at hmodels
  intro f hf
  have hf' := hmodule f hf
  rcases mem_sources.mp hf with rfl | hf | hf | rfl
  · exact Router.flat_bootstrapFile h.bootstrap hf'
  · obtain ⟨model, hmodel, hfile⟩ := (mem_iff_ok h.routers).mp hf
    exact Router.flat_modelFile (hmodels model hmodel)
      (Document.forall_mem_chosen Json.IsName hdeclared options _) hfile hf'
  · exact Policy.flat_policyFile hmodels ((shield_ok h).2 f hf) hf'
  · refine Router.flat_appFile (fun r hr => ?_) h.app hf'
    obtain ⟨model, hmodel, rfl⟩ := List.mem_map.mp hr
    exact hmodels model hmodel

end Run

/-- Where the models and what is declared for them have identifiers for names, and neither the places
nor the configured paths have brackets or line breaks, every generated file is laid out properly. -/
theorem layout_generate {σ : Type} (sink : Sink σ) (s : σ) (cwd : Path) (d : Document)
    (outputDir : Text) (source : OptionSource) (delegates : Delegates) (g : Generated)
    (hg : (generate sink s cwd d outputDir source delegates).outcome = .ok g)
    (hgiven : Run.Within (Text.isFlat · = true) cwd outputDir g.options d.visibleTexts)
    (hmodels : ∀ model ∈ d.visibleTexts, model.IsAsciiIdentifier)
    (hdeclared : ∀ m ∈ d.mappings, ∀ p ∈ m.operations, p.2.IsName) :
    ∀ f ∈ g.sources, f.IsLaidOut := by
  obtain ⟨options, _, hbuild⟩ := Run.generate_ok _ _ _ _ _ _ _ hg
  obtain ⟨p, hfit, rfl⟩ := Run.build_ok hbuild
  exact fun f hf => (Run.Parts.flat_sources hfit hgiven hmodels hdeclared f hf).isLaidOut

def Run.blog : Document where
  models := [⟨.str "Post", [], .null⟩, ⟨.str "User", [], .null⟩]
  mappings := [⟨.str "Post", [(.findMany, .str "allPosts"), (.updateOne, .null),
    (.upsertOne, .str "")]⟩, ⟨.str "User", [(.aggregate, .null)]⟩]
  generators := [⟨.str "client", .str "prisma-client-js", []⟩]
  schemaPath := .null
  options := []

def Run.furnished : Options :=
  { Options.default with
    middleware := .module "src/middleware.ts"
    trpcOptionsPath := some "../src/options.ts" }

theorem layout_generate_blog :
    ∃ g, (generate MemorySink.sink .empty ⟨.single, ["work"]⟩ Run.blog "out"
        (.checked Run.furnished) .none).outcome = .ok g ∧ g.sources.length = 5 ∧
      ∀ f ∈ g.sources, f.IsLaidOut := by
  have hrun : (generate MemorySink.sink .empty ⟨.single, ["work"]⟩ Run.blog "out"
      (.checked Run.furnished) .none).outcome.map (fun g => (g.options, g.sources.length)) =
      .ok (Run.furnished, 5) := by decide +kernel
  obtain ⟨g, hg, hsummary⟩ := map_eq_ok.mp hrun
  obtain ⟨hoptions, hlength⟩ := Prod.mk.inj hsummary
  have hcwd : ∀ s ∈ (["work"] : List Text), s.IsFlat := by decide
  refine ⟨g, hg, hlength, layout_generate MemorySink.sink .empty ⟨.single, ["work"]⟩ Run.blog "out"
    _ .none g hg ?_ (by decide) (by decide)⟩
  rw [hoptions]
  exact ⟨hcwd, by decide, by decide⟩

end RouterLayer
