import RouterLayer.Proofs.Run.Kinds
import RouterLayer.Proofs.Run.Links

set_option autoImplicit false

namespace RouterLayer

def Options.withActions (options : Options) (actions : List Action) : Options :=
  { options with actions := actions }

def Document.Unnamed (d : Document) : Prop := ∃ m ∈ d.visible, m.name.isText = false

/-- Two runs fail over the same thing. A name that is no text is taken for one at different places
in them. -/
def Document.Matches (d : Document) (e e' : Failure) : Prop :=
  e' = e ∨ d.Unnamed ∧ e.misreads = true ∧ e'.misreads = true

section EndAlike

variable {α β γ δ : Type} {matching : Failure → Failure → Prop}

def EndAlike (matching : Failure → Failure → Prop) : Except Failure α → Except Failure β → Prop
  | .ok _, .ok _ => True
  | .error e, .error e' => matching e e'
  | _, _ => False

namespace EndAlike

variable {x : Except Failure α} {y : Except Failure β}

theorem refl (h : ∀ e, matching e e) (x : Except Failure α) : EndAlike matching x x := by
  cases x with
  | error e => exact h e
  | ok a => trivial

theorem of_isOk (hx : x.isOk = true) (hy : y.isOk = true) : EndAlike matching x y := by
  obtain ⟨a, rfl⟩ := exists_ok hx
  obtain ⟨b, rfl⟩ := exists_ok hy
  trivial

theorem bind {f : α → Except Failure γ} {g : β → Except Failure δ} (h : EndAlike matching x y)
    (hrest : ∀ a b, x = .ok a → y = .ok b → EndAlike matching (f a) (g b)) :
    EndAlike matching (x >>= f) (y >>= g) := by
  cases x with
  | error e =>
    cases y with
    | error e' => exact h
    | ok b => exact h.elim
  | ok a =>
    cases y with
    | error e' => exact h.elim
    | ok b => exact hrest a b rfl rfl

theorem map (f : α → γ) (g : β → δ) (h : EndAlike matching x y) :
    EndAlike matching (x.map f) (y.map g) := by
  cases x <;> cases y <;> exact h

theorem mapM {f : α → Except Failure β} {g : α → Except Failure γ} {xs : List α}
    (h : ∀ x ∈ xs, EndAlike matching (f x) (g x)) :
    EndAlike matching (xs.mapM f) (xs.mapM g) := by
  induction xs with
  | nil => trivial
  | cons x xs ih =>
    obtain ⟨hx, hrest⟩ := List.forall_mem_cons.mp h
    rw [List.mapM_cons, List.mapM_cons]
    exact .bind hx fun _ _ _ _ => .bind (ih hrest) fun _ _ _ _ => trivial

theorem cases (h : EndAlike matching x y) :
    (∃ a b, x = .ok a ∧ y = .ok b) ∨ ∃ e e', x = .error e ∧ y = .error e' ∧ matching e e' := by
  cases x with
  | error e =>
    cases y with
    | error e' => exact .inr ⟨e, e', rfl, rfl, h⟩
    | ok b => exact h.elim
  | ok a =>
    cases y with
    | error e' => exact h.elim
    | ok b => exact .inl ⟨a, b, rfl, rfl⟩

end EndAlike

theorem Document.endAlike_self (d : Document) (x : Except Failure α) : EndAlike d.Matches x x :=
  .refl (fun _ => .inl rfl) x

end EndAlike

section Files

def Endpoint.procedure? : Endpoint → Option Procedure
  | .procedure p => some p
  | .subscription _ => none

def Endpoint.subscription? : Endpoint → Option Subscription
  | .procedure _ => none
  | .subscription s => some s

namespace SourceFile

def procedures (f : SourceFile) : List Procedure := f.endpoints.filterMap (·.procedure?)

def subscriptions (f : SourceFile) : List Subscription := f.endpoints.filterMap (·.subscription?)

/-- The second file has all that the first one has, and may have more procedures. -/
structure WidensTo (f f' : SourceFile) : Prop where
  path : f'.path = f.path
  procedures : f.procedures.Sublist f'.procedures
  subscriptions : f'.subscriptions = f.subscriptions
  imports : f.imports ⊆ f'.imports

end SourceFile

structure Generated.WidensTo (g g' : Generated) : Prop where
  models : g'.routers.map (·.model) = g.routers.map (·.model)
  paths : g'.paths = g.paths
  fixed : ∀ path ∈ (["routers/helpers/createRouter.ts", "routers/index.ts", "shield/shield.ts"] :
    List Text), g'.source? path = g.source? path
  routers : ∀ r ∈ g.routers, ∃ f f', g.source? (Naming.routerPath r.model) = some f ∧
    g'.source? (Naming.routerPath r.model) = some f' ∧ f.WidensTo f'

variable {options : Options} {actions : List Action}

theorem Options.admits_of_subset (h : options.actions ⊆ actions) {o : Operation}
    (ho : options.admits o = true) : (options.withActions actions).admits o = true := by
  obtain ⟨a, ha, hadmits⟩ := List.any_eq_true.mp ho
  exact List.any_eq_true.mpr ⟨a, h ha, hadmits⟩

theorem Document.chosen_sublist (d : Document) (h : options.actions ⊆ actions) (name : Json) :
    (d.chosen options name).Sublist (d.chosen (options.withActions actions) name) :=
  (List.monotone_filter_right _ fun _ => Options.admits_of_subset h).map _

theorem Router.modelImports_subset {model emitter : Text} {operations operations' : List Operation}
    (h : operations ⊆ operations') :
    modelImports model operations options emitter ⊆
      modelImports model operations' options emitter := by
  have hschemas : schemaImports model operations ⊆ schemaImports model operations' := by
    intro i hi
    obtain ⟨o, ho, rfl⟩ := mem_schemaImports hi
    exact mem_schemaImports_iff.mpr ⟨o, h ho, rfl⟩
  unfold modelImports
  intro i
  simp only [List.mem_cons, List.mem_append, List.mem_ite_nil_right]
  exact Or.imp_right (Or.imp_left (And.imp_right fun hi => hschemas hi))

theorem filterMap_endpoints (procedures : List Procedure) (subscriptions : List Subscription) :
    let endpoints := procedures.map Endpoint.procedure ++ subscriptions.map .subscription
    endpoints.filterMap (·.procedure?) = procedures ∧
      endpoints.filterMap (·.subscription?) = subscriptions := by
  have hother : subscriptions.filterMap (fun s => (Endpoint.subscription s).procedure?) = [] ∧
      procedures.filterMap (fun p => (Endpoint.procedure p).subscription?) = [] :=
    ⟨List.filterMap_eq_nil_iff.mpr fun _ _ => rfl, List.filterMap_eq_nil_iff.mpr fun _ _ => rfl⟩
  intro endpoints
  constructor
  · calc endpoints.filterMap (·.procedure?)
      _ = procedures.filterMap some ++ [] := by
        rw [List.filterMap_append, List.filterMap_map, List.filterMap_map, ← hother.1]
        rfl
      _ = procedures := by rw [List.filterMap_some, List.append_nil]
  · calc endpoints.filterMap (·.subscription?)
      _ = [] ++ subscriptions.filterMap some := by
        rw [List.filterMap_append, List.filterMap_map, List.filterMap_map, ← hother.2]
        rfl
      _ = subscriptions := by rw [List.filterMap_some, List.nil_append]

namespace Router

variable {site : Site} {model : Text} {operations : List ResolvedOperation}
  {notifications : List Text} {f : SourceFile}

theorem endpoints_modelFile
    (h : modelFile site model operations notifications options = .ok f) :
    List.Forall₂ (fun r p => procedure model options r = .ok p) operations f.procedures ∧
      f.subscriptions = notifications.map fun event => subscription model event options := by
  obtain ⟨_, endpoints, _, hendpoints, rfl⟩ := modelFile_ok h
  obtain ⟨procedures, hprocedures, rfl⟩ := modelEndpoints_ok hendpoints
  have hnotices : (notifications.map fun event =>
        Endpoint.subscription (subscription model event options)) =
      (notifications.map fun event => subscription model event options).map .subscription :=
    (List.map_map ..).symm
  obtain ⟨hcalls, hnews⟩ := filterMap_endpoints procedures
    (notifications.map fun event => subscription model event options)
  rw [SourceFile.procedures, SourceFile.subscriptions, SourceFile.endpoints, SourceFile.ofParts,
    List.flatMap_singleton, Statement.endpoints, hnotices, hcalls, hnews]
  exact ⟨hprocedures, rfl⟩

theorem widensTo_modelFile {operations' : List ResolvedOperation} {f' : SourceFile}
    (hsub : operations.Sublist operations')
    (h : modelFile site model operations notifications options = .ok f)
    (h' : modelFile site model operations' notifications options = .ok f') : f.WidensTo f' := by
  obtain ⟨hprocedures, hsubscriptions⟩ := endpoints_modelFile h
  obtain ⟨hprocedures', hsubscriptions'⟩ := endpoints_modelFile h'
  refine ⟨?_, sublist_of_walk hsub hprocedures hprocedures', ?_, ?_⟩
  · rw [(declared_modelFile h).1, (declared_modelFile h').1]
  · rw [hsubscriptions, hsubscriptions']
  · obtain ⟨emitter, _, hemitter, _, rfl⟩ := modelFile_ok h
    obtain ⟨emitter', _, hemitter', _, rfl⟩ := modelFile_ok h'
    rw [hemitter] at hemitter'
    cases hemitter'
    intro i
    rw [SourceFile.mem_imports_ofParts, SourceFile.mem_imports_ofParts]
    exact fun hi => modelImports_subset (hsub.map _).subset hi

end Router

end Files

namespace Run

variable {site : Router.Site} {d : Document} {options : Options} {actions : List Action}

/-- Each router has endpoints, whatever the allow-list is, so the application router joins all. -/
theorem appFile_routerOf (d : Document) (options options' : Options) (models : List Text) :
    Router.appFile (models.map (d.routerOf options)) =
      Router.appFile (models.map (d.routerOf options')) := by
  unfold Router.appFile
  rw [d.filter_routerOf, d.filter_routerOf]

section Ending

variable (hd : ∀ m ∈ d.mappings, ∀ p ∈ m.operations, p.2.isOptionalText = true)
include hd

theorem endAlike_buildNamed {name : Json} (hname : name.isText = false → d.Unnamed) :
    EndAlike d.Matches (buildNamed site d options name)
      (buildNamed site d (options.withActions actions) name) := by
  have hemitter : EndAlike d.Matches
      (Router.configuredSpecifier site Naming.routersDir options.emitterPath)
      (Router.configuredSpecifier site Naming.routersDir
        (options.withActions actions).emitterPath) := d.endAlike_self _
  have hendpoints (options : Options) (model : Text) : (Router.modelEndpoints model
      (d.chosen options (.str model)) notificationEvents options).isOk = true :=
    Router.isOk_modelEndpoints model (Document.isOptionalText_chosen hd options (.str model))
  refine .map _ _ ?_
  cases name with
  | str model =>
    exact .bind (.bind hemitter fun _ _ _ _ => .bind (.of_isOk (hendpoints _ model)
      (hendpoints _ model)) fun _ _ _ _ => trivial) fun _ _ _ _ => trivial
  | _ =>
    exact .bind hemitter fun _ _ _ _ => .inr ⟨hname rfl, Router.misreads_unnamedFailure _ _,
      Router.misreads_unnamedFailure _ _⟩

theorem endAlike_build : EndAlike d.Matches (build site d options).outcome
    (build site d (options.withActions actions)).outcome := by
  have hbootstrap : Router.bootstrapFile site (options.withActions actions) =
      Router.bootstrapFile site options := rfl
  have hpolicy (models : List Text) : buildPolicy site (options.withActions actions) models =
      buildPolicy site options models := rfl
  rw [outcome_build, outcome_build]
  refine .bind (d.endAlike_self _) fun _ _ _ _ => ?_
  unfold assemble
  rw [hbootstrap]
  refine .bind (d.endAlike_self _) fun _ _ _ _ => .bind (.mapM fun name hname => ?_)
    fun built built' hbuilt hbuilt' => ?_
  · refine endAlike_buildNamed hd fun hother => ?_
    obtain ⟨m, hm, rfl⟩ := List.mem_map.mp hname
    exact ⟨m, hm, hother⟩
  · obtain ⟨hnames, hrouters, _⟩ := mapM_buildNamed_ok hbuilt
    obtain ⟨hnames', hrouters', _⟩ := mapM_buildNamed_ok hbuilt'
    have hmodels : built'.map (·.1.model) = built.map (·.1.model) :=
      Json.map_str_injective (hnames'.symm.trans hnames)
    have hcut (built : List (ModelRouter × SourceFile)) :
        (built.map (·.1)).map (·.model) = built.map (·.1.model) := List.map_map ..
    rw [hcut, hcut, hmodels, hpolicy, hrouters, hrouters', hmodels,
      appFile_routerOf d (options.withActions actions) options]
    exact .bind (d.endAlike_self _) fun _ _ _ _ => .bind (d.endAlike_self _) fun _ _ _ _ => trivial

end Ending

namespace Parts

variable {p p' : Parts}

theorem source?_generated (h : p.Fit site d options) {path : Text}
    (hpath : Naming.routerEnding.isSuffixOf path = false) :
    (p.generated d options).source? path =
      (p.bootstrap :: (p.shield.toList ++ [p.app])).find? (·.path = path) := by
  have hnone : p.routers.find? (·.path = path) = none := by
    refine List.find?_eq_none.mpr fun f hf => ?_
    obtain ⟨model, _, hbuilt⟩ := (mem_iff_ok h.routers).mp hf
    rw [(Router.declared_modelFile hbuilt).1, decide_eq_true_eq]
    exact Naming.routerPath_ne hpath model
  unfold Generated.source? generated sources
  rw [List.find?_cons, List.find?_cons, List.find?_append, List.find?_append, List.find?_append,
    hnone, Option.none_or]

theorem widensTo_generated (hsub : options.actions ⊆ actions) (h : p.Fit site d options)
    (h' : p'.Fit site d (options.withActions actions)) :
    (p.generated d options).WidensTo (p'.generated d (options.withActions actions)) := by
  have hmodels : p'.models = p.models :=
    Json.map_str_injective (h'.models.symm.trans h.models)
  have hbootstrap : p'.bootstrap = p.bootstrap :=
    Except.ok.inj (h'.bootstrap.symm.trans h.bootstrap)
  have hshield : p'.shield = p.shield := by
    have hshield' := h'.shield
    rw [hmodels] at hshield'
    exact Except.ok.inj (hshield'.symm.trans h.shield)
  have happ : p'.app = p.app := by
    have happ' := h'.app
    rw [hmodels, appFile_routerOf d _ options] at happ'
    exact Except.ok.inj (happ'.symm.trans h.app)
  have hpaths : (p.generated d options).paths.Nodup := nodup_paths h
  have hpaths' : (p'.generated d (options.withActions actions)).paths.Nodup := nodup_paths h'
  refine ⟨?_, ?_, fun path hpath => ?_, fun r hr => ?_⟩
  · rw [generated, generated, d.models_routerOf, d.models_routerOf, hmodels]
  · rw [Generated.paths, Generated.paths, generated, generated, paths_sources h, paths_sources h',
      hmodels]
    rfl
  · have hending : Naming.routerEnding.isSuffixOf path = false := by
      have hall : ∀ path ∈ (["routers/helpers/createRouter.ts", "routers/index.ts",
          "shield/shield.ts"] : List Text), Naming.routerEnding.isSuffixOf path = false := by decide
      exact hall path hpath
    rw [source?_generated h hending, source?_generated h' hending, hbootstrap, hshield, happ]
  · obtain ⟨model, hmodel, rfl⟩ := List.mem_map.mp hr
    obtain ⟨f, hf, hbuilt⟩ := ok_of_mem h.routers hmodel
    obtain ⟨f', hf', hbuilt'⟩ := ok_of_mem h'.routers (hmodels ▸ hmodel)
    refine ⟨f, f', ?_, ?_, Router.widensTo_modelFile (d.chosen_sublist hsub _) hbuilt hbuilt'⟩
    · exact (Generated.source?_eq_some hpaths).mpr
        ⟨mem_sources.mpr (.inr (.inl hf)), (Router.declared_modelFile hbuilt).1⟩
    · exact (Generated.source?_eq_some hpaths').mpr
        ⟨mem_sources.mpr (.inr (.inl hf')), (Router.declared_modelFile hbuilt').1⟩

end Parts

end Run

section Same

variable {σ : Type} {options : Options} {actions : List Action}

def RunContext.withActions (context : RunContext) (actions : List Action) : RunContext :=
  { context with options := context.options.withActions actions }

def Call.withActions (c : Call σ) (actions : List Action) : Call σ :=
  { c with context := c.context.withActions actions }

def Run.Delegated.withActions (x : Run.Delegated σ) (actions : List Action) : Run.Delegated σ :=
  { x with calls := x.calls.map (·.withActions actions) }

def Generated.withActions (g : Generated) (actions : List Action) : Generated :=
  { g with options := g.options.withActions actions }

def Report.withActions (r : Report σ) (actions : List Action) : Report σ :=
  { r with
    outcome := r.outcome.map (·.withActions actions)
    calls := r.calls.map (·.withActions actions) }

def Delegates.IgnoreActions (delegates : Delegates) : Prop :=
  ∀ delegate, delegates.validation = some delegate ∨ delegates.policy = some delegate →
    ∀ (context : RunContext) (actions : List Action),
      delegate.run (context.withActions actions) = delegate.run context

theorem Delegates.ignoreActions_none : Delegates.none.IgnoreActions := by
  rintro _ (h | h)
  · cases h
  · cases h

def Logged.onResult {α β : Type} (f : α → β) (x : Logged α) : Logged β :=
  ⟨x.records, x.outcome.map f⟩

theorem Logged.onResult_bind {α β γ : Type} (f : β → γ) (x : Logged α) (k : α → Logged β) :
    (x >>= k).onResult f = x >>= fun a => (k a).onResult f := by
  obtain ⟨records, outcome⟩ := x
  cases outcome <;> rfl

theorem Options.admits_congr (h : ∀ a, a ∈ options.actions ↔ a ∈ actions) (o : Operation) :
    (options.withActions actions).admits o = options.admits o := by
  rw [Bool.eq_iff_iff]
  unfold admits
  simp only [List.any_eq_true, withActions, h]

namespace Run

theorem buildModel_withActions (site : Router.Site) (d : Document)
    (h : ∀ a, a ∈ options.actions ↔ a ∈ actions) :
    buildModel site d (options.withActions actions) = buildModel site d options := by
  have hallowed (o : Operation) : o.isAllowed (options.withActions actions).actionNames =
      o.isAllowed options.actionNames := by
    rw [isAllowed_actionNames, isAllowed_actionNames, Options.admits_congr h]
  have hresolve (m : OperationMapping) :
      m.resolve (options.withActions actions).actionNames = m.resolve options.actionNames := by
    simp only [OperationMapping.resolve, hallowed]
  have hrefusals (m : OperationMapping) :
      m.refusals (options.withActions actions).actionNames = m.refusals options.actionNames := by
    simp only [OperationMapping.refusals, hallowed]
  funext m
  unfold buildModel
  dsimp only
  rw [hresolve, hrefusals]
  rfl

theorem build_withActions (site : Router.Site) (d : Document)
    (h : ∀ a, a ∈ options.actions ↔ a ∈ actions) :
    build site d (options.withActions actions) =
      (build site d options).onResult (·.withActions actions) := by
  unfold build
  rw [buildModel_withActions site d h]
  simp only [Logged.onResult_bind]
  rfl

section Delegates

variable {delegates : Delegates} (hdelegates : delegates.IgnoreActions) (site : Router.Site)
  (context : RunContext) (s : σ)

theorem callDelegate_withActions {delegate : Option Delegate}
    (h : ∀ given, delegate = some given → given.run (context.withActions actions) =
      given.run context) (role : Delegate.Role) (announcement warning : Text) :
    callDelegate role delegate announcement warning (context.withActions actions) s =
      (callDelegate role delegate announcement warning context s).withActions actions := by
  cases delegate with
  | none => rfl
  | some given =>
    unfold callDelegate
    dsimp only
    rw [h given rfl]
    rfl

include hdelegates

theorem callDelegates_withActions :
    callDelegates site delegates (context.withActions actions) s =
      (callDelegates site delegates context s).withActions actions := by
  have hvalidation : callValidation delegates (context.withActions actions) s =
      (callValidation delegates context s).withActions actions := by
    have hzod : (context.withActions actions).options.withZod = context.options.withZod := rfl
    unfold callValidation
    rw [hzod]
    split
    · exact callDelegate_withActions context s
        (fun given hgiven => hdelegates given (.inl hgiven) context actions) ..
    · rfl
  have hpolicy : callPolicyStarter site delegates (context.withActions actions) s =
      (callPolicyStarter site delegates context s).withActions actions := by
    have hshield : (context.withActions actions).options.withShield =
        context.options.withShield := rfl
    unfold callPolicyStarter
    rw [hshield]
    split
    · exact callDelegate_withActions (forPolicyStarter site context) s
        (fun given hgiven => hdelegates given (.inr hgiven) _ actions) ..
    · rfl
  unfold callDelegates
  dsimp only
  rw [hvalidation, hpolicy]
  generalize callValidation delegates context s = first
  generalize callPolicyStarter site delegates context s = second
  obtain ⟨records, calls, outcome⟩ := first
  cases outcome with
  | error e => rfl
  | ok _ =>
    simp only [Delegated.withActions, List.map_append]

theorem outcome_callDelegates_withActions :
    (callDelegates site delegates (context.withActions actions) s).outcome =
      (callDelegates site delegates context s).outcome := by
  rw [callDelegates_withActions hdelegates]
  rfl

theorem perform_withActions (sink : Sink σ) (d : Document)
    (h : ∀ a, a ∈ options.actions ↔ a ∈ actions) :
    perform sink s site d (options.withActions actions) delegates =
      (perform sink s site d options delegates).withActions actions := by
  unfold perform
  dsimp only
  cases (sink.reset s).outcome with
  | error e => rfl
  | ok _ =>
    have hcontext : (⟨d, options.withActions actions, site.output.text, none⟩ : RunContext) =
        RunContext.withActions ⟨d, options, site.output.text, none⟩ actions := rfl
    dsimp only
    rw [hcontext, callDelegates_withActions hdelegates, build_withActions site d h]
    generalize callDelegates site delegates _ (sink.reset s).state = delegated
    generalize build site d options = built
    obtain ⟨records, calls, outcome⟩ := delegated
    obtain ⟨written, result⟩ := built
    cases outcome with
    | error e => rfl
    | ok _ =>
      cases result with
      | error e => rfl
      | ok g =>
        -- the files do not depend on which options a result carries
        have hfiles : (g.withActions actions).files = g.files := rfl
        simp only [Delegated.withActions, Logged.onResult, Except.map, hfiles]
        cases (deliver sink (sink.reset s).state g.files).outcome <;> rfl

theorem generate_withActions (sink : Sink σ) (cwd : Path) (d : Document) (outputDir : Text)
    {source source' : OptionSource} (ho : source.resolve d = .ok options)
    (ho' : source'.resolve d = .ok (options.withActions actions))
    (h : ∀ a, a ∈ options.actions ↔ a ∈ actions) :
    generate sink s cwd d outputDir source' delegates =
      (generate sink s cwd d outputDir source delegates).withActions actions := by
  unfold generate
  rw [ho, ho']
  dsimp only
  cases d.clientGenerator with
  | error e => rfl
  | ok client =>
    dsimp only
    rw [perform_withActions hdelegates ⟨cwd, Path.ofText outputDir⟩ s sink d h]
    rfl

end Delegates

end Run

end Same

/-- The runs of two allow-lists. If the second list has all members of the first one, both runs end
in the same way, but for the failure over a name that is no text, and the second generates all that
the first one does. If each list has all members of the other, the runs are the same. -/
theorem widens_generate (s : MemorySink) (cwd : Path) (d : Document) (outputDir : Text)
    (source source' : OptionSource) (options : Options) (actions : List Action)
    (delegates : Delegates) (ho : source.resolve d = .ok options)
    (ho' : source'.resolve d = .ok (options.withActions actions))
    (hdelegates : delegates.IgnoreActions) :
    let r := generate MemorySink.sink s cwd d outputDir source delegates
    let r' := generate MemorySink.sink s cwd d outputDir source' delegates
    ((∀ m ∈ d.mappings, ∀ p ∈ m.operations, p.2.isOptionalText = true) →
      options.actions ⊆ actions →
      (∃ g g', r.outcome = .ok g ∧ r'.outcome = .ok g' ∧
        d.visible.map (·.name) = g.routers.map (fun router => .str router.model) ∧
        g.WidensTo g') ∨
      ∃ e e', r.outcome = .error e ∧ r'.outcome = .error e' ∧ d.Matches e e') ∧
    ((∀ a, a ∈ options.actions ↔ a ∈ actions) → r' = r.withActions actions) := by
  intro r r'
  refine ⟨fun hd hsub => ?_, Run.generate_withActions hdelegates s _ cwd d outputDir ho ho'⟩
  have hvet : EndAlike d.Matches (Run.vet source d) (Run.vet source' d) := by
    unfold Run.vet
    rw [ho, ho']
    exact .bind (.of_isOk rfl rfl) fun _ _ _ _ => .bind (d.endAlike_self _) fun _ _ _ _ => trivial
  have hdelegated : (Run.callDelegates ⟨cwd, Path.ofText outputDir⟩ delegates
        ⟨d, options.withActions actions, (Path.ofText outputDir).text, none⟩ s.reset).outcome =
      (Run.callDelegates ⟨cwd, Path.ofText outputDir⟩ delegates
        ⟨d, options, (Path.ofText outputDir).text, none⟩ s.reset).outcome :=
    Run.outcome_callDelegates_withActions hdelegates _ ⟨d, options, _, none⟩ s.reset
  have hends : EndAlike d.Matches r.outcome r'.outcome := by
    change EndAlike d.Matches
      (generate MemorySink.sink s cwd d outputDir source delegates).outcome
      (generate MemorySink.sink s cwd d outputDir source' delegates).outcome
    rw [Run.outcome_generate_memory, Run.outcome_generate_memory]
    refine .bind hvet fun resolved resolved' hresolved hresolved' => ?_
    have hoptions := (Run.resolve_of_vet hresolved).symm.trans ho
    have hoptions' := (Run.resolve_of_vet hresolved').symm.trans ho'
    cases hoptions
    cases hoptions'
    rw [hdelegated]
    exact .bind (d.endAlike_self _) fun _ _ _ _ => Run.endAlike_build hd
  rcases hends.cases with ⟨g, g', hg, hg'⟩ | ⟨e, e', he, he', hmatches⟩
  · obtain ⟨p, hfit, rfl⟩ := Run.generate_fit ho hg
    obtain ⟨p', hfit', rfl⟩ := Run.generate_fit ho' hg'
    refine .inl ⟨_, _, hg, hg', ?_, Run.Parts.widensTo_generated hsub hfit hfit'⟩
    rw [hfit.models, Run.Parts.generated, List.map_map]
    rfl
  · exact .inr ⟨e, e', he, he', hmatches⟩

namespace Run

def retried : Document where
  models := [⟨.str "User", [], .null⟩]
  mappings := [⟨.str "User", [(.findUnique, .str "findUniqueUser"), (.findMany, .null),
    (.findUniqueOrThrow, .str "findUniqueUserOrThrow")]⟩]
  generators := [⟨.str "client", .str "prisma-client-js", []⟩]
  schemaPath := .null
  options := []

def asking (actions : List Action) : OptionSource :=
  .checked (Options.default.withActions actions)

end Run

theorem widens_generate_retried :
    let report := fun actions => generate MemorySink.sink .empty ⟨.single, ["work"]⟩ Run.retried
      "out" (Run.asking actions) .none
    (∃ g g', (report [.findUniqueOrThrow, .findMany]).outcome = .ok g ∧
      (report [.findMany, .findUnique, .findUniqueOrThrow]).outcome = .ok g' ∧ g.WidensTo g' ∧
      (g.sources.flatMap (·.procedures)).length = 2 ∧
      (g'.sources.flatMap (·.procedures)).length = 3) ∧
    report [.findMany, .findUniqueOrThrow, .findMany] =
      (report [.findUniqueOrThrow, .findMany]).withActions
        [.findMany, .findUniqueOrThrow, .findMany] := by
  intro report
  have hrun : (report [.findUniqueOrThrow, .findMany]).outcome.map
      (fun g => (g.sources.flatMap (·.procedures)).length) = .ok 2 := by decide +kernel
  have hrun' : (report [.findMany, .findUnique, .findUniqueOrThrow]).outcome.map
      (fun g => (g.sources.flatMap (·.procedures)).length) = .ok 3 := by decide +kernel
  constructor
  · obtain ⟨g, hg, hcount⟩ := map_eq_ok.mp hrun
    obtain ⟨g', hg', hcount'⟩ := map_eq_ok.mp hrun'
    have hwidens := (widens_generate .empty ⟨.single, ["work"]⟩ Run.retried "out"
      (Run.asking [.findUniqueOrThrow, .findMany])
      (Run.asking [.findMany, .findUnique, .findUniqueOrThrow])
      (Options.default.withActions [.findUniqueOrThrow, .findMany])
      [.findMany, .findUnique, .findUniqueOrThrow] .none rfl rfl
      Delegates.ignoreActions_none).1 (by decide) (by decide)
    rcases hwidens with ⟨_, _, h, h', _, hfiles⟩ | ⟨_, _, h, _⟩
    · cases hg.symm.trans h
      cases hg'.symm.trans h'
      exact ⟨g, g', hg, hg', hfiles, hcount, hcount'⟩
    · cases hg.symm.trans h
  · exact (widens_generate .empty ⟨.single, ["work"]⟩ Run.retried "out"
      (Run.asking [.findUniqueOrThrow, .findMany])
      (Run.asking [.findMany, .findUniqueOrThrow, .findMany])
      (Options.default.withActions [.findUniqueOrThrow, .findMany])
      [.findMany, .findUniqueOrThrow, .findMany] .none rfl rfl Delegates.ignoreActions_none).2
      (fun a => by cases a <;> decide)

def Run.numbered : Document where
  models := [⟨.int 5, [], .null⟩]
  mappings := [⟨.int 5, [(.findMany, .null)]⟩]
  generators := [⟨.str "client", .str "prisma-client-js", []⟩]
  schemaPath := .null
  options := []

/-- If something is to be generated for the number, the run stops at another place. -/
theorem not_widens_generate :
    let outcome := fun actions => (generate MemorySink.sink .empty ⟨.single, ["work"]⟩ Run.numbered
      "out" (Run.asking actions) .none).outcome
    (∀ m ∈ Run.numbered.mappings, ∀ p ∈ m.operations, p.2.isOptionalText = true) ∧
      ([] : List Action) ⊆ [.findMany] ∧
      outcome [] = .error .notText ∧ outcome [.findMany] = .error .wrongKind := by
  refine ⟨by decide, List.nil_subset _, ?_, ?_⟩
  · decide +kernel
  · decide +kernel

end RouterLayer
