import RouterLayer.Proofs.Router.Files
import RouterLayer.Proofs.Visibility
import RouterLayer.Run

set_option autoImplicit false

namespace RouterLayer

theorem Json.map_str_injective : Function.Injective (List.map Json.str) :=
  List.map_injective_iff.mpr fun _ _ => Json.str.inj

def Document.routerOf (d : Document) (options : Options) (model : Text) : ModelRouter :=
  ⟨model, d.chosen options (.str model), notificationEvents⟩

namespace Run

def vet (source : OptionSource) (d : Document) : Except Failure Options := do
  let options ← source.resolve d
  let _ ← d.clientGenerator
  return options

section

variable {σ : Type} (sink : Sink σ) (s : σ) (cwd : Path) (d : Document) (outputDir : Text)
  (source : OptionSource) (delegates : Delegates)

theorem outcome_perform (site : Router.Site) (options : Options) :
    (perform sink s site d options delegates).outcome = do
      (sink.reset s).outcome
      (callDelegates site delegates ⟨d, options, site.output.text, none⟩
        (sink.reset s).state).outcome
      let g ← (build site d options).outcome
      (deliver sink (sink.reset s).state g.files).outcome
      return g := by
  unfold perform
  dsimp only
  cases (sink.reset s).outcome with
  | error e => rfl
  | ok _ =>
    dsimp only
    generalize callDelegates site delegates _ (sink.reset s).state = delegated
    cases delegated.outcome with
    | error e => rfl
    | ok _ =>
      dsimp only
      cases (build site d options).outcome with
      | error e => rfl
      | ok g =>
        dsimp only
        cases hd : (deliver sink (sink.reset s).state g.files).outcome with
        | error e => simp [bind, Except.bind, hd]
        | ok _ => simp [bind, Except.bind, hd, pure, Except.pure]

theorem outcome_generate :
    (generate sink s cwd d outputDir source delegates).outcome =
      vet source d >>= fun options =>
        (perform sink s ⟨cwd, Path.ofText outputDir⟩ d options delegates).outcome := by
  unfold generate vet
  cases source.resolve d with
  | error e => rfl
  | ok options => cases d.clientGenerator <;> rfl

theorem generate_ok {g : Generated}
    (h : (generate sink s cwd d outputDir source delegates).outcome = .ok g) :
    ∃ options, vet source d = .ok options ∧
      (build ⟨cwd, Path.ofText outputDir⟩ d options).outcome = .ok g := by
  rw [outcome_generate] at h
  obtain ⟨options, hvet, h⟩ := bind_eq_ok.mp h
  rw [outcome_perform] at h
  obtain ⟨_, _, h⟩ := bind_eq_ok.mp h
  obtain ⟨_, _, h⟩ := bind_eq_ok.mp h
  obtain ⟨generated, hbuild, h⟩ := bind_eq_ok.mp h
  obtain ⟨_, _, h⟩ := bind_eq_ok.mp h
  cases h
  exact ⟨options, hvet, hbuild⟩

end

theorem resolve_of_vet {source : OptionSource} {d : Document} {options : Options}
    (h : vet source d = .ok options) : source.resolve d = .ok options := by
  obtain ⟨resolved, hresolve, h⟩ := bind_eq_ok.mp h
  obtain ⟨_, _, h⟩ := bind_eq_ok.mp h
  cases h
  exact hresolve

section

variable (site : Router.Site) (d : Document) (options : Options)

def buildNamed (name : Json) : Except Failure (ModelRouter × SourceFile) :=
  (Router.fileOf site name (d.chosen options name) notificationEvents options).map fun b =>
    (⟨b.1, d.chosen options name, notificationEvents⟩, b.2)

theorem outcome_buildModel (m : Model) :
    (buildModel site d options m).outcome = buildNamed site d options m.name := by
  unfold buildModel buildNamed
  simp only [resolve_mappingFor]

theorem outcome_buildPolicy (models : List Text) :
    (buildPolicy site options models).outcome =
      if options.withShield then
        (Policy.policyFile site (Policy.matrix models) options).map fun f =>
          some (Policy.matrix models, f)
      else .ok none := by
  unfold buildPolicy
  split
  · rw [Logged.outcome_bind, Logged.outcome_ofExcept]
    cases Policy.policyFile site (Policy.matrix models) options <;> rfl
  · rfl

/-- The end of a run, once it is known which names are visible and how each of them is built. -/
def assemble (builder : Json → Except Failure (ModelRouter × SourceFile))
    (hidden names : List Json) : Except Failure Generated := do
  let bootstrap ← Router.bootstrapFile site options
  let built ← names.mapM builder
  let policy ← (buildPolicy site options ((built.map (·.1)).map (·.model))).outcome
  let app ← Router.appFile (built.map (·.1))
  return {
    options := options
    sources := bootstrap :: (built.map (·.2) ++ (policy.map (·.2)).toList ++ [app])
    routers := built.map (·.1)
    hidden := hidden
    permissions := policy.map (·.1) }

/-- Of the models, only the names of the visible ones and what is declared for these names have a
part in what is built. -/
theorem outcome_build :
    (build site d options).outcome = d.models.mapM Model.isHidden >>= fun _ =>
      assemble site options (buildNamed site d options)
        ((d.models.filter (·.hides)).map (·.name)) (d.visible.map (·.name)) := by
  simp only [build, assemble, Logged.outcome_seq, Logged.outcome_ofExcept, Logged.outcome_forList,
    Logged.outcome_pure', Visibility.outcome_ofModels, outcome_buildModel, List.mapM_map]
  cases d.models.mapM Model.isHidden <;> rfl

end

structure Parts where
  models : List Text
  bootstrap : SourceFile
  routers : List SourceFile
  shield : Option SourceFile
  app : SourceFile

namespace Parts

def sources (p : Parts) : List SourceFile :=
  p.bootstrap :: (p.routers ++ p.shield.toList ++ [p.app])

theorem mem_sources {p : Parts} {f : SourceFile} : f ∈ p.sources ↔
    f = p.bootstrap ∨ f ∈ p.routers ∨ p.shield = some f ∨ f = p.app := by
  simp [sources]

def generated (p : Parts) (d : Document) (options : Options) : Generated where
  options := options
  sources := p.sources
  routers := p.models.map (d.routerOf options)
  hidden := (d.models.filter (·.hides)).map (·.name)
  permissions := if options.withShield then some (Policy.matrix p.models) else none

structure Fit (site : Router.Site) (d : Document) (options : Options) (p : Parts) : Prop where
  models : d.visible.map (·.name) = p.models.map Json.str
  bootstrap : Router.bootstrapFile site options = .ok p.bootstrap
  routers : List.Forall₂ (fun model f =>
    Router.modelFile site model (d.chosen options (.str model)) notificationEvents options = .ok f)
      p.models p.routers
  shield : (if options.withShield then
    (Policy.policyFile site (Policy.matrix p.models) options).map some else .ok none) = .ok p.shield
  app : Router.appFile (p.models.map (d.routerOf options)) = .ok p.app

theorem shield_ok {site : Router.Site} {d : Document} {options : Options} {p : Parts}
    (h : p.Fit site d options) :
    (options.withShield = true → ∃ f, p.shield = some f) ∧
      ∀ f, p.shield = some f →
        Policy.policyFile site (Policy.matrix p.models) options = .ok f := by
  have hshield := h.shield
  split at hshield
  · obtain ⟨f, hf, hsome⟩ := map_eq_ok.mp hshield
    rw [← hsome]
    refine ⟨fun _ => ⟨f, rfl⟩, fun g hg => ?_⟩
    cases hg
    exact hf
  · next hoff =>
    rw [← Except.ok.inj hshield]
    exact ⟨fun hon => absurd hon hoff, fun _ hsome => nomatch hsome⟩

end Parts

section

variable {site : Router.Site} {d : Document} {options : Options}

theorem buildNamed_ok {name : Json} {b : ModelRouter × SourceFile}
    (h : buildNamed site d options name = .ok b) :
    name = .str b.1.model ∧ b.1 = d.routerOf options b.1.model ∧
      Router.modelFile site b.1.model (d.chosen options (.str b.1.model)) notificationEvents
        options = .ok b.2 := by
  obtain ⟨⟨model, file⟩, hf, rfl⟩ := map_eq_ok.mp h
  cases name with
  | str given =>
    obtain ⟨built, hbuilt, hf⟩ := bind_eq_ok.mp hf
    cases hf
    exact ⟨rfl, rfl, hbuilt⟩
  | _ =>
    obtain ⟨_, _, hf⟩ := bind_eq_ok.mp hf
    cases hf

theorem mapM_buildNamed_ok {names : List Json} {built : List (ModelRouter × SourceFile)}
    (h : names.mapM (buildNamed site d options) = .ok built) :
    names = (built.map (·.1.model)).map Json.str ∧
      built.map (·.1) = (built.map (·.1.model)).map (d.routerOf options) ∧
      List.Forall₂ (fun model f =>
        Router.modelFile site model (d.chosen options (.str model)) notificationEvents options =
          .ok f) (built.map (·.1.model)) (built.map (·.2)) := by
  replace h := mapM_eq_ok.mp h
  induction h with
  | nil => exact ⟨rfl, rfl, .nil⟩
  | cons hb _ ih =>
    obtain ⟨hname, hrouter, hfile⟩ := buildNamed_ok hb
    obtain ⟨hnames, hrouters, hfiles⟩ := ih
    exact ⟨congrArg₂ List.cons hname hnames, congrArg₂ List.cons hrouter hrouters,
      .cons hfile hfiles⟩

theorem build_ok {g : Generated} (h : (build site d options).outcome = .ok g) :
    ∃ p : Parts, p.Fit site d options ∧ g = p.generated d options := by
  rw [outcome_build] at h
  obtain ⟨_, _, h⟩ := bind_eq_ok.mp h
  obtain ⟨bootstrap, hbootstrap, h⟩ := bind_eq_ok.mp h
  obtain ⟨built, hbuilt, h⟩ := bind_eq_ok.mp h
  obtain ⟨policy, hpolicy, h⟩ := bind_eq_ok.mp h
  obtain ⟨app, happ, h⟩ := bind_eq_ok.mp h
  cases h
  obtain ⟨hmodels, hrouters, hfiles⟩ := mapM_buildNamed_ok hbuilt
  have hcut : (built.map (·.1)).map (·.model) = built.map (·.1.model) := List.map_map ..
  rw [outcome_buildPolicy, hcut] at hpolicy
  refine ⟨⟨built.map (·.1.model), bootstrap, built.map (·.2), policy.map (·.2), app⟩,
    ⟨hmodels, hbootstrap, hfiles, ?_, hrouters ▸ happ⟩, ?_⟩
  · split at hpolicy
    · next hshield =>
      obtain ⟨file, hfile, rfl⟩ := map_eq_ok.mp hpolicy
      simp only [hshield, if_true, hfile]
      rfl
    · next hshield => cases hpolicy; simp only [hshield]; rfl
  · unfold Parts.generated
    rw [← hrouters]
    split at hpolicy
    · next hshield =>
      obtain ⟨file, _, rfl⟩ := map_eq_ok.mp hpolicy
      simp only [hshield, if_true]
      rfl
    · next hshield => cases hpolicy; simp only [hshield]; rfl

/-- A run that returns consists of parts that fit the options that were resolved for it. -/
theorem generate_fit {σ : Type} {sink : Sink σ} {s : σ} {cwd : Path} {outputDir : Text}
    {source : OptionSource} {delegates : Delegates} {g : Generated}
    (ho : source.resolve d = .ok options)
    (hg : (generate sink s cwd d outputDir source delegates).outcome = .ok g) :
    ∃ p : Parts, p.Fit ⟨cwd, Path.ofText outputDir⟩ d options ∧ g = p.generated d options := by
  obtain ⟨resolved, hvet, hbuild⟩ := generate_ok sink s cwd d outputDir source delegates hg
  have hr := resolve_of_vet hvet
  rw [ho] at hr
  cases hr
  exact build_ok hbuild

end

end Run

end RouterLayer
