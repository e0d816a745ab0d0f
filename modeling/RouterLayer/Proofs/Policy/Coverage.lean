import RouterLayer.Proofs.Policy.Rules
import RouterLayer.Proofs.Router.Keys
import RouterLayer.Proofs.Run.Outline

/-!
Which of the generated endpoints the default permissions cover. The tables of the permissions have
fewer operations than the client, so an endpoint of another operation has a rule only by accident,
when a second model has the right name (`covers_generate`).
-/

set_option autoImplicit false

namespace RouterLayer

/-- The category of a procedure has a rule under the procedure's key. -/
def PermissionMatrix.Covers (m : PermissionMatrix) (q : Procedure) : Prop :=
  ∃ key ∈ (m.bucket q.category).keys, q.key = .str key

instance (m : PermissionMatrix) (q : Procedure) : Decidable (m.Covers q) :=
  inferInstanceAs (Decidable (∃ key ∈ (m.bucket q.category).keys, q.key = .str key))

/-- All names that are declared for texts are those of the client. -/
def Document.Conventional (d : Document) : Prop :=
  ∀ m ∈ d.mappings, ∀ model, m.model = .str model →
    ∀ p ∈ m.operations, p.2 = .str (p.1.conventionalName model)

theorem Policy.covers_matrix {models : List Text} {q : Procedure} {o : Operation} {model : Text}
    (hkey : q.key = .str (o.conventionalName model)) (hcategory : q.category = o.category) :
    (matrix models).Covers q ↔ ∃ other ∈ models, o.ruleModel model = some other := by
  unfold PermissionMatrix.Covers
  rw [hkey, hcategory]
  constructor
  · rintro ⟨key, hkey, h⟩
    cases h
    obtain ⟨other, hother, op, hop, h⟩ := mem_keys_matrix.mp hkey
    exact ⟨other, hother, Operation.ruled_conventionalName.mp ⟨op, hop, h⟩⟩
  · rintro ⟨other, hother, h⟩
    obtain ⟨op, hop, h⟩ := Operation.ruled_conventionalName.mpr h
    exact ⟨_, mem_keys_matrix.mpr ⟨other, hother, op, hop, h⟩, rfl⟩

theorem Document.declared_of_conventional {d : Document} (h : d.Conventional) {model : Text}
    {p : Operation × Json} (hp : p ∈ d.declared (.str model)) :
    p.2 = .str (p.1.conventionalName model) := by
  unfold declared mappingFor at hp
  cases hfind : d.mappings.find? fun m => (Json.str model).finds m.model with
  | none =>
    rw [hfind] at hp
    cases hp
  | some m =>
    rw [hfind] at hp
    have hm := List.find?_some hfind
    rw [Json.finds_str, decide_eq_true_iff] at hm
    exact h m (List.mem_of_find?_eq_some hfind) model hm p hp

theorem Document.chosen_of_conventional {d : Document} (h : d.Conventional) {options : Options}
    {model : Text} {r : ResolvedOperation} (hr : r ∈ d.chosen options (.str model)) :
    r.declared = .str (r.operation.conventionalName model) := by
  obtain ⟨p, hp, rfl⟩ := List.mem_map.mp hr
  exact declared_of_conventional h (List.mem_of_mem_filter hp)

namespace Router

variable {site : Site} {options : Options} {model : Text}

theorem key_procedure {r : ResolvedOperation} {q : Procedure} (hshow : options.showModelName = true)
    (hdeclared : r.declared = .str (r.operation.conventionalName model))
    (h : procedure model options r = .ok q) :
    q.key = .str (r.operation.conventionalName model) ∧ q.category = r.operation.category := by
  rw [procedure_of_conventional hdeclared, hshow] at h
  cases h
  exact ⟨rfl, rfl⟩

theorem mem_endpoints_modelFile {operations : List ResolvedOperation} {notifications : List Text}
    {f : SourceFile} (h : modelFile site model operations notifications options = .ok f) :
    (∀ q, Endpoint.procedure q ∈ f.endpoints ↔
        ∃ r ∈ operations, procedure model options r = .ok q) ∧
      ∀ r ∈ operations, ∃ q, procedure model options r = .ok q := by
  obtain ⟨_, endpoints, _, hendpoints, rfl⟩ := modelFile_ok h
  obtain ⟨procedures, hprocedures, rfl⟩ := modelEndpoints_ok hendpoints
  constructor
  · intro q
    rw [← mem_iff_ok hprocedures]
    simp [SourceFile.endpoints, SourceFile.ofParts, Statement.endpoints]
  · intro r hr
    obtain ⟨q, _, hq⟩ := ok_of_mem hprocedures hr
    exact ⟨q, hq⟩

end Router

namespace Run.Parts

variable {site : Router.Site} {d : Document} {options : Options} {p : Parts}

theorem mem_procedures (h : p.Fit site d options) {q : Procedure} :
    (∃ f ∈ p.sources, Endpoint.procedure q ∈ f.endpoints) ↔
      ∃ model ∈ p.models, ∃ r ∈ d.chosen options (.str model),
        Router.procedure model options r = .ok q := by
  constructor
  · rintro ⟨f, hf, hq⟩
    have hrouter : f ∈ p.routers := mem_routers_of_endpoint h hf hq
    obtain ⟨model, hmodel, hfile⟩ := (mem_iff_ok h.routers).mp hrouter
    exact ⟨model, hmodel, ((Router.mem_endpoints_modelFile hfile).1 q).mp hq⟩
  · rintro ⟨model, hmodel, r, hr, hq⟩
    obtain ⟨f, hf, hfile⟩ := ok_of_mem h.routers hmodel
    refine ⟨f, ?_, ((Router.mem_endpoints_modelFile hfile).1 q).mpr ⟨r, hr, hq⟩⟩
    exact List.mem_cons_of_mem _ (List.mem_append_left _ (List.mem_append_left _ hf))

theorem exists_procedure (h : p.Fit site d options) {model : Text} (hmodel : model ∈ p.models)
    {r : ResolvedOperation} (hr : r ∈ d.chosen options (.str model)) :
    ∃ q, Router.procedure model options r = .ok q := by
  obtain ⟨f, _, hfile⟩ := ok_of_mem h.routers hmodel
  exact (Router.mem_endpoints_modelFile hfile).2 r hr

end Run.Parts

/-- An endpoint has a rule exactly if the model is there whose rule would have its key. So the
permissions cover all endpoints exactly if this is so for every operation of every router. -/
theorem covers_generate {σ : Type} (sink : Sink σ) (s : σ) (cwd : Path) (d : Document)
    (outputDir : Text) (source : OptionSource) (options : Options) (delegates : Delegates)
    (g : Generated) (hnames : d.Conventional) (ho : source.resolve d = .ok options)
    (hshield : options.withShield = true) (hshow : options.showModelName = true)
    (hg : (generate sink s cwd d outputDir source delegates).outcome = .ok g) :
    ∃ m, g.permissions = some m ∧
      (∀ f ∈ g.sources, ∀ q, Endpoint.procedure q ∈ f.endpoints →
        ∃ router ∈ g.routers, ∃ r ∈ router.operations,
          q.key = .str (r.operation.conventionalName router.model) ∧
          q.category = r.operation.category ∧
          (m.Covers q ↔
            ∃ other ∈ g.routers, r.operation.ruleModel router.model = some other.model)) ∧
      ((∀ f ∈ g.sources, ∀ q, Endpoint.procedure q ∈ f.endpoints → m.Covers q) ↔
        ∀ router ∈ g.routers, ∀ r ∈ router.operations,
          ∃ other ∈ g.routers, r.operation.ruleModel router.model = some other.model) := by
  obtain ⟨p, hfit, rfl⟩ := Run.generate_fit ho hg
  have hprocedure {model : Text} {r : ResolvedOperation} {q : Procedure}
      (hr : r ∈ d.chosen options (.str model)) (hq : Router.procedure model options r = .ok q) :=
    Router.key_procedure hshow (Document.chosen_of_conventional hnames hr) hq
  have hcovers {model : Text} {r : ResolvedOperation} {q : Procedure}
      (hr : r ∈ d.chosen options (.str model)) (hq : Router.procedure model options r = .ok q) :
      (Policy.matrix p.models).Covers q ↔ ∃ other ∈ p.models.map (d.routerOf options),
        r.operation.ruleModel model = some other.model := by
    rw [Policy.covers_matrix (hprocedure hr hq).1 (hprocedure hr hq).2]
    simp only [List.mem_map, exists_exists_and_eq_and]
    rfl
  refine ⟨Policy.matrix p.models, if_pos hshield, ?_, ?_⟩
  · intro f hf q hq
    obtain ⟨model, hmodel, r, hr, hq⟩ := (Run.Parts.mem_procedures hfit).mp ⟨f, hf, hq⟩
    exact ⟨d.routerOf options model, List.mem_map_of_mem hmodel, r, hr, (hprocedure hr hq).1,
      (hprocedure hr hq).2, hcovers hr hq⟩
  · constructor
    · intro hall router hrouter r hr
      obtain ⟨model, hmodel, rfl⟩ := List.mem_map.mp hrouter
      obtain ⟨q, hq⟩ := Run.Parts.exists_procedure hfit hmodel hr
      obtain ⟨f, hf, hmem⟩ := (Run.Parts.mem_procedures hfit).mpr ⟨model, hmodel, r, hr, hq⟩
      exact (hcovers hr hq).mp (hall f hf q hmem)
    · intro hall f hf q hq
      obtain ⟨model, hmodel, r, hr, hq⟩ := (Run.Parts.mem_procedures hfit).mp ⟨f, hf, hq⟩
      exact (hcovers hr hq).mpr (hall _ (List.mem_map_of_mem hmodel) r hr)

def Policy.stocked : Document where
  models := [⟨.str "Volcanoes", [], .null⟩]
  mappings := [⟨.str "Volcanoes", [(.findMany, .str "findManyVolcanoes"),
    (.createMany, .str "createManyVolcanoes")]⟩]
  generators := [⟨.str "client", .str "prisma-client-js", []⟩]
  schemaPath := .null
  options := []

theorem covers_generate_stocked :
    Policy.stocked.Conventional ∧ Options.default.withShield = true ∧
      Options.default.showModelName = true ∧
      ∃ g m, (generate MemorySink.sink .empty ⟨.single, ["work"]⟩ Policy.stocked "out" .ofDocument
        .none).outcome = .ok g ∧
      g.permissions = some m ∧
      ∃ f ∈ g.sources, ∃ q, Endpoint.procedure q ∈ f.endpoints ∧
        q.key = .str "createManyVolcanoes" ∧ q.category = .mutation ∧ ¬ m.Covers q := by
  have hrun : (generate MemorySink.sink .empty ⟨.single, ["work"]⟩ Policy.stocked "out" .ofDocument
      .none).outcome.map (·.routers) = .ok [⟨"Volcanoes",
        [⟨.findMany, .str "findManyVolcanoes"⟩, ⟨.createMany, .str "createManyVolcanoes"⟩],
        notificationEvents⟩] := by decide +kernel
  obtain ⟨g, hg, hrouters⟩ := map_eq_ok.mp hrun
  have hnames : Policy.stocked.Conventional := by
    intro m hm model hmodel p hp
    simp only [Policy.stocked, List.mem_singleton] at hm
    subst hm
    cases hmodel
    simp only [List.mem_cons, List.not_mem_nil, or_false] at hp
    rcases hp with rfl | rfl <;> rfl
  obtain ⟨m, hm, hprocedures, hall⟩ := covers_generate MemorySink.sink .empty ⟨.single, ["work"]⟩
    Policy.stocked "out" .ofDocument Options.default .none g hnames rfl rfl rfl hg
  rw [hrouters] at hprocedures hall
  have hsome : ¬ ∀ f ∈ g.sources, ∀ q, Endpoint.procedure q ∈ f.endpoints → m.Covers q := by
    intro hcovers
    obtain ⟨_, _, h⟩ := hall.mp hcovers _ (List.mem_singleton_self _) ⟨.createMany, _⟩
      (List.mem_cons_of_mem _ (List.mem_singleton_self _))
    cases h
  push Not at hsome
  obtain ⟨f, hf, q, hq, hnot⟩ := hsome
  refine ⟨hnames, rfl, rfl, g, m, hg, hm, f, hf, q, hq, ?_⟩
  obtain ⟨router, hrouter, r, hr, hkey, hcategory, hiff⟩ := hprocedures f hf q hq
  rw [List.mem_singleton] at hrouter
  subst hrouter
  simp only [List.mem_cons, List.not_mem_nil, or_false] at hr
  rcases hr with rfl | rfl
  · exact absurd (hiff.mpr ⟨_, List.mem_singleton_self _, rfl⟩) hnot
  · exact ⟨hkey, hcategory, hnot⟩

end RouterLayer
