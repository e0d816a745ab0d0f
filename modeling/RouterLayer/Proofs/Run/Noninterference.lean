import Mathlib.Data.List.Find
import RouterLayer.Proofs.Run.Session

/-!
Two runs over documents that differ only in what is hidden. All that a run takes from a document
are the names of its visible models and what is declared for these names (`shown_build`), so
nothing else can be told from the files or from the failure of a run.
-/

set_option autoImplicit false

namespace RouterLayer

namespace Document

/-- The names of the models that nothing hides, unless this cannot be told. -/
def visibleNames (d : Document) : Except Failure (List Json) :=
  (Visibility.ofModels d.models).outcome.map fun v => v.visible.map (·.name)

/-- The documents have the same visible models and declare the same operations for them. -/
structure Agree (d d' : Document) : Prop where
  names : d.visibleNames = d'.visibleNames
  declared : ∀ names, d.visibleNames = .ok names → ∀ name ∈ names,
    (d.mappingFor name).operations = (d'.mappingFor name).operations

def withoutHidden (d : Document) (keep : OperationMapping → Bool) : Document :=
  { d with
    models := d.models.filter fun m => !m.hides
    mappings := d.mappings.filter keep }

theorem visibleNames_eq (d : Document) :
    d.visibleNames = d.models.mapM Model.isHidden >>= fun _ => .ok (d.visible.map (·.name)) := by
  unfold visibleNames
  rw [Visibility.outcome_ofModels]
  cases d.models.mapM Model.isHidden <;> rfl

end Document

theorem Model.hides_of_isHidden_error {m : Model} {e : Failure} (h : m.isHidden = .error e) :
    m.hides = false := by
  unfold Model.hides
  split
  · next s hs =>
    unfold isHidden attributes at h
    rw [hs] at h
    dsimp only at h
    split at h <;> cases h
  · rfl

theorem Model.mapM_isHidden_filter {α : Type} (models : List Model) (x : Except Failure α) :
    ((models.filter fun m => !m.hides).mapM Model.isHidden >>= fun _ => x) =
      models.mapM Model.isHidden >>= fun _ => x := by
  induction models with
  | nil => rfl
  | cons m rest ih =>
    rw [List.mapM_cons]
    cases hm : m.isHidden with
    | error e =>
      rw [List.filter_cons_of_pos (by rw [hides_of_isHidden_error hm]; rfl), List.mapM_cons, hm]
      rfl
    | ok hidden =>
      have hrest : ((Except.ok hidden >>= fun b => rest.mapM Model.isHidden >>= fun bs =>
          pure (b :: bs)) >>= fun _ => x) = rest.mapM Model.isHidden >>= fun _ => x := by
        cases rest.mapM Model.isHidden <;> rfl
      rw [hrest, ← ih]
      cases hidden with
      | true =>
        rw [List.filter_cons_of_neg (by rw [hides_of_isHidden hm]; decide)]
      | false =>
        rw [List.filter_cons_of_pos (by rw [hides_of_isHidden hm]; rfl), List.mapM_cons, hm]
        cases (rest.filter fun m => !m.hides).mapM Model.isHidden <;> rfl

namespace Document

variable {d d' : Document}

theorem agree_withoutHidden {keep : OperationMapping → Bool}
    (hkeep : ∀ v ∈ d.visible, ∀ m ∈ d.mappings, v.name.finds m.model = true → keep m = true) :
    d.Agree (d.withoutHidden keep) := by
  have hvisible : (d.withoutHidden keep).visible = d.visible := by
    unfold visible withoutHidden
    simp only [List.filter_filter, Bool.and_self]
  have hnames : d.visibleNames = (d.withoutHidden keep).visibleNames := by
    rw [visibleNames_eq, visibleNames_eq, hvisible]
    exact (Model.mapM_isHidden_filter d.models _).symm
  refine ⟨hnames, fun names h name hname => ?_⟩
  have hv : names = d.visible.map (·.name) := by
    rw [visibleNames_eq] at h
    obtain ⟨_, _, h⟩ := bind_eq_ok.mp h
    exact (Except.ok.inj h).symm
  obtain ⟨v, hv, rfl⟩ := List.mem_map.mp (hv ▸ hname)
  have hfind : (d.mappings.filter keep).find? (fun m => v.name.finds m.model) =
      d.mappings.find? fun m => v.name.finds m.model := by
    rw [List.find?_filter]
    refine List.find?_congr fun m hm => ?_
    cases hf : v.name.finds m.model with
    | true => simp [hkeep v hv m hm hf]
    | false => simp
  unfold mappingFor withoutHidden
  rw [hfind]

end Document

def Generated.shown (g : Generated) : Generated := { g with hidden := [] }

namespace Run

variable (cwd : Path) (outputDir : Text) (source : OptionSource)

def observed (d : Document) : MemorySink × Except Failure Generated :=
  let r := generate MemorySink.sink .empty cwd d outputDir source .none
  (r.sink, r.outcome.map Generated.shown)

theorem outcome_callDelegates_none {σ : Type} (site : Router.Site) (context : RunContext) (s : σ) :
    (callDelegates site .none context s).outcome = .ok () := by
  unfold callDelegates callValidation callPolicyStarter
  split <;> split <;> rfl

section

variable (site : Router.Site) (options : Options)

theorem shown_assemble (builder : Json → Except Failure (ModelRouter × SourceFile))
    (hidden names : List Json) :
    (assemble site options builder hidden names).map Generated.shown =
      assemble site options builder [] names := by
  unfold assemble
  simp only [map_bind_eq]
  rfl

theorem shown_build (d : Document) :
    (build site d options).outcome.map Generated.shown =
      d.visibleNames >>= assemble site options (buildNamed site d options) [] := by
  rw [outcome_build, map_bind_eq, Document.visibleNames_eq]
  simp only [shown_assemble]
  cases d.models.mapM Model.isHidden <;> rfl

theorem buildNamed_congr {d d' : Document} {name : Json} (h : d.declared name = d'.declared name) :
    buildNamed site d options name = buildNamed site d' options name := by
  unfold buildNamed Document.chosen
  rw [h]

theorem shown_build_of_agree {d d' : Document} (h : d.Agree d') :
    (build site d options).outcome.map Generated.shown =
      (build site d' options).outcome.map Generated.shown := by
  rw [shown_build, shown_build, ← h.names]
  cases hnames : d.visibleNames with
  | error e => rfl
  | ok names =>
    have hbuilders : names.mapM (buildNamed site d options) =
        names.mapM (buildNamed site d' options) :=
      mapM_eq_of_forall fun name hname =>
        buildNamed_congr site options (h.declared names hnames name hname)
    change assemble _ _ _ _ _ = assemble _ _ _ _ _
    unfold assemble
    rw [hbuilders]

end

theorem outcome_generate_none (s : MemorySink) (d : Document) :
    (generate MemorySink.sink s cwd d outputDir source .none).outcome =
      vet source d >>= fun options => (build ⟨cwd, Path.ofText outputDir⟩ d options).outcome := by
  rw [outcome_generate_memory]
  congr 1
  funext options
  rw [outcome_callDelegates_none]
  rfl

theorem vet_eq_resolve {d : Document} (h : d.clientGenerator.isOk = true) :
    vet source d = source.resolve d := by
  obtain ⟨client, hclient⟩ := exists_ok h
  unfold vet
  rw [hclient]
  cases source.resolve d <;> rfl

/-- The sink shows no more of a run than the checks in front of it and its outcome do. -/
theorem sink_eq_of_outcome_eq {s : MemorySink} {d d' : Document} {delegates : Delegates}
    {r r' : Report MemorySink} (h : generate MemorySink.sink s cwd d outputDir source delegates = r)
    (h' : generate MemorySink.sink s cwd d' outputDir source delegates = r')
    (hvet : vet source d = vet source d')
    (houtcome : r.outcome.map Generated.shown = r'.outcome.map Generated.shown) :
    r.sink = r'.sink := by
  have hsink := (sink_generate h).2
  have hsink' := (sink_generate h').2
  cases hr : r.outcome with
  | ok g =>
    cases hr' : r'.outcome with
    | ok g' =>
      rw [hr] at hsink
      rw [hr'] at hsink'
      rw [hr, hr'] at houtcome
      have hshown : g.shown = g'.shown := Except.ok.inj houtcome
      have hfiles : g.shown.files = g'.shown.files := congrArg Generated.files hshown
      change g.files = g'.files at hfiles
      dsimp only at hsink hsink'
      rw [hsink, hsink', hfiles]
    | error e => rw [hr, hr'] at houtcome; cases houtcome
  | error e =>
    cases hr' : r'.outcome with
    | ok g' => rw [hr, hr'] at houtcome; cases houtcome
    | error e' =>
      rw [hr] at hsink
      rw [hr'] at hsink'
      rcases hsink with ⟨herror, _, hsame⟩ | ⟨options, hok, _, hreset⟩ <;>
        rcases hsink' with ⟨herror', _, hsame'⟩ | ⟨options', hok', _, hreset'⟩
      · rw [hsame, hsame']
      · rw [← hvet, herror] at hok'; cases hok'
      · rw [← hvet, hok] at herror'; cases herror'
      · rw [hreset, hreset']

theorem observed_of_agree {d d' : Document} (hclient : d.clientGenerator.isOk = true)
    (hclient' : d'.clientGenerator.isOk = true) (hoptions : source.resolve d = source.resolve d')
    (h : d.Agree d') : observed cwd outputDir source d = observed cwd outputDir source d' := by
  have hvet : vet source d = vet source d' := by
    rw [vet_eq_resolve source hclient, vet_eq_resolve source hclient', hoptions]
  have houtcome :
      (generate MemorySink.sink .empty cwd d outputDir source .none).outcome.map Generated.shown =
      (generate MemorySink.sink .empty cwd d' outputDir source .none).outcome.map
        Generated.shown := by
    rw [outcome_generate_none, outcome_generate_none, map_bind_eq, map_bind_eq, hvet]
    congr 1
    funext options
    exact shown_build_of_agree _ options h
  exact Prod.ext (sink_eq_of_outcome_eq cwd outputDir source rfl rfl hvet houtcome) houtcome

/-- Runs over documents that agree on the visible models leave the same files and end in the same
way. In particular, so do the runs without the hidden models and their mappings, and the runs with
other models of which the same are visible. -/
theorem noninterference (d d' : Document) (hclient : d.clientGenerator.isOk = true)
    (hclient' : d'.clientGenerator.isOk = true) (hoptions : source.resolve d = source.resolve d')
    (h : d.Agree d') :
    observed cwd outputDir source d = observed cwd outputDir source d' ∧
    (∀ keep : OperationMapping → Bool,
      (∀ v ∈ d.visible, ∀ m ∈ d.mappings, v.name.finds m.model = true → keep m = true) →
      observed cwd outputDir source (d.withoutHidden keep) = observed cwd outputDir source d) ∧
    (∀ changed : Document, changed.mappings = d.mappings → changed.generators = d.generators →
      changed.options = d.options → changed.visibleNames = d.visibleNames →
      observed cwd outputDir source changed = observed cwd outputDir source d) := by
  refine ⟨observed_of_agree cwd outputDir source hclient hclient' hoptions h, ?_, ?_⟩
  · intro keep hkeep
    have hstill : (d.withoutHidden keep).clientGenerator.isOk = true := hclient
    have hsame : source.resolve d = source.resolve (d.withoutHidden keep) := by
      cases source <;> rfl
    exact (observed_of_agree cwd outputDir source hclient hstill hsame
      (Document.agree_withoutHidden hkeep)).symm
  · rintro ⟨models, mappings, generators, schemaPath, config⟩ hmappings hgenerators hconfig hnames
    dsimp only at hmappings hgenerators hconfig
    subst hmappings hgenerators hconfig
    have hsame : source.resolve ⟨models, d.mappings, d.generators, schemaPath, d.options⟩ =
        source.resolve d := by cases source <;> rfl
    exact observed_of_agree cwd outputDir source hclient hclient hsame
      ⟨hnames, fun _ _ _ _ => rfl⟩

def guarded : Document where
  models := [⟨.str "Volcanoes", [], .null⟩,
    ⟨.str "Secret", [], .str "@@Gen.model(hide: true)"⟩, ⟨.str "Tornadoes", [], .null⟩]
  mappings := [⟨.str "Secret", [(.findMany, .str "findManySecret")]⟩,
    ⟨.str "Volcanoes", [(.findMany, .str "findManyVolcanoes")]⟩]
  generators := [⟨.str "client", .str "prisma-client-js", []⟩]
  schemaPath := .null
  options := []

def reguarded : Document where
  models := [⟨.str "Volcano", [], .str "@@Gen.model(hide: true)"⟩,
    ⟨.str "Volcanoes", [], .str "Mountains."⟩, ⟨.str "Tornadoes", [], .null⟩]
  mappings := [⟨.str "Volcanoes", [(.findMany, .str "findManyVolcanoes")]⟩]
  generators := [⟨.null, .str "other", []⟩, ⟨.null, .str "prisma-client-js", []⟩]
  schemaPath := .str "schema.prisma"
  options := []

theorem visibleNames_guarded :
    guarded.visibleNames = .ok [.str "Volcanoes", .str "Tornadoes"] := by rfl

theorem agree_guarded : guarded.Agree reguarded where
  names := by rfl
  declared names h name hname := by
    rw [visibleNames_guarded] at h
    cases h
    simp only [List.mem_cons, List.not_mem_nil, or_false] at hname
    rcases hname with rfl | rfl <;> rfl

theorem noninterference_guarded :
    let look := observed ⟨.single, ["work"]⟩ "out" .ofDocument
    guarded.Agree reguarded ∧ (look guarded).2.isOk = true ∧ look guarded = look reguarded ∧
      look (guarded.withoutHidden fun m => m.model != .str "Secret") = look guarded ∧
      look { guarded with models := reguarded.models, schemaPath := .str "schema.prisma" } =
        look guarded := by
  intro look
  obtain ⟨hsame, hwithout, hchanged⟩ := noninterference ⟨.single, ["work"]⟩ "out" .ofDocument
    guarded reguarded (by decide) (by decide) rfl agree_guarded
  have hkeep : ∀ v ∈ guarded.visible, ∀ m ∈ guarded.mappings, v.name.finds m.model = true →
      (m.model != .str "Secret") = true := by decide +kernel
  exact ⟨agree_guarded, by decide +kernel, hsame, hwithout _ hkeep,
    hchanged _ rfl rfl rfl agree_guarded.names.symm⟩

end Run

end RouterLayer
