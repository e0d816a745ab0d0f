import RouterLayer.Proofs.Document.Unguarded
import RouterLayer.Proofs.Run.Success

/-!
Runs over documents whose values have not the kinds that the program reckons with. Reading passes
most values on unchecked, and where a run then takes one for a text it ends with a failure that
nobody foresees. There are four such places (`Document.Misleads`), and as long as every configured
path names a module nothing else ends a run in that way (`misreads_generate_iff`).
-/

set_option autoImplicit false

namespace RouterLayer

def Failure.declines : Failure → Bool
  | .options _ | .noClient _ | .collision .. => true
  | _ => false

def Failure.misreads : Failure → Bool
  | .wrongKind | .notText => true
  | _ => false

/-- Where a text is expected, a value that stands for nothing counts as none. -/
def Json.passesAsText (value : Json) : Bool := value.isVoid || value.isText

/-- A run with some options comes to a value that it takes for a text: the provider of a generator,
which is to be named in a message; the documentation of a model; the name of a model for which
something is generated; or a declared name out of which the name of the model is to be taken. -/
inductive Document.Misleads (d : Document) (options : Options) : Prop
  | provider (unserved : ∀ g ∈ d.generators, g.provider ≠ .str clientProvider)
      (g : GeneratorDeclaration) (mem : g ∈ d.generators) (other : g.provider.isText = false)
  | documentation (served : ∃ g ∈ d.generators, g.provider = .str clientProvider) (m : Model)
      (mem : m ∈ d.models) (other : m.documentation.passesAsText = false)
  | name (served : ∃ g ∈ d.generators, g.provider = .str clientProvider) (m : Model)
      (mem : m ∈ d.visible) (other : m.name.isText = false)
  | declared (served : ∃ g ∈ d.generators, g.provider = .str clientProvider)
      (taken : options.showModelName = false) (m : Model) (mem : m ∈ d.visible)
      (r : ResolvedOperation) (chosen : r ∈ d.chosen options m.name)
      (other : r.declared.passesAsText = false)

def Misread {α : Type} (x : Except Failure α) : Prop := ∃ e, x = .error e ∧ e.misreads = true

section Misread

variable {α β : Type} {cause : Failure → Bool} {x : Except Failure α}

theorem misread_bind {f : α → Except Failure β} :
    Misread (x >>= f) ↔ Misread x ∨ ∃ a, x = .ok a ∧ Misread (f a) := by
  unfold Misread
  simp only [bind_eq_error]
  constructor
  · rintro ⟨e, h | ⟨a, ha, h⟩, he⟩
    · exact .inl ⟨e, h, he⟩
    · exact .inr ⟨a, ha, e, h, he⟩
  · rintro (⟨e, h, he⟩ | ⟨a, ha, e, h, he⟩)
    · exact ⟨e, .inl h, he⟩
    · exact ⟨e, .inr ⟨a, ha, h⟩, he⟩

theorem not_misread (h : FailsOnly cause x)
    (hcause : ∀ e, cause e = true → e.misreads = false) : ¬Misread x := by
  rintro ⟨e, he, hm⟩
  rw [hcause e (h e he)] at hm
  cases hm

theorem misread_iff_isOk (h : FailsOnly Failure.misreads x) : Misread x ↔ ¬x.isOk = true := by
  cases x with
  | ok a => exact iff_of_false (fun ⟨_, h, _⟩ => nomatch h) (fun h => h rfl)
  | error e => exact iff_of_true ⟨e, rfl, h e rfl⟩ (fun h => nomatch h)

/-- A sequence ends over the kind of a value where its first part does, if the rest can only
decline. -/
theorem misread_bind_of_declines {f : α → Except Failure β}
    (hf : ∀ a, FailsOnly Failure.declines (f a)) : Misread (x >>= f) ↔ Misread x := by
  rw [misread_bind]
  refine or_iff_left fun ⟨a, _, h⟩ => not_misread (hf a) (fun e he => ?_) h
  cases e <;> first | rfl | cases he

theorem FailsOnly.mono {cause' : Failure → Bool} (h : FailsOnly cause x)
    (hcause : ∀ e, cause e = true → cause' e = true) : FailsOnly cause' x :=
  fun e he => hcause e (h e he)

end Misread

theorem Failure.declines_or_misreads_of_declines {e : Failure} (h : e.declines = true) :
    (e.declines || e.misreads) = true := by rw [h, Bool.true_or]

theorem Failure.declines_or_misreads_of_misreads {e : Failure} (h : e.misreads = true) :
    (e.declines || e.misreads) = true := by rw [h, Bool.or_true]

theorem OptionSource.declines_of_resolve (source : OptionSource) (d : Document) :
    FailsOnly Failure.declines (source.resolve d) := by
  have hparse (raw : OrderedMap Json) : FailsOnly Failure.declines (Options.parse raw) := by
    unfold Options.parse
    dsimp only
    split
    · exact .ok _
    · exact .error rfl
  cases source with
  | checked options => exact .ok _
  | given raw => exact hparse raw
  | ofDocument => exact hparse d.options

namespace Document

variable {d : Document}

theorem isOk_clientGenerator : d.clientGenerator.isOk = true ↔
    ∃ g ∈ d.generators, g.provider = .str clientProvider := by
  have hfind : (d.generators.find? (·.provider = .str clientProvider)).isSome = true ↔
      ∃ g ∈ d.generators, g.provider = .str clientProvider := by
    simp only [List.find?_isSome, decide_eq_true_eq]
  rw [← hfind]
  unfold clientGenerator
  cases d.generators.find? (·.provider = .str clientProvider) with
  | some g => exact iff_of_true rfl rfl
  | none =>
    refine iff_of_false ?_ (fun h => nomatch h)
    dsimp only
    split <;> exact fun h => nomatch h

theorem misread_clientGenerator : Misread d.clientGenerator ↔
    (∀ g ∈ d.generators, g.provider ≠ .str clientProvider) ∧
      ∃ g ∈ d.generators, g.provider.isText = false := by
  have hfind : d.generators.find? (·.provider = .str clientProvider) = none ↔
      ∀ g ∈ d.generators, g.provider ≠ .str clientProvider := by
    simp only [List.find?_eq_none, decide_eq_true_eq, ne_eq]
  have hother : (d.generators.mapM fun g => textOf? g.provider) = none ↔
      ∃ g ∈ d.generators, g.provider.isText = false := by
    have hproviders : (d.generators.mapM fun g => textOf? g.provider) =
        (d.generators.map (·.provider)).mapM textOf? := by rw [List.mapM_map]; rfl
    rw [hproviders, mapM_textOf?_eq_none]
    simp only [List.mem_map, exists_exists_and_eq_and]
  rw [← hfind, ← hother]
  unfold clientGenerator
  cases d.generators.find? (·.provider = .str clientProvider) with
  | some g => exact iff_of_false (fun ⟨_, h, _⟩ => nomatch h) (fun h => nomatch h.1)
  | none =>
    cases d.generators.mapM fun g => textOf? g.provider with
    | some providers =>
      refine iff_of_false ?_ (fun h => nomatch h.2)
      rintro ⟨_, ⟨⟩, h⟩
      cases h
    | none => exact iff_of_true ⟨_, rfl, rfl⟩ ⟨rfl, rfl⟩

end Document

theorem Model.misreads_of_isHidden (m : Model) : FailsOnly Failure.misreads m.isHidden := by
  refine .map _ ?_
  unfold attributes
  split
  · exact .ok _
  · split
    · exact .ok _
    · exact .error rfl

theorem Model.isOk_isHidden (m : Model) :
    m.isHidden.isOk = true ↔ m.documentation.passesAsText = true := by
  rw [isHidden, isOk_map, attributes, Json.passesAsText]
  split
  · next hvoid => simp [hvoid, Except.isOk, Except.toBool]
  · next hvoid =>
    rw [Bool.not_eq_true] at hvoid
    rw [hvoid]
    cases m.documentation <;> simp [Json.isText, Except.isOk, Except.toBool]

namespace Router

variable {site : Site} {options : Options}

theorem misreads_of_procedure (model : Text) (r : ResolvedOperation) :
    FailsOnly Failure.misreads (procedure model options r) := by
  refine .map _ ?_
  unfold procedureKey
  split
  · exact .ok _
  · split
    · exact .ok _
    · exact .error rfl

theorem misreads_unnamedFailure (name : Json) (operations : List ResolvedOperation) :
    (unnamedFailure name operations options).misreads = true := by
  unfold unnamedFailure
  repeat' split
  all_goals rfl

theorem isOk_procedure_iff (model : Text) (r : ResolvedOperation) :
    (procedure model options r).isOk = true ↔
      options.showModelName = true ∨ r.declared.passesAsText = true := by
  rw [procedure, isOk_map, Naming.endpointName, Json.passesAsText]
  split
  · next h => simp [h, procedureKey, Except.isOk, Except.toBool]
  · next h =>
    cases hd : r.declared <;> cases options.showModelName <;>
      simp_all [procedureKey, Json.isText, Except.isOk, Except.toBool]

section

variable (hemitter : (configuredSpecifier site Naming.routersDir options.emitterPath).isOk = true)
include hemitter

theorem misreads_of_fileOf (name : Json) (operations : List ResolvedOperation)
    (notifications : List Text) :
    FailsOnly Failure.misreads (fileOf site name operations notifications options) := by
  unfold fileOf
  split
  · refine .bind (.bind (.of_isOk hemitter) fun _ => .bind ?_ fun _ => .ok _) fun _ => .ok _
    exact .bind (.mapM (misreads_of_procedure _) _) fun _ => .ok _
  · exact .bind (.of_isOk hemitter) fun _ => .error (misreads_unnamedFailure _ _)

theorem isOk_fileOf (name : Json) (operations : List ResolvedOperation)
    (notifications : List Text) :
    (fileOf site name operations notifications options).isOk = true ↔ name.isText = true ∧
      ∀ r ∈ operations, options.showModelName = true ∨ r.declared.passesAsText = true := by
  cases name with
  | str model =>
    have hendpoints : (modelEndpoints model operations notifications options).isOk = true ↔
        ∀ r ∈ operations, options.showModelName = true ∨ r.declared.passesAsText = true := by
      rw [modelEndpoints, isOk_return, isOk_mapM]
      simp only [isOk_procedure_iff]
    rw [fileOf, isOk_return, modelFile]
    refine (isOk_seq fun _ _ => ?_).trans (and_congr_left' (iff_of_true hemitter rfl))
    rw [isOk_return, hendpoints]
  | _ =>
    refine iff_of_false ?_ (fun h => Bool.false_ne_true h.1)
    rw [fileOf, isOk_bind]
    · rintro ⟨_, _, h⟩
      cases h
    · rintro _ ⟨⟩

end

end Router

namespace Run

variable {site : Router.Site} {options : Options} {d : Document}

section

variable (hemitter :
  (Router.configuredSpecifier site Naming.routersDir options.emitterPath).isOk = true)
include hemitter

theorem misreads_of_buildNamed (name : Json) :
    FailsOnly Failure.misreads (buildNamed site d options name) :=
  .map _ (Router.misreads_of_fileOf hemitter name _ _)

theorem isOk_buildNamed_iff (name : Json) : (buildNamed site d options name).isOk = true ↔
    name.isText = true ∧ ∀ r ∈ d.chosen options name,
      options.showModelName = true ∨ r.declared.passesAsText = true := by
  rw [buildNamed, isOk_map, Router.isOk_fileOf hemitter]

end

theorem misread_assemble (builder : Json → Except Failure (ModelRouter × SourceFile))
    (hidden names : List Json) (hbootstrap : (Router.bootstrapFile site options).isOk = true)
    (hpolicy : ∀ models, (buildPolicy site options models).outcome.isOk = true)
    (hbuilder : ∀ name ∈ names, FailsOnly Failure.misreads (builder name)) :
    FailsOnly (fun e => e.declines || e.misreads) (assemble site options builder hidden names) ∧
    (Misread (assemble site options builder hidden names) ↔
      ∃ name ∈ names, ¬(builder name).isOk = true) := by
  have hnames : FailsOnly Failure.misreads (names.mapM builder) := by
    intro e he
    obtain ⟨name, hname, h⟩ := mapM_eq_error.mp he
    exact hbuilder name hname.mem e h
  obtain ⟨bootstrap, hbootstrap⟩ := exists_ok hbootstrap
  have hrest (built : List (ModelRouter × SourceFile))
      {f : Option (PermissionMatrix × SourceFile) → SourceFile → Generated} :
      FailsOnly Failure.declines (do
        let policy ← (buildPolicy site options ((built.map (·.1)).map (·.model))).outcome
        let app ← Router.appFile (built.map (·.1))
        return f policy app) :=
    .bind (.of_isOk (hpolicy _)) fun _ =>
      .bind (Router.failsOnly_appFile (fun _ _ _ => rfl) _) fun _ => .ok _
  unfold assemble
  rw [hbootstrap]
  change FailsOnly _ (names.mapM builder >>= _) ∧ (Misread (names.mapM builder >>= _) ↔ _)
  constructor
  · exact .bind (hnames.mono fun _ => Failure.declines_or_misreads_of_misreads) fun built =>
      (hrest built).mono fun _ => Failure.declines_or_misreads_of_declines
  · refine (misread_bind_of_declines fun built => hrest built).trans ?_
    rw [misread_iff_isOk hnames, isOk_mapM]
    simp only [not_forall, exists_prop]

theorem misread_build (hsite : site.Clean)
    (hpaths : ∀ path ∈ options.importedPaths (d.visible.map (·.name.display)),
      site.isExtension path = false) :
    FailsOnly (fun e => e.declines || e.misreads) (build site d options).outcome ∧
    (Misread (build site d options).outcome ↔
      (∃ m ∈ d.models, m.documentation.passesAsText = false) ∨
      (∃ m ∈ d.visible, m.name.isText = false) ∨
      options.showModelName = false ∧ ∃ m ∈ d.visible, ∃ r ∈ d.chosen options m.name,
        r.declared.passesAsText = false) := by
  rw [Options.importedPaths, List.forall_mem_append] at hpaths
  obtain ⟨hbase, hemitter⟩ := hpaths
  have hbootstrap := (Router.isOk_bootstrapFile hsite).mpr hbase
  have hpolicy (models : List Text) : (buildPolicy site options models).outcome.isOk = true := by
    rw [outcome_buildPolicy]
    split
    · rw [isOk_map]
      exact (Router.isOk_policyFile hsite).mpr (hbase _ List.mem_cons_self)
    · rfl
  -- a visible model makes the run import the emitter
  replace hemitter : ∀ m ∈ d.visible,
      (Router.configuredSpecifier site Naming.routersDir options.emitterPath).isOk = true := by
    intro m hm
    refine (Router.isOk_configuredSpecifier hsite _ _).mpr (hemitter _ ?_)
    cases hv : d.visible with
    | nil => rw [hv] at hm; cases hm
    | cons m rest => exact List.mem_singleton.mpr rfl
  have hnames : (∃ name ∈ d.visible.map (·.name),
        ¬(buildNamed site d options name).isOk = true) ↔
      (∃ m ∈ d.visible, m.name.isText = false) ∨ options.showModelName = false ∧
        ∃ m ∈ d.visible, ∃ r ∈ d.chosen options m.name, r.declared.passesAsText = false := by
    have hname (m : Model) (hm : m ∈ d.visible) :
        ¬(buildNamed site d options m.name).isOk = true ↔ m.name.isText = false ∨
          options.showModelName = false ∧ ∃ r ∈ d.chosen options m.name,
            r.declared.passesAsText = false := by
      rw [isOk_buildNamed_iff (hemitter m hm), not_and_or, Bool.not_eq_true]
      cases options.showModelName <;> simp
    simp only [List.mem_map, exists_exists_and_eq_and]
    constructor
    · rintro ⟨m, hm, h⟩
      rcases (hname m hm).mp h with h | ⟨hoff, h⟩
      · exact .inl ⟨m, hm, h⟩
      · exact .inr ⟨hoff, m, hm, h⟩
    · rintro (⟨m, hm, h⟩ | ⟨hoff, m, hm, h⟩)
      · exact ⟨m, hm, (hname m hm).mpr (.inl h)⟩
      · exact ⟨m, hm, (hname m hm).mpr (.inr ⟨hoff, h⟩)⟩
  have hhidden : FailsOnly Failure.misreads (d.models.mapM Model.isHidden) :=
    .mapM Model.misreads_of_isHidden _
  obtain ⟨hfails, hmisread⟩ := misread_assemble (buildNamed site d options)
    ((d.models.filter (·.hides)).map (·.name)) (d.visible.map (·.name)) hbootstrap hpolicy
    (List.forall_mem_map.mpr fun m hm => misreads_of_buildNamed (hemitter m hm) m.name)
  rw [outcome_build]
  constructor
  · exact .bind (hhidden.mono fun _ => Failure.declines_or_misreads_of_misreads) fun _ => hfails
  · rw [misread_bind, hmisread, hnames, misread_iff_isOk hhidden]
    have hdocumentation : ¬(d.models.mapM Model.isHidden).isOk = true ↔
        ∃ m ∈ d.models, m.documentation.passesAsText = false := by
      rw [isOk_mapM]
      simp only [Model.isOk_isHidden, not_forall, exists_prop, Bool.not_eq_true]
    rw [hdocumentation]
    by_cases hbad : ∃ m ∈ d.models, m.documentation.passesAsText = false
    · exact iff_of_true (.inl hbad) (.inl hbad)
    · obtain ⟨hiddens, hok⟩ := exists_ok (not_not.mp (hdocumentation.not.mpr hbad))
      refine or_congr_right ⟨?_, fun h => ⟨hiddens, hok, h⟩⟩
      rintro ⟨_, _, h⟩
      exact h

end Run

theorem Document.misleads_iff {d : Document} {options : Options} : d.Misleads options ↔
    Misread d.clientGenerator ∨ d.clientGenerator.isOk = true ∧
      ((∃ m ∈ d.models, m.documentation.passesAsText = false) ∨
        (∃ m ∈ d.visible, m.name.isText = false) ∨
        options.showModelName = false ∧ ∃ m ∈ d.visible, ∃ r ∈ d.chosen options m.name,
          r.declared.passesAsText = false) := by
  rw [misread_clientGenerator, isOk_clientGenerator]
  constructor
  · intro h
    cases h with
    | provider unserved g mem other => exact .inl ⟨unserved, g, mem, other⟩
    | documentation served m mem other => exact .inr ⟨served, .inl ⟨m, mem, other⟩⟩
    | name served m mem other => exact .inr ⟨served, .inr (.inl ⟨m, mem, other⟩)⟩
    | declared served taken m mem r chosen other =>
      exact .inr ⟨served, .inr (.inr ⟨taken, m, mem, r, chosen, other⟩)⟩
  · rintro (⟨unserved, g, mem, other⟩ | ⟨served, ⟨m, mem, other⟩ | ⟨m, mem, other⟩ |
      ⟨taken, m, mem, r, chosen, other⟩⟩)
    · exact .provider unserved g mem other
    · exact .documentation served m mem other
    · exact .name served m mem other
    · exact .declared served taken m mem r chosen other

/-- As long as every configured path that a run imports names a module, a run without delegates
returns or ends with one of the failures that it is meant to end with, unless it comes to a value
that it takes for a text and that is none. Then, and only then, nobody foresees its end. -/
theorem misreads_generate_iff (s : MemorySink) (cwd outputDir : Text) (d : Document)
    (source : OptionSource)
    (hpaths : ∀ options, source.resolve d = .ok options →
      ∀ path ∈ options.importedPaths (d.visible.map (·.name.display)),
        ((Path.ofText outputDir).join (Path.ofText path)).normal.text ∉ Path.moduleExtensions) :
    let outcome :=
      (generate MemorySink.sink s (Path.ofText cwd) d outputDir source .none).outcome
    (∀ e, outcome = .error e → e.declines = true ∨ e.misreads = true) ∧
    ((∃ e, outcome = .error e ∧ e.isForeseen = false) ↔
      ∃ options, source.resolve d = .ok options ∧ d.Misleads options) := by
  intro outcome
  have hsite := Router.Site.clean_ofText cwd outputDir
  have houtcome : outcome = source.resolve d >>= fun options => d.clientGenerator >>= fun _ =>
      (Run.build ⟨Path.ofText cwd, Path.ofText outputDir⟩ d options).outcome := by
    change (generate MemorySink.sink s (Path.ofText cwd) d outputDir source .none).outcome = _
    rw [Run.outcome_generate_none, Run.vet]
    cases source.resolve d with
    | error e => rfl
    | ok options => cases d.clientGenerator <;> rfl
  have hbuild (options : Options) (ho : source.resolve d = .ok options) :=
    Run.misread_build (d := d) hsite fun path hpath => by
      rw [Router.Site.isExtension, ← Bool.not_eq_true, List.contains_iff_mem]
      exact hpaths options ho path hpath
  have hfails : FailsOnly (fun e => e.declines || e.misreads) outcome := by
    rw [houtcome]
    cases ho : source.resolve d with
    | error e =>
      exact .error (Failure.declines_or_misreads_of_declines (source.declines_of_resolve d e ho))
    | ok options =>
      change FailsOnly _ (d.clientGenerator >>= _)
      refine .bind (d.refuses_of_clientGenerator.mono fun e he => ?_) fun _ => (hbuild options ho).1
      cases e <;> first | rfl | cases he
  refine ⟨fun e he => Bool.or_eq_true_iff.mp (hfails e he), ?_⟩
  calc (∃ e, outcome = .error e ∧ e.isForeseen = false)
    _ ↔ Misread outcome := by
      refine exists_congr fun e => and_congr_right fun he => ?_
      have hkind := Bool.or_eq_true_iff.mp (hfails e he)
      cases e <;> simp_all [Failure.isForeseen, Failure.misreads, Failure.declines]
    _ ↔ ∃ options, source.resolve d = .ok options ∧ d.Misleads options := by
      rw [houtcome, misread_bind]
      refine (or_iff_right (not_misread (source.declines_of_resolve d) fun e he => ?_)).trans ?_
      · cases e <;> first | rfl | cases he
      · refine exists_congr fun options => and_congr_right fun ho => ?_
        rw [misread_bind, (hbuild options ho).2, Document.misleads_iff, exists_and_right, isOk_iff]

def Run.numberedProvider : Json := .object [
  ("datamodel", .object [("models", .list [])]),
  ("generators", .list [.object [("provider", .int 5)]])]

def Run.numberedClient : Document where
  models := []
  mappings := []
  generators := [⟨.str "", .int 5, []⟩]
  schemaPath := .null
  options := []

theorem misreads_generate_iff_numbered :
    (Document.ofJson Run.numberedProvider).outcome = .ok Run.numberedClient ∧
    ∃ e, (generate MemorySink.sink .empty (Path.ofText "/work") Run.numberedClient "out"
      (.given []) .none).outcome = .error e ∧ e.isForeseen = false := by
  refine ⟨rfl, (misreads_generate_iff .empty "/work" "out" Run.numberedClient (.given [])
    fun options ho => ?_).2.mpr ⟨Options.default, rfl, ?_⟩⟩
  · cases ho
    decide +kernel
  · exact .provider (by decide) ⟨.str "", .int 5, []⟩ (List.mem_singleton.mpr rfl) rfl

end RouterLayer
