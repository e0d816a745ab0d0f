import RouterLayer.Proofs.Policy.Coverage

set_option autoImplicit false

namespace RouterLayer

namespace Written

def Declares (raw model : Json) (o : Operation) (value : Json) : Prop :=
  ∃ first, firstFor raw model = some first ∧ (o.name, value) ∈ first.members

end Written

namespace Document

variable {raw : Json} {d : Document}

theorem mem_declared (hd : (ofJson raw).outcome = .ok d) {name value : Json} {o : Operation} :
    (o, value) ∈ d.declared name ↔ Written.Declares raw name o value := by
  unfold Written.Declares
  rw [declared_ofJson hd]
  cases Written.firstFor raw name with
  | none => simp
  | some first => simp [Written.mem_operations]

theorem mem_chosen (hd : (ofJson raw).outcome = .ok d) {options : Options} {name value : Json}
    {o : Operation} : ⟨o, value⟩ ∈ d.chosen options name ↔
      Written.Declares raw name o value ∧ options.admits o = true := by
  rw [← mem_declared hd]
  unfold chosen
  simp [List.mem_filter]

end Document

/-- The operations of a model are those that its first entry declares, and after a run that returns,
the router of a visible model has a procedure for each of them that the allow-list admits, and no
other procedures. -/
theorem declares_generate {raw : Json} {d : Document} (hd : (Document.ofJson raw).outcome = .ok d) :
    (∀ name o value, (o, value) ∈ (d.mappingFor name).operations ↔
      Written.Declares raw name o value) ∧
    ∀ {σ : Type} (sink : Sink σ) (s : σ) (cwd : Path) (outputDir : Text) (source : OptionSource)
      (options : Options) (delegates : Delegates) (g : Generated),
      source.resolve d = .ok options →
      (generate sink s cwd d outputDir source delegates).outcome = .ok g →
      ∀ model, .str model ∈ Written.visibleNames raw →
        ∃ f ∈ g.sources, f.path = Naming.routerPath model ∧
          (∀ o value, Written.Declares raw (.str model) o value → options.admits o = true →
            ∃ q, Endpoint.procedure q ∈ f.endpoints ∧
              Router.procedure model options ⟨o, value⟩ = .ok q) ∧
          ∀ q, Endpoint.procedure q ∈ f.endpoints →
            ∃ o value, Written.Declares raw (.str model) o value ∧ options.admits o = true ∧
              Router.procedure model options ⟨o, value⟩ = .ok q := by
  refine ⟨fun name o value => Document.mem_declared hd, ?_⟩
  intro σ sink s cwd outputDir source options delegates g ho hg model hmodel
  obtain ⟨p, hfit, rfl⟩ := Run.generate_fit ho hg
  have hmodel : model ∈ p.models := by
    rw [(Run.Parts.visibleModels_ofJson hd hfit).1, List.mem_map] at hmodel
    obtain ⟨_, hmem, h⟩ := hmodel
    cases h
    exact hmem
  obtain ⟨f, hf, hfile⟩ := ok_of_mem hfit.routers hmodel
  obtain ⟨hprocedures, hall⟩ := Router.mem_endpoints_modelFile hfile
  have hsource : f ∈ p.sources :=
    Run.Parts.mem_sources.mpr (.inr (.inl hf))
  refine ⟨f, hsource, congrArg Outline.path (Router.outline_modelFile hfile), ?_, ?_⟩
  · intro o value hdeclares hadmits
    have hr := (Document.mem_chosen hd).mpr ⟨hdeclares, hadmits⟩
    obtain ⟨q, hq⟩ := hall _ hr
    exact ⟨q, (hprocedures q).mpr ⟨_, hr, hq⟩, hq⟩
  · intro q hq
    obtain ⟨⟨o, value⟩, hr, hq⟩ := (hprocedures q).mp hq
    obtain ⟨hdeclares, hadmits⟩ := (Document.mem_chosen hd).mp hr
    exact ⟨o, value, hdeclares, hadmits, hq⟩

def Written.doubled : Json := .object [
  ("generators", .list [.object [("provider", .str "prisma-client-js")]]),
  ("datamodel", .object [("models", .list [.object [("name", .str "User")]])]),
  ("mappings", .object [("modelOperations", .list [
    .object [("model", .str "User"), ("findMany", .str "findManyUser")],
    .object [("model", .str "User"), ("createOne", .str "createOneUser")]])])]

theorem declares_generate_doubled :
    ∃ d g, (Document.ofJson Written.doubled).outcome = .ok d ∧
      (generate MemorySink.sink .empty ⟨.single, ["work"]⟩ d "out" (.given []) .none).outcome =
        .ok g ∧
      (.findMany, .str "findManyUser") ∈ (d.mappingFor (.str "User")).operations ∧
      ∃ f ∈ g.sources, f.path = "routers/User.router.ts" ∧
        ∃ q, Endpoint.procedure q ∈ f.endpoints ∧ q.key = .str "findManyUser" := by
  have hrun : ((Document.ofJson Written.doubled).outcome >>= fun d =>
      (generate MemorySink.sink .empty ⟨.single, ["work"]⟩ d "out" (.given [])
        .none).outcome).isOk = true := by decide +kernel
  obtain ⟨g, hrun⟩ := exists_ok hrun
  obtain ⟨d, hd, hg⟩ := bind_eq_ok.mp hrun
  have ho : (OptionSource.given []).resolve d = .ok Options.default := rfl
  have hdeclares : Written.Declares Written.doubled (.str "User") .findMany (.str "findManyUser") :=
    ⟨_, rfl, by decide⟩
  have hvisible : .str "User" ∈ Written.visibleNames Written.doubled := by decide
  obtain ⟨hoperations, hrouters⟩ := declares_generate hd
  obtain ⟨f, hf, hpath, hprocedures, -⟩ := hrouters _ _ _ _ _ _ _ _ ho hg "User" hvisible
  obtain ⟨q, hq, hprocedure⟩ := hprocedures _ _ hdeclares (by decide)
  refine ⟨d, g, hd, hg, (hoperations _ _ _).mpr hdeclares, f, hf, hpath, q, hq, ?_⟩
  cases hprocedure
  rfl

/-- The second entry of a model is lost: neither the document nor a run on it has its operation. -/
theorem not_declares_generate :
    ∃ entry ∈ Written.mappings Written.doubled, entry.get "model" = .str "User" ∧
      (Operation.createOne.name, .str "createOneUser") ∈ entry.members ∧
      ∃ d g, (Document.ofJson Written.doubled).outcome = .ok d ∧
        (d.mappingFor (.str "User")).operations = [(.findMany, .str "findManyUser")] ∧
        (generate MemorySink.sink .empty ⟨.single, ["work"]⟩ d "out" (.given []) .none).outcome =
          .ok g ∧
        g.options.admits .createOne = true ∧
        g.routers = [⟨"User", [⟨.findMany, .str "findManyUser"⟩], notificationEvents⟩] := by
  have hrun : ((Document.ofJson Written.doubled).outcome >>= fun d =>
      (generate MemorySink.sink .empty ⟨.single, ["work"]⟩ d "out" (.given [])
        .none).outcome.map fun g => (g.options, g.routers)) = .ok (Options.default,
          [⟨"User", [⟨.findMany, .str "findManyUser"⟩], notificationEvents⟩]) := by decide +kernel
  obtain ⟨d, hd, hrun⟩ := bind_eq_ok.mp hrun
  obtain ⟨g, hg, hrun⟩ := map_eq_ok.mp hrun
  obtain ⟨hoptions, hrouters⟩ := Prod.mk.inj hrun
  have hoperations : (d.mappingFor (.str "User")).operations =
      [(.findMany, .str "findManyUser")] := by
    cases hd
    decide
  refine ⟨_, List.mem_cons_of_mem _ (List.mem_singleton_self _), rfl, by decide, d, g, hd,
    hoperations, hg, ?_, hrouters⟩
  rw [hoptions]
  decide

end RouterLayer
