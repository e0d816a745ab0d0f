import RouterLayer.Proofs.Run.AllowList

/-!
The channels of a run. A channel is the name of a model, a colon and an event without one, so it
tells both (`eventChannel_inj`), whatever the name is. So a procedure publishes where a subscription
listens exactly if both belong to one model and the operation makes the change that the subscription
is for (`channels_generate`).
-/

set_option autoImplicit false

namespace RouterLayer

theorem Naming.eventChannel_inj {model other event change : Text}
    (hevent : CodePoint.char ':' ∉ event) (hchange : CodePoint.char ':' ∉ change) :
    eventChannel model event = eventChannel other change ↔ model = other ∧ event = change := by
  constructor
  · intro h
    -- read from the end, the event ends at the first colon
    have hreverse : event.reverse ++ CodePoint.char ':' :: model.reverse =
        change.reverse ++ CodePoint.char ':' :: other.reverse := by
      have hrev := congrArg List.reverse h
      simpa [eventChannel, Text.ofString, Text.ofChars] using hrev
    have hcut : ∀ {event model : Text}, CodePoint.char ':' ∉ event →
        Text.cut? ':' (event.reverse ++ CodePoint.char ':' :: model.reverse) =
          some (event.reverse, model.reverse) := fun hevent =>
      Text.cut?_eq_some.mpr ⟨rfl, fun hmem => hevent (List.mem_reverse.mp hmem)⟩
    have hsame : Text.cut? ':' (event.reverse ++ CodePoint.char ':' :: model.reverse) =
        some (event.reverse, model.reverse) := hcut hevent
    rw [hreverse, hcut hchange] at hsame
    obtain ⟨hchanges, hmodels⟩ := Prod.mk.inj (Option.some.inj hsame)
    exact ⟨List.reverse_injective hmodels.symm, List.reverse_injective hchanges.symm⟩
  · rintro ⟨rfl, rfl⟩
    rfl

theorem Action.colon_not_mem_name (a : Action) : CodePoint.char ':' ∉ a.name := by
  cases a <;> decide

theorem colon_not_mem_event : ∀ event ∈ notificationEvents, CodePoint.char ':' ∉ event := by decide

def Operation.Makes (o : Operation) (event : Text) : Prop :=
  o = .createOne ∧ event = "create" ∨ o = .updateOne ∧ event = "update" ∨
    o = .deleteOne ∧ event = "delete"

theorem Operation.makes_iff (o : Operation) {event : Text} (hevent : event ∈ notificationEvents) :
    o.Makes event ↔ o.category = .mutation ∧ o.action.name = event := by
  simp only [notificationEvents, List.mem_cons, List.not_mem_nil, or_false] at hevent
  unfold Operation.Makes
  rcases hevent with rfl | rfl | rfl <;> cases o <;> decide

/-- A procedure publishes on a channel if its text emits there. -/
def Procedure.Publishes (p : Procedure) (channel : Text) : Prop :=
  filled p.eventChannel = some channel

theorem Router.publishes_procedureOf (model : Text) (options : Options) (o : Operation)
    (key name : Json) (channel : Text) :
    (procedureOf model options o key name).Publishes channel ↔
      o.category = .mutation ∧ channel = Naming.eventChannel model o.action.name := by
  have hne : (Naming.eventChannel model o.action.name).isEmpty = false := by
    simp [Naming.eventChannel, Text.ofString, Text.ofChars]
  unfold Procedure.Publishes procedureOf publishedChannel filled
  split
  · next hmutation =>
    rw [Option.filter_some, hne, Bool.not_false, if_pos rfl, Option.some_inj, eq_comm]
    exact (and_iff_right hmutation).symm
  · next hquery => simp [hquery]

theorem Router.publishes_subscription {model other event : Text} {options options' : Options}
    {o : Operation} {key name : Json} (hevent : event ∈ notificationEvents) :
    (procedureOf model options o key name).Publishes (subscription other event options').channel ↔
      model = other ∧ o.Makes event := by
  have hchannel : Naming.eventChannel model o.action.name = Naming.eventChannel other event ↔
      model = other ∧ o.action.name = event :=
    Naming.eventChannel_inj o.action.colon_not_mem_name (colon_not_mem_event event hevent)
  calc (procedureOf model options o key name).Publishes (Naming.eventChannel other event)
    _ ↔ o.category = .mutation ∧ Naming.eventChannel other event =
        Naming.eventChannel model o.action.name := publishes_procedureOf ..
    _ ↔ o.category = .mutation ∧ model = other ∧ o.action.name = event :=
      and_congr_right fun _ => eq_comm.trans hchannel
    _ ↔ model = other ∧ o.category = .mutation ∧ o.action.name = event := and_left_comm
    _ ↔ model = other ∧ o.Makes event := by rw [o.makes_iff hevent]

namespace Generated

/-- A procedure of the router of a model, with its operation. A file has the procedures in the order
of the operations that they stand for. -/
def Dispatches (g : Generated) (model : Text) (o : Operation) (p : Procedure) : Prop :=
  ∃ router ∈ g.routers, ∃ f ∈ g.sources, router.model = model ∧ f.path = Naming.routerPath model ∧
    ∃ r, (r, p) ∈ router.operations.zip f.procedures ∧ r.operation = o

def Listens (g : Generated) (model : Text) (s : Subscription) : Prop :=
  ∃ router ∈ g.routers, ∃ f ∈ g.sources, router.model = model ∧ f.path = Naming.routerPath model ∧
    s ∈ f.subscriptions

def subscriptions (g : Generated) : List Subscription := g.sources.flatMap (·.subscriptions)

def procedures (g : Generated) : List Procedure := g.sources.flatMap (·.procedures)

end Generated

namespace Run.Parts

variable {site : Router.Site} {d : Document} {options : Options} {p : Parts}

theorem file_of_router (h : p.Fit site d options) {router : ModelRouter} {f : SourceFile}
    {model : Text} (hrouter : router ∈ (p.generated d options).routers)
    (hf : f ∈ (p.generated d options).sources) (hmodel : router.model = model)
    (hpath : f.path = Naming.routerPath model) :
    model ∈ p.models ∧ router.operations = d.chosen options (.str model) ∧
      Router.modelFile site model (d.chosen options (.str model)) notificationEvents options =
        .ok f := by
  obtain ⟨model, hmem, rfl⟩ := List.mem_map.mp hrouter
  cases hmodel
  obtain ⟨f', hf', hfile⟩ := ok_of_mem h.routers hmem
  have hpath' : f'.path = Naming.routerPath model :=
    congrArg Outline.path (Router.outline_modelFile hfile)
  have hsource : f' ∈ p.sources := mem_sources.mpr (.inr (.inl hf'))
  have hsame : f = f' :=
    List.inj_on_of_nodup_map (nodup_paths h) hf hsource (hpath.trans hpath'.symm)
  exact ⟨hmem, rfl, hsame ▸ hfile⟩

theorem of_dispatches (h : p.Fit site d options) {model : Text} {o : Operation} {q : Procedure}
    (hq : (p.generated d options).Dispatches model o q) :
    ∃ key name, q = Router.procedureOf model options o key name := by
  obtain ⟨router, hrouter, f, hf, hmodel, hpath, r, hr, rfl⟩ := hq
  obtain ⟨-, hoperations, hfile⟩ := file_of_router h hrouter hf hmodel hpath
  rw [hoperations] at hr
  have hbuilt := (List.forall₂_iff_zip.mp (Router.endpoints_modelFile hfile).1).2 hr
  obtain ⟨key, _, rfl⟩ := map_eq_ok.mp hbuilt
  exact ⟨key, _, rfl⟩

theorem of_listens (h : p.Fit site d options) {model : Text} {s : Subscription}
    (hs : (p.generated d options).Listens model s) :
    ∃ event ∈ notificationEvents, s = Router.subscription model event options := by
  obtain ⟨router, hrouter, f, hf, hmodel, hpath, hs⟩ := hs
  obtain ⟨-, -, hfile⟩ := file_of_router h hrouter hf hmodel hpath
  rw [(Router.endpoints_modelFile hfile).2] at hs
  obtain ⟨event, hevent, rfl⟩ := List.mem_map.mp hs
  exact ⟨event, hevent, rfl⟩

theorem router_of_endpoint (h : p.Fit site d options) {f : SourceFile} (hf : f ∈ p.sources)
    {e : Endpoint} (he : e ∈ f.endpoints) : ∃ model ∈ p.models,
      f.path = Naming.routerPath model ∧
      Router.modelFile site model (d.chosen options (.str model)) notificationEvents options =
        .ok f := by
  obtain ⟨model, hmodel, hfile⟩ := (mem_iff_ok h.routers).mp (mem_routers_of_endpoint h hf he)
  exact ⟨model, hmodel, congrArg Outline.path (Router.outline_modelFile hfile), hfile⟩

theorem exists_dispatches (h : p.Fit site d options) {q : Procedure}
    (hq : q ∈ (p.generated d options).procedures) :
    ∃ model o, (p.generated d options).Dispatches model o q := by
  obtain ⟨f, hf, hq⟩ := List.mem_flatMap.mp hq
  obtain ⟨e, he, -⟩ := List.mem_filterMap.mp hq
  obtain ⟨model, hmodel, hpath, hfile⟩ := router_of_endpoint h hf he
  obtain ⟨hlength, -⟩ := List.forall₂_iff_zip.mp (Router.endpoints_modelFile hfile).1
  have hmem : q ∈ ((d.chosen options (.str model)).zip f.procedures).map Prod.snd := by
    rwa [List.map_snd_zip hlength.ge]
  obtain ⟨⟨r, q⟩, hr, rfl⟩ := List.mem_map.mp hmem
  exact ⟨model, r.operation, _, List.mem_map_of_mem hmodel, f, hf, rfl, hpath, r, hr, rfl⟩

theorem exists_listens (h : p.Fit site d options) {s : Subscription}
    (hs : s ∈ (p.generated d options).subscriptions) :
    ∃ model, (p.generated d options).Listens model s := by
  obtain ⟨f, hf, hs⟩ := List.mem_flatMap.mp hs
  obtain ⟨e, he, -⟩ := List.mem_filterMap.mp hs
  obtain ⟨model, hmodel, hpath, -⟩ := router_of_endpoint h hf he
  exact ⟨model, _, List.mem_map_of_mem hmodel, f, hf, rfl, hpath, hs⟩

theorem channels_subscriptions (h : p.Fit site d options) :
    (p.generated d options).subscriptions.map (·.channel) =
      p.models.flatMap fun model => notificationEvents.map (Naming.eventChannel model) := by
  have hnone : ∀ {f : SourceFile} {path entries}, f.outline = ⟨path, [], entries⟩ →
      f.subscriptions = [] := fun houtline => by
    rw [SourceFile.subscriptions, SourceFile.endpoints_eq_nil houtline]
    rfl
  have hshield : p.shield.toList.flatMap (·.subscriptions) = [] :=
    List.flatMap_eq_nil_iff.mpr fun f hf =>
      hnone (Policy.outline_policyFile ((shield_ok h).2 f (Option.mem_toList.mp hf)))
  have hrouters : p.routers.flatMap (·.subscriptions) = p.models.flatMap fun model =>
      notificationEvents.map (Router.subscription model · options) := by
    rw [List.flatMap_def, List.flatMap_def]
    congr 1
    refine map_eq_of_forall₂ (fun model f hf => ?_) h.routers
    exact (Router.endpoints_modelFile hf).2
  have hsources : (p.generated d options).subscriptions = p.routers.flatMap (·.subscriptions) := by
    simp only [Generated.subscriptions, generated, sources, List.flatMap_cons, List.flatMap_append,
      List.flatMap_nil, hshield, hnone (Router.outline_bootstrapFile h.bootstrap),
      hnone (Router.outline_appFile h.app), List.nil_append, List.append_nil]
  rw [hsources, hrouters, List.map_flatMap]
  rfl

theorem nodup_channels (h : p.Fit site d options) :
    ((p.generated d options).subscriptions.map (·.channel)).Nodup := by
  rw [channels_subscriptions h, List.nodup_flatMap]
  have hmodels : p.models.Nodup := List.Nodup.of_map _ (nodup_models h).1
  have hsame : ∀ {model other : Text} {event change}, event ∈ notificationEvents →
      change ∈ notificationEvents →
      Naming.eventChannel model event = Naming.eventChannel other change →
      model = other ∧ event = change := fun hevent hchange =>
    (Naming.eventChannel_inj (colon_not_mem_event _ hevent) (colon_not_mem_event _ hchange)).mp
  refine ⟨fun model _ => ?_, hmodels.imp fun hne channel hleft hright => ?_⟩
  · exact List.Nodup.map_on (fun event hevent change hchange heq => (hsame hevent hchange heq).2)
      (by decide)
  · obtain ⟨event, hevent, rfl⟩ := List.mem_map.mp hleft
    obtain ⟨change, hchange, heq⟩ := List.mem_map.mp hright
    exact hne (hsame hchange hevent heq).1.symm

end Run.Parts

/-- In a run that returns, a procedure publishes where a subscription listens exactly if they belong
to one model and the procedure makes the change of a single record that the subscription is for.
Each procedure and each subscription belongs to a model. A query publishes nowhere, a mutation in
one place, and no two subscriptions listen in the same one. -/
theorem channels_generate {σ : Type} (sink : Sink σ) (s : σ) (cwd : Path) (d : Document)
    (outputDir : Text) (source : OptionSource) (delegates : Delegates) (g : Generated)
    (hg : (generate sink s cwd d outputDir source delegates).outcome = .ok g) :
    (∀ model o p other t, g.Dispatches model o p → g.Listens other t →
      (p.Publishes t.channel ↔ model = other ∧ o.Makes t.key)) ∧
    (∀ p ∈ g.procedures, (∃ model o, g.Dispatches model o p) ∧
      ((p.category = .query ∧ ∀ channel, ¬p.Publishes channel) ∨
        (p.category = .mutation ∧ ∃! channel, p.Publishes channel))) ∧
    (∀ t ∈ g.subscriptions, ∃ model, g.Listens model t) ∧
    (g.subscriptions.map (·.channel)).Nodup := by
  obtain ⟨options, _, hbuild⟩ := Run.generate_ok _ _ _ _ _ _ _ hg
  obtain ⟨p, hfit, rfl⟩ := Run.build_ok hbuild
  refine ⟨fun model o q other t hq ht => ?_, fun q hq => ?_,
    fun t ht => Run.Parts.exists_listens hfit ht, Run.Parts.nodup_channels hfit⟩
  · obtain ⟨key, name, rfl⟩ := Run.Parts.of_dispatches hfit hq
    obtain ⟨event, hevent, rfl⟩ := Run.Parts.of_listens hfit ht
    exact Router.publishes_subscription hevent
  · obtain ⟨model, o, hdispatches⟩ := Run.Parts.exists_dispatches hfit hq
    refine ⟨⟨model, o, hdispatches⟩, ?_⟩
    obtain ⟨key, name, rfl⟩ := Run.Parts.of_dispatches hfit hdispatches
    have hcategory : (Router.procedureOf model options o key name).category = o.category := rfl
    simp only [Router.publishes_procedureOf, hcategory]
    cases ho : o.category with
    | query => exact .inl ⟨rfl, fun _ hpublishes => nomatch hpublishes.1⟩
    | mutation => exact .inr ⟨rfl, _, ⟨rfl, rfl⟩, fun _ hpublishes => hpublishes.2⟩
    | subscription => cases o <;> cases ho

/-- The name of one model is a channel of the other one. -/
def Run.crossing : Document where
  models := [⟨.str "a", [], .null⟩, ⟨.str "a:create", [], .null⟩]
  mappings := [⟨.str "a", [(.createOne, .null), (.upsertOne, .null), (.findMany, .null)]⟩,
    ⟨.str "a:create", [(.deleteOne, .null), (.deleteMany, .null)]⟩]
  generators := [⟨.str "client", .str "prisma-client-js", []⟩]
  schemaPath := .null
  options := []

theorem channels_generate_crossing :
    ∃ g, (generate MemorySink.sink .empty ⟨.single, ["work"]⟩ Run.crossing "out" .ofDocument
        .none).outcome = .ok g ∧
      g.procedures.map (·.eventChannel) = ([some "a:create", some "a:upsert", none,
        some "a:create:delete", some "a:create:deleteMany"] : List (Option Text)) ∧
      g.subscriptions.map (·.channel) = (["a:create", "a:update", "a:delete", "a:create:create",
        "a:create:update", "a:create:delete"] : List Text) ∧
      (g.subscriptions.map (·.channel)).Nodup ∧
      ∀ p ∈ g.procedures, p.category = .mutation → ∃! channel, p.Publishes channel := by
  have hrun : (generate MemorySink.sink .empty ⟨.single, ["work"]⟩ Run.crossing "out" .ofDocument
      .none).outcome.map (fun g => (g.procedures.map (·.eventChannel),
        g.subscriptions.map (·.channel))) =
      .ok ([some "a:create", some "a:upsert", none, some "a:create:delete",
        some "a:create:deleteMany"], ["a:create", "a:update", "a:delete", "a:create:create",
        "a:create:update", "a:create:delete"]) := by decide +kernel
  obtain ⟨g, hg, hsummary⟩ := map_eq_ok.mp hrun
  obtain ⟨hprocedures, hsubscriptions⟩ := Prod.mk.inj hsummary
  obtain ⟨-, hcategories, -, hnodup⟩ := channels_generate MemorySink.sink .empty
    ⟨.single, ["work"]⟩ Run.crossing "out" .ofDocument .none g hg
  refine ⟨g, hg, hprocedures, hsubscriptions, hnodup, fun p hp hmutation => ?_⟩
  obtain ⟨-, ⟨hquery, -⟩ | ⟨-, hunique⟩⟩ := hcategories p hp
  · exact absurd (hmutation.symm.trans hquery) nofun
  · exact hunique

end RouterLayer
