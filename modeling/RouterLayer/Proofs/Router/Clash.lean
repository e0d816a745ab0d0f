import Mathlib.Data.List.Induction
import Mathlib.Data.List.Nodup
import RouterLayer.Proofs.OrderedMap
import RouterLayer.Proofs.Router.Files

/-!
Which models cannot be in one application router. Two models clash if they share a key or a router,
and the builder fails if two of the models with endpoints do; it reports the first one that clashes
with one before it (`appFile_clashes`). The order of the models decides what is reported but not
whether there is anything to report. Nothing depends on how plurals are formed, so the builder is
stated here for any way to form them.
-/

set_option autoImplicit false

namespace RouterLayer

theorem SourceFile.imports_addImports {imports : List Import} {f : SourceFile}
    (h : (f.imports ++ imports).Nodup) :
    (imports.foldl addImport f).imports = f.imports ++ imports := by
  induction imports generalizing f with
  | nil => simp
  | cons i imports ih =>
    have hi : i ∉ f.imports := fun hmem =>
      (List.nodup_append.mp h).2.2 i hmem i List.mem_cons_self rfl
    have hadd : f.addImport i = ⟨f.path, f.imports ++ [i], f.statements⟩ := by
      rw [addImport, List.contains_eq_mem, decide_eq_false hi, if_neg Bool.false_ne_true]
    rw [List.foldl_cons, hadd, ih (by simpa using h)]
    simp

theorem SourceFile.ofParts_of_nodup {imports : List Import} (h : imports.Nodup) (path : Text)
    (statements : List Statement) :
    ofParts path imports statements = ⟨path, imports, statements⟩ := by
  rw [ofParts, imports_addImports (f := empty path) h]
  rfl

theorem OrderedMap.find?_labelled {f : Text → Text} {models : List Text}
    (h : (models.map f).Nodup) {label model : Text} :
    OrderedMap.find? (models.map fun m => (f m, m)) label = some model ↔
      model ∈ models ∧ f model = label := by
  have hkeys : (OrderedMap.keys (models.map fun m => (f m, m))).Nodup := by
    rwa [OrderedMap.keys, List.map_map]
  rw [OrderedMap.find?_eq_some hkeys]
  simp only [List.mem_map, Prod.mk.injEq]
  constructor
  · rintro ⟨m, hm, hlabel, rfl⟩
    exact ⟨hm, hlabel⟩
  · rintro ⟨hm, hlabel⟩
    exact ⟨model, hm, hlabel, rfl⟩

theorem OrderedMap.find?_labelled_eq_none {f : Text → Text} {models : List Text}
    (h : (models.map f).Nodup) {label : Text} (hlabel : ∀ m ∈ models, f m ≠ label) :
    OrderedMap.find? (models.map fun m => (f m, m)) label = none := by
  rw [Option.eq_none_iff_forall_ne_some]
  intro m hm
  obtain ⟨hmem, hfound⟩ := (find?_labelled h).mp hm
  exact hlabel m hmem hfound

namespace Router

section Plural

variable (plural : Text → Text)

def symbolBy (model : Text) : Text := plural (Text.lower model) ++ "Router"

/-- The first model of a list whose key or router is taken stops the check. -/
def checkBy (c : Taken) : List Text → Except Failure Unit
  | [] => .ok ()
  | model :: rest =>
    match c.keys.find? (Naming.routerKey model), c.symbols.find? (symbolBy plural model) with
    | some first, _ => .error (.collision (Naming.routerKey model) first model)
    | none, some first => .error (.collision (symbolBy plural model) first model)
    | none, none =>
      checkBy ⟨c.keys.put (Naming.routerKey model) model,
        c.symbols.put (symbolBy plural model) model⟩ rest

def entryBy (model : Text) : RouterEntry := ⟨Naming.routerKey model, symbolBy plural model⟩

def importBy (model : Text) : Import :=
  Import.names ("./" ++ model ++ ".router") [symbolBy plural model]

def enlisted (routers : List ModelRouter) : List Text :=
  (routers.filter (·.hasEndpoints)).map (·.model)

def appFileBy (routers : List ModelRouter) : Except Failure SourceFile :=
  (checkBy plural Taken.empty (enlisted routers)).map fun _ =>
    .ofParts appPath
      (Import.names "./helpers/createRouter" ["t"] :: (enlisted routers).map (importBy plural))
      [.router "appRouter" [] ((enlisted routers).map (entryBy plural))]

def Clash (a b : Text) : Prop :=
  Naming.routerKey a = Naming.routerKey b ∨ symbolBy plural a = symbolBy plural b

def ClashFree (models : List Text) : Prop := models.Pairwise fun a b => ¬Clash plural a b

/-- What is reported of a list of models: the first one that clashes with one before it, that
earlier one, and the name that they share, which is the key if they share it. -/
inductive Reports (models : List Text) : Failure → Prop
  | key {front after : List Text} {first second : Text} :
      models = front ++ second :: after → ClashFree plural front → first ∈ front →
      Naming.routerKey first = Naming.routerKey second →
      Reports models (.collision (Naming.routerKey second) first second)
  | symbol {front after : List Text} {first second : Text} :
      models = front ++ second :: after → ClashFree plural front → first ∈ front →
      (∀ m ∈ front, Naming.routerKey m ≠ Naming.routerKey second) →
      symbolBy plural first = symbolBy plural second →
      Reports models (.collision (symbolBy plural second) first second)

end Plural

variable {plural : Text → Text} {front models : List Text}

theorem checkAll_eq (c : Taken) (models : List Text) :
    checkAll c models = checkBy Plural.plural c models := by
  induction models generalizing c with
  | nil => rfl
  | cons model rest ih =>
    have hsymbol : Naming.routerSymbol model = symbolBy Plural.plural model := rfl
    rw [checkAll, checkBy, Taken.check, hsymbol]
    cases c.keys.find? (Naming.routerKey model) with
    | some first => rfl
    | none =>
      cases c.symbols.find? (symbolBy Plural.plural model) with
      | some first => rfl
      | none => exact ih _

theorem appFile_eq : appFile = appFileBy Plural.plural := by
  funext routers
  unfold appFile appFileBy enlisted
  simp only [checkAll_eq, SourceFile.addStatement_addImports]
  cases checkBy Plural.plural Taken.empty _ <;> rfl

theorem clashFree_iff : ClashFree plural models ↔
    (models.map Naming.routerKey).Nodup ∧ (models.map (symbolBy plural)).Nodup := by
  simp only [ClashFree, Clash, not_or, List.pairwise_and_iff, List.Nodup, List.pairwise_map, ne_eq]

theorem clashFree_append_singleton {model : Text} : ClashFree plural (front ++ [model]) ↔
    ClashFree plural front ∧ ∀ m ∈ front, ¬Clash plural m model := by
  simp [ClashFree, List.pairwise_append]

def takenBy (plural : Text → Text) (models : List Text) : Taken :=
  ⟨models.map fun m => (Naming.routerKey m, m), models.map fun m => (symbolBy plural m, m)⟩

theorem checkBy_cons {model : Text} {rest : List Text} (h : ClashFree plural (front ++ [model])) :
    checkBy plural (takenBy plural front) (model :: rest) =
      checkBy plural (takenBy plural (front ++ [model])) rest := by
  have hfree (f : Text → Text) (hf : ((front ++ [model]).map f).Nodup) :
      OrderedMap.find? (front.map fun m => (f m, m)) (f model) = none ∧
        OrderedMap.put (front.map fun m => (f m, m)) (f model) model =
          (front ++ [model]).map fun m => (f m, m) := by
    rw [List.map_append, List.map_singleton, List.nodup_append] at hf
    have hnew : ∀ m ∈ front, f m ≠ f model := fun m hm =>
      hf.2.2 _ (List.mem_map_of_mem hm) _ (List.mem_singleton_self _)
    refine ⟨OrderedMap.find?_labelled_eq_none hf.1 hnew, ?_⟩
    rw [OrderedMap.put_of_not_mem model, List.map_append, List.map_singleton]
    intro hmem
    rw [OrderedMap.keys, List.map_map] at hmem
    obtain ⟨m, hm, hlabel⟩ := List.mem_map.mp hmem
    exact hnew m hm hlabel
  obtain ⟨hkeys, hsymbols⟩ := clashFree_iff.mp h
  obtain ⟨hkey, hputKey⟩ := hfree Naming.routerKey hkeys
  obtain ⟨hsymbol, hputSymbol⟩ := hfree (symbolBy plural) hsymbols
  simp only [checkBy, takenBy, hkey, hsymbol, hputKey, hputSymbol]

theorem checkBy_append {rest : List Text} (h : ClashFree plural (front ++ models)) :
    checkBy plural (takenBy plural front) (models ++ rest) =
      checkBy plural (takenBy plural (front ++ models)) rest := by
  induction models generalizing front with
  | nil => rw [List.nil_append, List.append_nil]
  | cons model models ih =>
    rw [List.append_cons] at h
    rw [List.cons_append, checkBy_cons (h.sublist (List.sublist_append_left _ _)), ih h,
      ← List.append_cons]

theorem checkBy_front {rest : List Text} (h : ClashFree plural front) :
    checkBy plural Taken.empty (front ++ rest) = checkBy plural (takenBy plural front) rest := by
  have hempty : takenBy plural [] = Taken.empty := rfl
  rw [← hempty, checkBy_append h, List.nil_append]

theorem checkBy_of_reports {e : Failure} (h : Reports plural models e) :
    checkBy plural Taken.empty models = .error e := by
  cases h with
  | @key front after first second hmodels hfree hfirst hkey =>
    have hfound : (takenBy plural front).keys.find? (Naming.routerKey second) = some first :=
      (OrderedMap.find?_labelled (clashFree_iff.mp hfree).1).mpr ⟨hfirst, hkey⟩
    rw [hmodels, checkBy_front hfree, checkBy, hfound]
  | @symbol front after first second hmodels hfree hfirst hkeys hsymbol =>
    have hnew : (takenBy plural front).keys.find? (Naming.routerKey second) = none :=
      OrderedMap.find?_labelled_eq_none (clashFree_iff.mp hfree).1 hkeys
    have hfound : (takenBy plural front).symbols.find? (symbolBy plural second) = some first :=
      (OrderedMap.find?_labelled (clashFree_iff.mp hfree).2).mpr ⟨hfirst, hsymbol⟩
    rw [hmodels, checkBy_front hfree, checkBy, hnew, hfound]

theorem exists_reports_of_clash {first second : Text} {after : List Text}
    (hfree : ClashFree plural front) (hfirst : first ∈ front) (hclash : Clash plural first second) :
    ∃ e, Reports plural (front ++ second :: after) e := by
  by_cases hkeys : ∀ m ∈ front, Naming.routerKey m ≠ Naming.routerKey second
  · exact ⟨_, .symbol rfl hfree hfirst hkeys (hclash.resolve_left (hkeys first hfirst))⟩
  · push Not at hkeys
    obtain ⟨m, hm, hkey⟩ := hkeys
    exact ⟨_, .key rfl hfree hm hkey⟩

theorem exists_reports (h : ¬ClashFree plural models) : ∃ e, Reports plural models e := by
  -- the longest part without a clash is looked for from the end of the list
  have hpart (front after : List Text) (h : ¬ClashFree plural front) :
      ∃ e, Reports plural (front ++ after) e := by
    induction front using List.reverseRecOn generalizing after with
    | nil => exact absurd List.Pairwise.nil h
    | append_singleton front model ih =>
      rw [List.append_assoc, List.singleton_append]
      by_cases hfree : ClashFree plural front
      · rw [clashFree_append_singleton, not_and] at h
        push Not at h
        obtain ⟨first, hfirst, hclash⟩ := h hfree
        exact exists_reports_of_clash hfree hfirst hclash
      · exact ih (model :: after) hfree
  simpa using hpart models [] h

theorem checkBy_eq_ok : checkBy plural Taken.empty models = .ok () ↔ ClashFree plural models := by
  constructor
  · intro hok
    by_contra h
    obtain ⟨e, he⟩ := exists_reports h
    rw [checkBy_of_reports he] at hok
    cases hok
  · intro h
    rw [← List.append_nil models, checkBy_front h, checkBy]

theorem checkBy_eq_error {e : Failure} :
    checkBy plural Taken.empty models = .error e ↔ Reports plural models e := by
  refine ⟨fun herror => ?_, checkBy_of_reports⟩
  have h : ¬ClashFree plural models := fun h => by
    rw [checkBy_eq_ok.mpr h] at herror
    cases herror
  obtain ⟨e', he'⟩ := exists_reports h
  rw [checkBy_of_reports he'] at herror
  cases herror
  exact he'

theorem nodup_imports (h : ClashFree plural models) :
    (Import.names "./helpers/createRouter" ["t"] :: models.map (importBy plural)).Nodup := by
  have hsymbols := (clashFree_iff.mp h).2
  refine List.nodup_cons.mpr ⟨fun hmem => ?_, ?_⟩
  · -- the module of a router ends in a way in which that of the helper does not
    obtain ⟨model, -, hmodel⟩ := List.mem_map.mp hmem
    have hends : (".router" : Text) <:+ (importBy plural model).module := List.suffix_append _ _
    rw [hmodel] at hends
    exact absurd hends (by decide)
  · refine List.Nodup.of_map Import.named ?_
    have hnamed : (models.map (importBy plural)).map Import.named =
        (models.map (symbolBy plural)).map ([·]) := by
      simp only [List.map_map]
      rfl
    rw [hnamed]
    exact hsymbols.map fun _ _ => List.head_eq_of_cons_eq

theorem appFileBy_eq_ok {routers : List ModelRouter} {f : SourceFile}
    (h : appFileBy plural routers = .ok f) : ClashFree plural (enlisted routers) ∧
      f = ⟨appPath,
        Import.names "./helpers/createRouter" ["t"] :: (enlisted routers).map (importBy plural),
        [.router "appRouter" [] ((enlisted routers).map (entryBy plural))]⟩ := by
  obtain ⟨⟨⟩, hcheck, rfl⟩ := map_eq_ok.mp h
  have hfree := checkBy_eq_ok.mp hcheck
  exact ⟨hfree, SourceFile.ofParts_of_nodup (nodup_imports hfree) _ _⟩

theorem exists_error_iff {routers : List ModelRouter} :
    (∃ e, appFileBy plural routers = .error e) ↔ ¬ClashFree plural (enlisted routers) := by
  rw [← checkBy_eq_ok, appFileBy]
  cases checkBy plural Taken.empty (enlisted routers) <;> simp [Except.map]

theorem clashFree_perm {others : List Text} (h : others.Perm models) :
    ClashFree plural others ↔ ClashFree plural models :=
  h.pairwise_iff fun hclash hsymm => hclash (hsymm.imp Eq.symm Eq.symm)

/-- What becomes of a list of model routers, for any way to form plurals. -/
structure Composes (plural : Text → Text) (routers : List ModelRouter) : Prop where
  fails_iff : (∃ e, appFileBy plural routers = .error e) ↔
    ∃ r s, [r, s].Sublist (routers.filter (·.hasEndpoints)) ∧ Clash plural r.model s.model
  reports : ∀ e, appFileBy plural routers = .error e ↔ Reports plural (enlisted routers) e
  composed : ∀ f, appFileBy plural routers = .ok f →
    f.imports =
      Import.names "./helpers/createRouter" ["t"] :: (enlisted routers).map (importBy plural) ∧
    f.statements = [.router "appRouter" [] ((enlisted routers).map (entryBy plural))] ∧
    ((enlisted routers).map Naming.routerKey).Nodup ∧
    ((enlisted routers).map (symbolBy plural)).Nodup
  any_order : ∀ others : List ModelRouter, others.Perm routers →
    ((∃ e, appFileBy plural others = .error e) ↔ ∃ e, appFileBy plural routers = .error e)

/-- The builder fails exactly if two of its models with endpoints clash, in whatever order they
come. It reports the first one that clashes with one before it; otherwise every model with
endpoints has an import and an entry of its own. -/
theorem appFile_clashes : appFile = appFileBy Plural.plural ∧
    ∀ (plural : Text → Text) (routers : List ModelRouter), Composes plural routers := by
  refine ⟨appFile_eq, fun plural routers => ⟨?_, fun e => ?_, fun f hf => ?_, fun others h => ?_⟩⟩
  · rw [exists_error_iff, ClashFree, enlisted, List.pairwise_map, List.pairwise_iff_forall_sublist]
    push Not
    rfl
  · rw [appFileBy, map_eq_error, checkBy_eq_error]
  · obtain ⟨hfree, rfl⟩ := appFileBy_eq_ok hf
    exact ⟨rfl, rfl, clashFree_iff.mp hfree⟩
  · rw [exists_error_iff, exists_error_iff]
    exact not_congr (clashFree_perm ((h.filter _).map _))

/-- The plural of a name can be the name of another model. The model without endpoints clashes with
none, and of the two clashes the earlier one is reported. -/
theorem appFile_clashes_people :
    let routers : List ModelRouter := [⟨"Person", [], notificationEvents⟩, ⟨"PERSON", [], []⟩,
      ⟨"Post", [], notificationEvents⟩, ⟨"People", [], notificationEvents⟩,
      ⟨"POST", [], notificationEvents⟩]
    let failure : Failure := .collision "peopleRouter" "Person" "People"
    appFile routers = .error failure ∧ Reports Plural.plural (enlisted routers) failure ∧
      ∃ e, appFile routers.reverse = .error e := by
  intro routers failure
  have hfailed : appFile routers = .error failure := by decide +kernel
  obtain ⟨happ, hcomposes⟩ := appFile_clashes
  have h := hcomposes Plural.plural routers
  rw [happ] at hfailed ⊢
  exact ⟨hfailed, (h.reports failure).mp hfailed,
    (h.any_order _ routers.reverse_perm).mpr ⟨failure, hfailed⟩⟩

end Router

end RouterLayer
