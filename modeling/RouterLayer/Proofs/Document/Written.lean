import RouterLayer.Attribute
import RouterLayer.Proofs.Outcome
import RouterLayer.Document

/-!
A document as it is written: what the JSON value says, looked at without checks and without the
types that reading gives to its parts. Main statement: whatever is read keeps the models and the
mappings of the written document, one for one and in their order (`ofJson_ok`).
-/

set_option autoImplicit false

namespace RouterLayer

namespace Json

def members : Json → List (Text × Json)
  | .object members => members
  | _ => []

def items : Json → List Json
  | .list items => items
  | _ => []

def get (value : Json) (key : Text) : Json := member value.members key

end Json

namespace Written

def models (raw : Json) : List Json := ((raw.get "datamodel").get "models").items

def mappings (raw : Json) : List Json := ((raw.get "mappings").get "modelOperations").items

def hides (model : Json) : Bool :=
  match model.get "documentation" with
  | .str s => (Attribute.readAll s).any (·.hides)
  | _ => false

def visibleNames (raw : Json) : List Json :=
  ((models raw).filter fun model => !hides model).map (·.get "name")

def visibleModels (raw : Json) : List Text := (visibleNames raw).filterMap Document.textOf?

def mappingOf (raw : Json) (model : Text) : Json :=
  ((mappings raw).find? fun mapping => mapping.get "model" = .str model).getD .null

/-- The first mapping whose model is found equal to a value. -/
def firstFor (raw model : Json) : Option Json :=
  (mappings raw).find? fun mapping => model.finds (mapping.get "model")

def operations (mapping : Json) : List (Operation × Json) :=
  mapping.members.filterMap fun (m : Text × Json) =>
    (Operation.ofName? m.1).map fun o => (o, m.2)

theorem mem_operations {mapping value : Json} {o : Operation} :
    (o, value) ∈ operations mapping ↔ (o.name, value) ∈ mapping.members := by
  unfold operations
  simp only [List.mem_filterMap, Option.map_eq_some_iff, Operation.ofName?_eq_some, Prod.mk.injEq]
  constructor
  · rintro ⟨⟨_, _⟩, hmem, _, rfl, rfl, rfl⟩
    exact hmem
  · intro hmem
    exact ⟨_, hmem, o, rfl, rfl, rfl⟩

/-- Three models, of which one is hidden and one has no mapping. The mappings have a key that is no
operation, an operation that throws, and a second entry for the same model. -/
def hazards : Json := .object [
  ("generators", .list [.object [("provider", .str "prisma-client-js")]]),
  ("datamodel", .object [("models", .list [
    .object [("name", .str "Volcanoes")],
    .object [("name", .str "Secret"), ("documentation", .str "@@Gen.model(hide: true)")],
    .object [("name", .str "Tornadoes"), ("documentation", .str "Not hidden.")]])]),
  ("mappings", .object [("modelOperations", .list [
    .object [("model", .str "Volcanoes"), ("plural", .str "volcanoes"),
      ("findUniqueOrThrow", .str "findUniqueVolcanoesOrThrow"), ("count", .str "countVolcanoes"),
      ("createOne", .str "createOneVolcanoes")],
    .object [("model", .str "Secret"), ("findMany", .str "findManySecret")],
    .object [("model", .str "Volcanoes"), ("findMany", .str "findManyVolcanoes")]])])]

end Written

namespace Document

theorem objectAt_ok {raw : List (Text × Json)} {key : Text} {members : List (Text × Json)}
    (h : objectAt raw key = .ok members) : members = ((Json.object raw).get key).members := by
  have hg : (Json.object raw).get key = Json.member raw key := rfl
  rw [hg]
  unfold objectAt at h
  split at h
  · next ms hm => cases h; rw [hm, Json.members]
  · next value hm =>
    split at h
    · cases h
      cases hv : Json.member raw key with
      | object ms => exact absurd hv (hm ms)
      | _ => rfl
    · cases h

theorem readModel_ok {raw : Json} {m : Model} (h : readModel raw = .ok m) :
    m.name = raw.get "name" ∧ m.documentation = raw.get "documentation" := by
  cases raw with
  | object members =>
    unfold readModel at h
    dsimp only at h
    split at h
    · cases h
    · obtain ⟨_, _, h⟩ := bind_eq_ok.mp h
      obtain ⟨fields, _, h⟩ := bind_eq_ok.mp h
      cases h
      exact ⟨rfl, rfl⟩
  | _ => cases h

theorem readModels_ok {raw : List (Text × Json)} {models : List Model}
    (h : readModels raw = .ok models) :
    List.Forall₂ (fun r m => readModel r = .ok m) (Written.models (.object raw)) models := by
  obtain ⟨datamodel, hd, h⟩ := bind_eq_ok.mp h
  have hg : Json.member datamodel "models" =
      ((Json.object raw).get "datamodel").get "models" := by
    rw [objectAt_ok hd]; rfl
  rw [hg] at h
  split at h
  · next items hi =>
    rw [Written.models, hi, Json.items]
    exact mapM_eq_ok.mp h
  · cases h

theorem operationsOf_eq (members : List (Text × Json)) :
    operationsOf members = Written.operations (.object members) := by
  have hn : Operation.ofName? "model" = none := by decide
  unfold operationsOf Written.operations
  congr 1
  funext m
  by_cases h : m.1 = "model"
  · rw [if_pos h, h, hn]; rfl
  · rw [if_neg h]

theorem readMapping_ok {raw : Json} {m : OperationMapping}
    (h : (readMapping raw).outcome = .ok m) :
    m.model = raw.get "model" ∧ m.operations = Written.operations raw := by
  cases raw with
  | object members =>
    unfold readMapping at h
    dsimp only at h
    split at h
    · cases h
    · cases h
      exact ⟨rfl, operationsOf_eq members⟩
  | _ => cases h

theorem readMappings_ok {raw : List (Text × Json)} {mappings : List OperationMapping}
    (h : (readMappings raw).outcome = .ok mappings) :
    List.Forall₂ (fun r m => (readMapping r).outcome = .ok m)
      (Written.mappings (.object raw)) mappings := by
  unfold readMappings at h
  rw [Logged.outcome_seq, Logged.outcome_ofExcept] at h
  obtain ⟨found, hs, h⟩ := bind_eq_ok.mp h
  have hg : Json.member found "modelOperations" =
      ((Json.object raw).get "mappings").get "modelOperations" := by
    rw [objectAt_ok hs]; rfl
  rw [hg] at h
  split at h
  · next entries he =>
    rw [Written.mappings, he, Json.items]
    rw [Logged.outcome_forList] at h
    exact mapM_eq_ok.mp h
  · next value hn =>
    split at h
    · cases h
      cases hv : ((Json.object raw).get "mappings").get "modelOperations" with
      | list entries => exact absurd hv (hn entries)
      | _ => rw [Written.mappings, hv]; exact .nil
    · cases h

/-- Reading neither loses nor adds nor moves a model or a mapping. -/
theorem ofJson_ok {raw : Json} {d : Document} (h : (ofJson raw).outcome = .ok d) :
    List.Forall₂ (fun r m => readModel r = .ok m) (Written.models raw) d.models ∧
    List.Forall₂ (fun r m => (readMapping r).outcome = .ok m) (Written.mappings raw)
      d.mappings := by
  cases raw with
  | object raw =>
    simp only [ofJson, Logged.outcome_seq, Logged.outcome_ofExcept, Logged.outcome_pure'] at h
    obtain ⟨models, hmodels, h⟩ := bind_eq_ok.mp h
    obtain ⟨_, _, h⟩ := bind_eq_ok.mp h
    obtain ⟨mappings, hmappings, h⟩ := bind_eq_ok.mp h
    obtain ⟨_, _, h⟩ := bind_eq_ok.mp h
    obtain ⟨_, _, h⟩ := bind_eq_ok.mp h
    cases h
    exact ⟨readModels_ok hmodels, readMappings_ok hmappings⟩
  | _ => cases h

end Document

end RouterLayer
