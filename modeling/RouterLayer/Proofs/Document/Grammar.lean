import Mathlib.Data.List.Nodup
import RouterLayer.Proofs.Document.Unguarded
import RouterLayer.Proofs.Json.Keyed
import RouterLayer.Proofs.Visibility

set_option autoImplicit false

namespace RouterLayer

namespace Json

def isObject : Json → Bool
  | .object _ => true
  | _ => false

def isList : Json → Bool
  | .list _ => true
  | _ => false

theorem isList_iff {value : Json} : value.isList = true ↔ ∃ items, value = .list items := by
  cases value <;> simp [isList]

theorem get_of_isVoid {value : Json} (h : value.isVoid = true) (key : Text) :
    value.get key = .null := by
  cases value with
  | object members =>
    rw [isVoid, List.isEmpty_iff] at h
    rw [h]
    rfl
  | _ => rfl

theorem find?_of_isVoid_get {value : Json} {key : Text} (h : (value.get key).isVoid = false) :
    OrderedMap.find? value.members key = some (value.get key) := by
  unfold Json.get member at h ⊢
  cases hfound : OrderedMap.find? value.members key with
  | none =>
    rw [hfound] at h
    cases h
  | some found => rfl

theorem items_of_isVoid {value : Json} (h : value.isVoid = true) : value.items = [] := by
  cases value with
  | list items => exact List.isEmpty_iff.mp h
  | _ => rfl

theorem Keyed.nodup_keys {value : Json} (h : value.Keyed) :
    (OrderedMap.keys value.members).Nodup := by
  cases h with
  | object nodup _ => exact nodup
  | _ => exact List.nodup_nil

theorem Keyed.get {value : Json} (h : value.Keyed) (key : Text) : (value.get key).Keyed := by
  have hmembers := h.nodup_keys
  unfold Json.get member
  cases hfound : OrderedMap.find? value.members key with
  | none => exact .null
  | some found =>
    have hmem := (OrderedMap.find?_eq_some hmembers).mp hfound
    cases h with
    | object _ each => exact each _ hmem
    | _ => cases hmem

theorem Keyed.items {value : Json} (h : value.Keyed) : ∀ item ∈ value.items, item.Keyed := by
  cases h with
  | list each => exact each
  | _ => exact List.forall_mem_nil _

end Json

namespace Written

/-! ### The form of a document and of its parts -/

/-- A value that stands for nothing, or a list all of whose items are of a form. -/
def Listed (form : Json → Prop) (value : Json) : Prop :=
  value.isVoid = true ∨ value.isList = true ∧ ∀ item ∈ value.items, form item

@[simp] theorem listed_list {form : Json → Prop} {items : List Json} :
    Listed form (.list items) ↔ ∀ item ∈ items, form item := by
  refine ⟨fun h => ?_, fun h => .inr ⟨rfl, h⟩⟩
  rcases h with hvoid | ⟨-, h⟩
  · rw [List.isEmpty_iff.mp hvoid]
    exact List.forall_mem_nil _
  · exact h

structure IsField (raw : Json) : Prop where
  object : raw.isObject = true
  named : (raw.get "name").isVoid = false

structure IsModel (raw : Json) : Prop where
  object : raw.isObject = true
  text : (raw.get "name").isText = true
  named : (raw.get "name").isVoid = false
  fields : Listed IsField (raw.get "fields")

structure IsMapping (raw : Json) : Prop where
  object : raw.isObject = true
  named : (raw.get "model").isVoid = false

structure IsGenerator (raw : Json) : Prop where
  object : raw.isObject = true
  features : (raw.get "previewFeatures").isVoid = true ∨
    (raw.get "previewFeatures").isText = true ∨ (raw.get "previewFeatures").isList = true ∨
    (raw.get "previewFeatures").isObject = true

structure IsDocument (raw : Json) : Prop where
  object : raw.isObject = true
  datamodel : (raw.get "datamodel").isObject = true
  modelList : ((raw.get "datamodel").get "models").isList = true
  models : ∀ model ∈ Written.models raw, IsModel model
  distinct : ((Written.models raw).map (·.get "name")).Nodup
  mappings : (raw.get "mappings").isVoid = true ∨ (raw.get "mappings").isObject = true ∧
    Listed IsMapping ((raw.get "mappings").get "modelOperations")
  generators : Listed IsGenerator (raw.get "generators")
  options : (raw.get "config").isVoid = true ∨ (raw.get "config").isObject = true

def NamedByTexts (raw : Json) : Prop :=
  ∀ model ∈ models raw, ∀ name ∈ OrderedMap.find? model.members "name", name.isText = true

/-! ### What is read from a part -/

def IsOperation (key : Text) : Prop := key ∈ Operation.all.map Operation.name

instance : DecidablePred IsOperation := fun key =>
  inferInstanceAs (Decidable (key ∈ Operation.all.map Operation.name))

theorem isOperation_name (o : Operation) : IsOperation o.name :=
  List.mem_map_of_mem (Operation.mem_all o)

structure FieldFrom (raw : Json) (f : Field) : Prop where
  name : f.name = raw.get "name"
  kind : f.kind = Json.memberOr raw.members "kind" (.str "scalar")
  type : f.type = Json.memberOr raw.members "type" (.str "String")
  isList : f.isList = Json.memberOr raw.members "isList" (.bool false)
  isRequired : f.isRequired = Json.memberOr raw.members "isRequired" (.bool true)

structure ModelFrom (raw : Json) (m : Model) : Prop where
  name : m.name = raw.get "name"
  documentation : m.documentation = raw.get "documentation"
  fields : List.Forall₂ FieldFrom (raw.get "fields").items m.fields

structure MappingFrom (raw : Json) (m : OperationMapping) : Prop where
  model : m.model = raw.get "model"
  operations : (m.operations.map fun p => (p.1.name, p.2)) =
    raw.members.filter fun e => decide (IsOperation e.1)

structure GeneratorFrom (raw : Json) (g : GeneratorDeclaration) : Prop where
  name : g.name = Json.memberOr raw.members "name" (.str [])
  provider : g.provider = Document.providerOf (Json.memberOr raw.members "provider" (.str []))
  features : Document.elements (raw.get "previewFeatures") = .ok g.previewFeatures

structure DocumentFrom (raw : Json) (d : Document) : Prop where
  models : List.Forall₂ ModelFrom (Written.models raw) d.models
  mappings : List.Forall₂ MappingFrom (Written.mappings raw) d.mappings
  generators : List.Forall₂ GeneratorFrom (Written.generators raw) d.generators
  schemaPath : d.schemaPath = raw.get "schemaPath"
  options : d.options = (raw.get "config").members

theorem map_name_operations (entry : Json) :
    ((operations entry).map fun p => (p.1.name, p.2)) =
      entry.members.filter fun e => decide (IsOperation e.1) := by
  unfold operations
  induction entry.members with
  | nil => rfl
  | cons e rest ih =>
    obtain ⟨key, value⟩ := e
    cases hkey : Operation.ofName? key with
    | none =>
      have hother : ¬IsOperation key := by
        intro h
        obtain ⟨o, -, rfl⟩ := List.mem_map.mp h
        rw [Operation.ofName?_name] at hkey
        cases hkey
      simp [hkey, hother, ih]
    | some o =>
      obtain rfl := Operation.ofName?_eq_some.mp hkey
      simp [hkey, isOperation_name, ih]

theorem MappingFrom.nodup_operations {entry : Json} {m : OperationMapping}
    (h : MappingFrom entry m) (hkeys : (OrderedMap.keys entry.members).Nodup) :
    (m.operations.map (·.1)).Nodup := by
  have hnames : (m.operations.map (·.1)).map Operation.name =
      (entry.members.filter fun e => decide (IsOperation e.1)).map (·.1) := by
    rw [← h.operations, List.map_map, List.map_map]
    rfl
  refine List.Nodup.of_map Operation.name ?_
  rw [hnames]
  exact hkeys.sublist (List.filter_sublist.map _)

end Written

namespace Document

open Written

variable {raw : Json} {members : List (Text × Json)} {key : Text}

/-! ### Acceptance -/

theorem isOk_objectAt : (objectAt members key).isOk = true ↔
    ((Json.object members).get key).isVoid = true ∨
      ((Json.object members).get key).isObject = true := by
  change _ ↔ (Json.member members key).isVoid = true ∨ (Json.member members key).isObject = true
  unfold objectAt
  cases Json.member members key with
  | object found => simp [Json.isObject, Except.isOk, Except.toBool]
  | _ =>
    dsimp only
    split
    · next hvoid => simp [hvoid, Except.isOk, Except.toBool]
    · next hvoid => simp [hvoid, Json.isObject, fault, Except.isOk, Except.toBool]

/-- The parts of a value are all of a form that no text is of: then the value is a list, since the
parts of a text or of an object are texts. -/
theorem elements_eq_ok_iff {form : Json → Prop} (htext : ∀ s, ¬form (.str s)) {value : Json}
    {parts : List Json} : (elements value = .ok parts ∧ ∀ part ∈ parts, form part) ↔
      Listed form value ∧ parts = value.items := by
  unfold Listed elements
  by_cases hvoid : value.isVoid = true
  · rw [if_pos hvoid, Json.items_of_isVoid hvoid]
    constructor
    · rintro ⟨⟨⟩, -⟩
      exact ⟨.inl hvoid, rfl⟩
    · rintro ⟨-, rfl⟩
      exact ⟨rfl, List.forall_mem_nil _⟩
  · rw [if_neg hvoid, or_iff_right hvoid]
    cases value with
    | list items =>
      constructor
      · rintro ⟨⟨⟩, h⟩
        exact ⟨⟨rfl, h⟩, rfl⟩
      · rintro ⟨⟨-, h⟩, rfl⟩
        exact ⟨rfl, h⟩
    | str s =>
      refine iff_of_false (fun ⟨hparts, h⟩ => ?_) fun h => Bool.false_ne_true h.1.1
      cases s with
      | nil => exact hvoid rfl
      | cons c s =>
        cases hparts
        exact htext _ (h _ List.mem_cons_self)
    | object members =>
      refine iff_of_false (fun ⟨hparts, h⟩ => ?_) fun h => Bool.false_ne_true h.1.1
      cases members with
      | nil => exact hvoid rfl
      | cons m members =>
        cases hparts
        exact htext _ (h _ List.mem_cons_self)
    | _ => exact iff_of_false (fun h => by cases h.1) fun h => Bool.false_ne_true h.1.1

theorem exists_elements_iff {form : Json → Prop} (htext : ∀ s, ¬form (.str s)) {value : Json} :
    (∃ parts, elements value = .ok parts ∧ ∀ part ∈ parts, form part) ↔ Listed form value := by
  simp only [elements_eq_ok_iff htext, exists_and_left, exists_eq, and_true]

theorem isOk_unlessVoid {α : Type} {value : Json} {f : Fault} {x : Except Failure α} :
    (if value.isVoid then fault f else x).isOk = true ↔ value.isVoid = false ∧ x.isOk = true := by
  cases value.isVoid with
  | true => exact iff_of_false Bool.false_ne_true fun h => Bool.false_ne_true h.1.symm
  | false => exact (and_iff_right rfl).symm

theorem isOk_readField (model : Json) : (readField model raw).isOk = true ↔ IsField raw := by
  cases raw with
  | object members => exact isOk_unlessVoid.trans ⟨fun h => ⟨rfl, h.1⟩, fun h => ⟨h.named, rfl⟩⟩
  | _ => exact iff_of_false Bool.false_ne_true fun h => Bool.false_ne_true h.object

theorem isOk_readModel
    (hname : ∀ name ∈ OrderedMap.find? raw.members "name", name.isText = true) :
    (readModel raw).isOk = true ↔ IsModel raw := by
  cases raw with
  | object members =>
    refine isOk_unlessVoid.trans ?_
    simp only [isOk_bind, isOk_return, isOk_mapM, isOk_readField]
    rw [exists_elements_iff fun _ h => Bool.false_ne_true h.object]
    constructor
    · rintro ⟨hnamed, hfields⟩
      exact ⟨rfl, hname _ (Json.find?_of_isVoid_get hnamed), hnamed, hfields⟩
    · intro h
      exact ⟨h.named, h.fields⟩
  | _ => exact iff_of_false Bool.false_ne_true fun h => Bool.false_ne_true h.object

/-- A text equals none but itself, so its occurrences are those that are counted. -/
theorem isOk_checkDistinct {names : List Json} (htext : ∀ name ∈ names, name.isText = true) :
    (checkDistinct names).isOk = true ↔ names.Nodup := by
  have hcount : ∀ name ∈ names, names.countP name.same = names.count name := by
    intro name hmem
    obtain ⟨s, rfl⟩ : ∃ s, name = .str s := by
      have h := htext name hmem
      cases name with
      | str s => exact ⟨s, rfl⟩
      | _ => cases h
    exact List.countP_congr fun other _ => by rw [Json.same_str, beq_eq_decide]
  have hrepeated : (checkDistinct names).isOk = true ↔
      (names.filter fun n => 1 < names.countP n.same) = [] := by
    unfold checkDistinct
    dsimp only
    split
    · next h => exact iff_of_true rfl (List.isEmpty_iff.mp h)
    · next h =>
      refine iff_of_false ?_ fun hnil => h (List.isEmpty_iff.mpr hnil)
      split <;> nofun
  rw [hrepeated, List.filter_eq_nil_iff, List.nodup_iff_count_le_one]
  constructor
  · intro h name
    by_cases hmem : name ∈ names
    · have hle := h name hmem
      rw [hcount name hmem] at hle
      simpa using hle
    · rw [List.count_eq_zero_of_not_mem hmem]
      exact Nat.zero_le 1
  · intro h name hmem
    rw [hcount name hmem]
    simpa using h name

theorem isOk_readModels : (readModels members).isOk = true ↔
    ((Json.object members).get "datamodel").isObject = true ∧
      (((Json.object members).get "datamodel").get "models").isList = true ∧
      ∀ model ∈ Written.models (.object members), (readModel model).isOk = true := by
  unfold readModels
  refine (isOk_seq (p := (((Json.object members).get "datamodel").get "models").isList = true ∧
    ∀ model ∈ Written.models (.object members), (readModel model).isOk = true)
    fun datamodel hd => ?_).trans ?_
  · have hmodels : Json.member datamodel "models" =
        ((Json.object members).get "datamodel").get "models" := by rw [objectAt_ok hd]; rfl
    unfold Written.models
    rw [hmodels]
    cases ((Json.object members).get "datamodel").get "models" with
    | list models => simp [isOk_mapM, Json.isList, Json.items]
    | _ => exact iff_of_false Bool.false_ne_true fun h => Bool.false_ne_true h.1
  · rw [isOk_objectAt]
    refine and_congr_left fun h => or_iff_right fun hvoid => ?_
    have hlist := h.1
    rw [Json.get_of_isVoid hvoid] at hlist
    cases hlist

theorem isOk_readMapping : (readMapping raw).outcome.isOk = true ↔ IsMapping raw := by
  cases raw with
  | object members =>
    unfold readMapping
    rw [apply_ite Logged.outcome]
    exact isOk_unlessVoid.trans ⟨fun h => ⟨rfl, h.1⟩, fun h => ⟨h.named, rfl⟩⟩
  | _ => exact iff_of_false Bool.false_ne_true fun h => Bool.false_ne_true h.object

theorem isOk_readMappings : (readMappings members).outcome.isOk = true ↔
    ((Json.object members).get "mappings").isVoid = true ∨
      ((Json.object members).get "mappings").isObject = true ∧
      Listed IsMapping (((Json.object members).get "mappings").get "modelOperations") := by
  unfold readMappings
  rw [Logged.outcome_seq, Logged.outcome_ofExcept]
  refine (isOk_seq (p := Listed IsMapping
    (((Json.object members).get "mappings").get "modelOperations")) fun found hf => ?_).trans ?_
  · have hentries : Json.member found "modelOperations" =
        ((Json.object members).get "mappings").get "modelOperations" := by
      rw [objectAt_ok hf]; rfl
    rw [hentries]
    split
    · next entries hlist =>
      rw [hlist, listed_list, Logged.outcome_forList, isOk_mapM]
      simp only [isOk_readMapping]
    · next value hlist =>
      split
      · next hvoid => exact iff_of_true rfl (.inl hvoid)
      · next hvoid =>
        refine iff_of_false Bool.false_ne_true (not_or.mpr ⟨hvoid, fun h => ?_⟩)
        obtain ⟨entries, hentries⟩ := Json.isList_iff.mp h.1
        exact hlist entries hentries
  · rw [isOk_objectAt, or_and_right]
    refine or_congr_left (and_iff_left_of_imp fun hvoid => ?_)
    rw [Json.get_of_isVoid hvoid]
    exact .inl rfl

theorem isOk_readGenerator : (readGenerator raw).isOk = true ↔ IsGenerator raw := by
  cases raw with
  | object members =>
    have helements : (elements (Json.member members "previewFeatures")).isOk = true ↔
        IsGenerator (.object members) := by
      refine Iff.trans ?_ ⟨fun h => ⟨rfl, h⟩, fun h => h.features⟩
      change _ ↔ (Json.member members "previewFeatures").isVoid = true ∨
        (Json.member members "previewFeatures").isText = true ∨
        (Json.member members "previewFeatures").isList = true ∨
        (Json.member members "previewFeatures").isObject = true
      unfold elements
      split
      · next hvoid => exact iff_of_true rfl (.inl hvoid)
      · next hvoid =>
        rw [or_iff_right hvoid]
        cases Json.member members "previewFeatures" <;>
          simp [Json.isText, Json.isList, Json.isObject, Except.isOk, Except.toBool]
    rw [← helements]
    unfold readGenerator
    rw [isOk_return]
  | _ => exact iff_of_false Bool.false_ne_true fun h => Bool.false_ne_true h.object

theorem isOk_readGenerators : (readGenerators members).isOk = true ↔
    Listed IsGenerator ((Json.object members).get "generators") := by
  unfold readGenerators
  simp only [isOk_bind, isOk_mapM, isOk_readGenerator]
  exact exists_elements_iff fun _ h => Bool.false_ne_true h.object

theorem names_of_readModels {models : List Model} (h : readModels members = .ok models) :
    models.map (·.name) = (Written.models (.object members)).map (·.get "name") :=
  map_eq_of_forall₂ (f := (·.get "name")) (g := Model.name)
    (fun _ _ hread => (readModel_ok hread).1) (readModels_ok h)

theorem isOk_ofJson (hnames : NamedByTexts raw) :
    (ofJson raw).outcome.isOk = true ↔ IsDocument raw := by
  cases raw with
  | object members =>
    have hmodel : ∀ model ∈ Written.models (.object members),
        (readModel model).isOk = true ↔ IsModel model :=
      fun model hmem => isOk_readModel (hnames model hmem)
    have hdistinct (models : List Model) (hread : readModels members = .ok models)
        (hmodels : ∀ model ∈ Written.models (.object members), IsModel model) :
        (checkDistinct (models.map (·.name))).isOk = true ↔
          ((Written.models (.object members)).map (·.get "name")).Nodup := by
      rw [names_of_readModels hread]
      exact isOk_checkDistinct (List.forall_mem_map.mpr fun model hmem => (hmodels model hmem).text)
    rw [outcome_ofJson]
    constructor
    · intro h
      obtain ⟨models, hread, h⟩ := isOk_bind.mp h
      obtain ⟨_, hchecked, h⟩ := isOk_bind.mp h
      obtain ⟨_, hmappings, h⟩ := isOk_bind.mp h
      obtain ⟨_, hgenerators, h⟩ := isOk_bind.mp h
      obtain ⟨hdatamodel, hlist, hmodels⟩ := isOk_readModels.mp (isOk_iff.mpr ⟨_, hread⟩)
      have hmodels := fun model hmem => (hmodel model hmem).mp (hmodels model hmem)
      rw [isOk_return] at h
      exact {
        object := rfl
        datamodel := hdatamodel
        modelList := hlist
        models := hmodels
        distinct := (hdistinct models hread hmodels).mp (isOk_iff.mpr ⟨_, hchecked⟩)
        mappings := isOk_readMappings.mp (isOk_iff.mpr ⟨_, hmappings⟩)
        generators := isOk_readGenerators.mp (isOk_iff.mpr ⟨_, hgenerators⟩)
        options := isOk_objectAt.mp h }
    · intro h
      obtain ⟨models, hread⟩ := exists_ok (isOk_readModels.mpr ⟨h.datamodel, h.modelList,
        fun model hmem => (hmodel model hmem).mpr (h.models model hmem)⟩)
      obtain ⟨_, hchecked⟩ := exists_ok ((hdistinct models hread h.models).mpr h.distinct)
      obtain ⟨_, hmappings⟩ := exists_ok (isOk_readMappings.mpr h.mappings)
      obtain ⟨_, hgenerators⟩ := exists_ok (isOk_readGenerators.mpr h.generators)
      have hoptions := isOk_objectAt.mpr h.options
      exact isOk_bind.mpr ⟨_, hread, isOk_bind.mpr ⟨_, hchecked, isOk_bind.mpr ⟨_, hmappings,
        isOk_bind.mpr ⟨_, hgenerators, (isOk_return _ _).trans hoptions⟩⟩⟩⟩
  | _ => exact iff_of_false Bool.false_ne_true fun h => Bool.false_ne_true h.object

/-! ### What is read -/

theorem fieldFrom_of_readField {model : Json} {f : Field} (h : readField model raw = .ok f) :
    FieldFrom raw f := by
  cases raw with
  | object members =>
    unfold readField at h
    dsimp only at h
    split at h
    · cases h
    · cases h
      exact ⟨rfl, rfl, rfl, rfl, rfl⟩
  | _ => cases h

theorem modelFrom_of_readModel {m : Model} (h : readModel raw = .ok m) : ModelFrom raw m := by
  obtain ⟨hname, hdocumentation⟩ := readModel_ok h
  refine ⟨hname, hdocumentation, ?_⟩
  cases raw with
  | object members =>
    unfold readModel at h
    dsimp only at h
    split at h
    · cases h
    · obtain ⟨parts, hparts, h⟩ := bind_eq_ok.mp h
      obtain ⟨fields, hfields, h⟩ := bind_eq_ok.mp h
      cases h
      have hform : ∀ part ∈ parts, IsField part := by
        simpa only [isOk_mapM, isOk_readField] using isOk_iff.mpr ⟨_, hfields⟩
      obtain ⟨-, rfl⟩ := (elements_eq_ok_iff fun _ h => Bool.false_ne_true h.object).mp ⟨hparts, hform⟩
      exact (mapM_eq_ok.mp hfields).imp fun _ _ => fieldFrom_of_readField
  | _ => cases h

theorem mappingFrom_of_readMapping {m : OperationMapping}
    (h : (readMapping raw).outcome = .ok m) : MappingFrom raw m := by
  obtain ⟨hmodel, hoperations⟩ := readMapping_ok h
  exact ⟨hmodel, hoperations ▸ map_name_operations raw⟩

theorem generatorFrom_of_readGenerator {g : GeneratorDeclaration}
    (h : readGenerator raw = .ok g) : GeneratorFrom raw g := by
  cases raw with
  | object members =>
    obtain ⟨features, hfeatures, h⟩ := bind_eq_ok.mp h
    cases h
    exact ⟨rfl, rfl, hfeatures⟩
  | _ => cases h

theorem generatorsFrom_of_readGenerators {generators : List GeneratorDeclaration}
    (h : readGenerators members = .ok generators) :
    List.Forall₂ GeneratorFrom (Written.generators (.object members)) generators := by
  obtain ⟨parts, hparts, h⟩ := bind_eq_ok.mp h
  have hform : ∀ part ∈ parts, IsGenerator part := by
    simpa only [isOk_mapM, isOk_readGenerator] using isOk_iff.mpr ⟨_, h⟩
  obtain ⟨-, rfl⟩ := (elements_eq_ok_iff fun _ h => Bool.false_ne_true h.object).mp ⟨hparts, hform⟩
  exact (mapM_eq_ok.mp h).imp fun _ _ => generatorFrom_of_readGenerator

theorem documentFrom_of_ofJson {d : Document} (h : (ofJson raw).outcome = .ok d) :
    DocumentFrom raw d := by
  obtain ⟨hmodels, hmappings⟩ := ofJson_ok h
  cases raw with
  | object members =>
    rw [outcome_ofJson] at h
    obtain ⟨models, -, h⟩ := bind_eq_ok.mp h
    obtain ⟨_, -, h⟩ := bind_eq_ok.mp h
    obtain ⟨mappings, -, h⟩ := bind_eq_ok.mp h
    obtain ⟨generators, hgenerators, h⟩ := bind_eq_ok.mp h
    obtain ⟨options, hoptions, h⟩ := bind_eq_ok.mp h
    cases h
    exact {
      models := hmodels.imp fun _ _ => modelFrom_of_readModel
      mappings := hmappings.imp fun _ _ => mappingFrom_of_readMapping
      generators := generatorsFrom_of_readGenerators hgenerators
      schemaPath := rfl
      options := objectAt_ok hoptions }
  | _ => cases h

theorem nodup_operations_of_ofJson {d : Document} (h : (ofJson raw).outcome = .ok d)
    (hkeys : ∀ entry ∈ Written.mappings raw, (OrderedMap.keys entry.members).Nodup) :
    ∀ m ∈ d.mappings, (m.operations.map (·.1)).Nodup := by
  intro m hm
  obtain ⟨entry, hentry, hread⟩ := (mem_iff_ok (ofJson_ok h).2).mp hm
  exact (mappingFrom_of_readMapping hread).nodup_operations (hkeys entry hentry)

/-- A document from a file declares no operation twice in one mapping: the reader of the file keeps
one member of each name. -/
theorem nodup_operations_of_load {path : Text} {source : Source} {d : Document}
    (h : (load path source).outcome = .ok d) :
    ∀ m ∈ d.mappings, (m.operations.map (·.1)).Nodup := by
  have hread (content : String) (h : (readText path content).outcome = .ok d) :
      ∀ m ∈ d.mappings, (m.operations.map (·.1)).Nodup := by
    unfold readText at h
    split at h
    · next value hvalue =>
      have hkeyed := Json.keyed_of_read hvalue
      exact nodup_operations_of_ofJson h fun entry hentry =>
        (((hkeyed.get "mappings").get "modelOperations").items entry hentry).nodup_keys
    all_goals cases h
  cases source with
  | bytes content =>
    unfold load at h
    dsimp only at h
    split at h
    · exact hread _ h
    · cases h
  | _ => cases h

/-- A value whose models are named by texts is read just when it has the form of a document. What is
read has the models, the mappings and the generators of the value one for one, and where no entry
repeats a key, no mapping has an operation twice. -/
theorem reads_grammar (hnames : NamedByTexts raw) :
    ((ofJson raw).outcome.isOk = true ↔ IsDocument raw) ∧
    ∀ d, (ofJson raw).outcome = .ok d → DocumentFrom raw d ∧
      ((∀ entry ∈ Written.mappings raw, (OrderedMap.keys entry.members).Nodup) →
        ∀ m ∈ d.mappings, (m.operations.map (·.1)).Nodup) :=
  ⟨isOk_ofJson hnames, fun _ h => ⟨documentFrom_of_ofJson h, nodup_operations_of_ofJson h⟩⟩

/-- Falsehoods and zeros in the places of lists and objects, a text in the place of a list of
features, and a number as the name of a mapped model. -/
def loose : Json := .object [
  ("datamodel", .object [("models", .list [
    .object [("name", .str "User"), ("fields", .bool false)],
    .object [("name", .str "Post"), ("fields", .list [.object [("name", .int 7)]])]])]),
  ("mappings", .object [("modelOperations", .list [
    .object [("model", .int 3), ("plural", .str "users"), ("findMany", .null)]])]),
  ("generators", .list [.object [("previewFeatures", .str "ab")]]),
  ("config", .int 0)]

theorem reads_grammar_loose : IsDocument loose ∧
    ∃ d, (ofJson loose).outcome = .ok d ∧ DocumentFrom loose d ∧
      ∀ m ∈ d.mappings, (m.operations.map (·.1)).Nodup := by
  have hnames : NamedByTexts loose := by
    unfold NamedByTexts
    decide
  have hkeys : ∀ entry ∈ Written.mappings loose, (OrderedMap.keys entry.members).Nodup := by decide
  obtain ⟨hform, hread⟩ := reads_grammar hnames
  obtain ⟨hfrom, hnodup⟩ := hread _ rfl
  exact ⟨hform.mp rfl, _, rfl, hfrom, hnodup hkeys⟩

end Document

end RouterLayer
