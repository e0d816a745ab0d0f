import RouterLayer.Proofs.Document.Written

/-!
What stops the reading of a document. Nearly every value of the wrong kind is reported as a fault of
the document. What is not reported comes from three sources (`load_eq_error_iff_unguarded`): bytes
that are no text, JSON beyond the limits of its reader, and the places where a value is taken apart
without a check, of which there are four (`Stumbles`, `ofJson_eq_error`).
-/

set_option autoImplicit false

namespace RouterLayer

def Json.isPartless : Json → Bool
  | .bool b => b
  | .int n => n != 0
  | .float x => !x.isZero
  | _ => false

def Written.generators (raw : Json) : List Json := (raw.get "generators").items

namespace Document

structure ReadsMappings (raw : Json) : Prop where
  models : ∃ models, readModels raw.members = .ok models ∧
    (checkDistinct (models.map (·.name))).isOk = true
  mappings : (readMappings raw.members).outcome.isOk = true

/-- Reading comes to a value that it takes apart although it is not of the kind for that: the fields
of a model, a name that two models have, the generators, or the features of a generator. -/
inductive Stumbles (raw : Json) : Prop
  | fields (model : Json) (reached : WalksTo readModel (Written.models raw) model)
      (named : (model.get "name").isVoid = false)
      (partless : (model.get "fields").isPartless = true)
  | names (models : List Model) (read : readModels raw.members = .ok models) (name : Json)
      (mem : name ∈ models.map (·.name)) (repeated : 1 < (models.map (·.name)).countP name.same)
      (other : name.isText = false)
  | generators (read : ReadsMappings raw) (partless : (raw.get "generators").isPartless = true)
  | features (read : ReadsMappings raw) (generator : Json)
      (reached : WalksTo readGenerator (Written.generators raw) generator)
      (partless : (generator.get "previewFeatures").isPartless = true)

inductive Unguarded : Source → Failure → Prop
  | undecodable {content : ByteArray} (h : String.fromUTF8? content = none) :
      Unguarded (.bytes content) .undecodable
  | longInteger {content : ByteArray} {text : String} {digits : Nat}
      (h : String.fromUTF8? content = some text)
      (read : Json.read (String.ofList (unifyLineEnds text.toList)) =
        .error (.integerTooLong digits)) :
      Unguarded (.bytes content) (.longInteger digits)
  | deepNesting {content : ByteArray} {text : String}
      (h : String.fromUTF8? content = some text)
      (read : Json.read (String.ofList (unifyLineEnds text.toList)) = .error .tooDeep) :
      Unguarded (.bytes content) .deepNesting
  | stumbles {content : ByteArray} {text : String} {raw : Json}
      (h : String.fromUTF8? content = some text)
      (read : Json.read (String.ofList (unifyLineEnds text.toList)) = .ok raw)
      (stumbles : Stumbles raw) : Unguarded (.bytes content) .wrongKind

theorem elements_eq_error {value : Json} {e : Failure} :
    elements value = .error e ↔ e = .wrongKind ∧ value.isPartless = true := by
  have hkind : (Except.error .wrongKind : Except Failure (List Json)) = .error e ↔
      e = .wrongKind := ⟨fun h => (Except.error.inj h).symm, fun h => h ▸ rfl⟩
  unfold elements
  cases value with
  | null => simp [Json.isVoid, Json.isPartless]
  | bool b => cases b <;> simp [Json.isVoid, Json.isPartless, hkind]
  | int n => by_cases h : n = 0 <;> simp [Json.isVoid, Json.isPartless, h, hkind]
  | float x => cases h : x.isZero <;> simp [Json.isVoid, Json.isPartless, h, hkind]
  | str s => cases s <;> simp [Json.isVoid, Json.isPartless]
  | list items => cases items <;> simp [Json.isVoid, Json.isPartless]
  | object members => cases members <;> simp [Json.isVoid, Json.isPartless]

theorem members_of_objectAt_error {raw : List (Text × Json)} {key : Text} {e : Failure}
    (h : objectAt raw key = .error e) : ((Json.object raw).get key).members = [] := by
  have hg : (Json.object raw).get key = Json.member raw key := rfl
  unfold objectAt at h
  rw [hg]
  split at h
  · cases h
  · next hm =>
    cases hv : Json.member raw key with
    | object members => exact absurd hv (hm members)
    | _ => rfl

theorem elements_ok {value : Json} {parts : List Json} (h : elements value = .ok parts) :
    parts = value.items ∨ ∀ part ∈ parts, part.isText = true := by
  unfold elements at h
  split at h
  · cases h; exact .inr fun _ h => nomatch h
  · split at h
    · cases h; exact .inl rfl
    · cases h
      exact .inr (List.forall_mem_map.mpr fun _ _ => rfl)
    · cases h
      exact .inr (List.forall_mem_map.mpr fun _ _ => rfl)
    · cases h

theorem mapM_textOf?_eq_none {names : List Json} :
    names.mapM textOf? = none ↔ ∃ name ∈ names, name.isText = false := by
  induction names with
  | nil => simp
  | cons name names ih =>
    cases name <;> cases h : names.mapM textOf? <;> simp_all [textOf?, Json.isText]

section

variable {e : Failure} (he : ∀ f, e ≠ .document f)
include he

theorem fault_ne_error {α : Type} (f : Fault) : (fault f : Except Failure α) ≠ .error e := by
  rintro ⟨⟩
  exact he f rfl

theorem objectAt_ne_error (raw : List (Text × Json)) (key : Text) :
    objectAt raw key ≠ .error e := by
  unfold objectAt
  split
  · nofun
  · split
    · nofun
    · exact fault_ne_error he _

theorem readField_ne_error (model raw : Json) : readField model raw ≠ .error e := by
  unfold readField
  split
  · split
    · exact fault_ne_error he _
    · nofun
  · exact fault_ne_error he _

theorem readModel_eq_error {raw : Json} : readModel raw = .error e ↔
    e = .wrongKind ∧ (raw.get "name").isVoid = false ∧ (raw.get "fields").isPartless = true := by
  cases raw with
  | object members =>
    let name := Json.member members "name"
    have hread (parts : List Json) : (do
        let fields ← parts.mapM (readField name)
        return (⟨name, fields, Json.member members "documentation"⟩ : Model)) ≠ .error e := by
      rw [ne_eq, bind_eq_error]
      rintro (h | ⟨_, _, h⟩)
      · obtain ⟨part, _, hpart⟩ := mapM_eq_error.mp h
        exact readField_ne_error he _ _ hpart
      · cases h
    change (if name.isVoid then fault (.modelUnnamed (.object members))
      else elements (Json.member members "fields") >>= fun parts => do
        let fields ← parts.mapM (readField name)
        return (⟨name, fields, Json.member members "documentation"⟩ : Model)) = _ ↔
      e = .wrongKind ∧ name.isVoid = false ∧ (Json.member members "fields").isPartless = true
    split
    · next h => simp [h, fault_ne_error he]
    · next h =>
      rw [bind_eq_error, or_iff_left fun ⟨parts, _, hp⟩ => hread parts hp, elements_eq_error]
      simp [h]
  | _ =>
    refine iff_of_false (fault_ne_error he _) ?_
    rintro ⟨_, h, _⟩
    cases h

theorem readModels_eq_error {raw : List (Text × Json)} : readModels raw = .error e ↔
    e = .wrongKind ∧ ∃ model, WalksTo readModel (Written.models (.object raw)) model ∧
      (model.get "name").isVoid = false ∧ (model.get "fields").isPartless = true := by
  have hwalk (models : List Json) : models.mapM readModel = .error e ↔
      e = .wrongKind ∧ ∃ model, WalksTo readModel models model ∧
        (model.get "name").isVoid = false ∧ (model.get "fields").isPartless = true := by
    rw [mapM_eq_error]
    simp only [readModel_eq_error he]
    exact ⟨fun ⟨m, hm, hkind, h⟩ => ⟨hkind, m, hm, h⟩, fun ⟨hkind, m, hm, h⟩ => ⟨m, hm, hkind, h⟩⟩
  rw [← hwalk]
  unfold readModels
  cases hd : objectAt raw "datamodel" with
  | error e' =>
    have hnone : Written.models (.object raw) = [] := by
      rw [Written.models, Json.get, members_of_objectAt_error hd]; rfl
    rw [hnone]
    refine iff_of_false (fun h => ?_) (by rintro ⟨⟩)
    exact objectAt_ne_error he raw "datamodel" (hd.trans (congrArg _ (Except.error.inj h)))
  | ok datamodel =>
    have hmodels : Json.member datamodel "models" =
        ((Json.object raw).get "datamodel").get "models" := by rw [objectAt_ok hd]; rfl
    dsimp only [bind, Except.bind]
    rw [Written.models, ← hmodels]
    cases Json.member datamodel "models" with
    | list models => rfl
    | _ => exact iff_of_false (fault_ne_error he _) (by rintro ⟨⟩)

theorem checkDistinct_eq_error {names : List Json} : checkDistinct names = .error e ↔
    e = .wrongKind ∧ ∃ name ∈ names, 1 < names.countP name.same ∧ name.isText = false := by
  have hmem (p : Json → Prop) : (∃ name ∈ names, 1 < names.countP name.same ∧ p name) ↔
      ∃ name ∈ names.filter fun n => 1 < names.countP n.same, p name := by
    simp [List.mem_filter, and_assoc]
  rw [hmem, ← mapM_textOf?_eq_none]
  unfold checkDistinct
  dsimp only
  generalize (names.filter fun n => 1 < names.countP n.same) = repeated
  split
  · next h => simp [List.isEmpty_iff.mp h]
  · cases repeated.mapM textOf? with
    | some texts => simp [fault_ne_error he]
    | none => simp [eq_comm]

theorem readMapping_ne_error (raw : Json) : (readMapping raw).outcome ≠ .error e := by
  unfold readMapping
  split
  · dsimp only
    split
    · exact fault_ne_error he _
    · nofun
  · exact fault_ne_error he _

theorem readMappings_ne_error (raw : List (Text × Json)) :
    (readMappings raw).outcome ≠ .error e := by
  unfold readMappings
  rw [Logged.outcome_seq, ne_eq, bind_eq_error]
  rintro (h | ⟨mappings, _, h⟩)
  · exact objectAt_ne_error he _ _ h
  · split at h
    · rw [Logged.outcome_forList, mapM_eq_error] at h
      obtain ⟨entry, _, h⟩ := h
      exact readMapping_ne_error he entry h
    · split at h
      · cases h
      · exact fault_ne_error he _ h

theorem readGenerator_eq_error {raw : Json} : readGenerator raw = .error e ↔
    e = .wrongKind ∧ (raw.get "previewFeatures").isPartless = true := by
  cases raw with
  | object members =>
    unfold readGenerator
    rw [bind_eq_error, or_iff_left fun ⟨_, _, h⟩ => nomatch h]
    exact elements_eq_error
  | _ =>
    refine iff_of_false (fault_ne_error he _) ?_
    rintro ⟨_, h⟩
    cases h

theorem readGenerators_eq_error {raw : List (Text × Json)} : readGenerators raw = .error e ↔
    e = .wrongKind ∧ (((Json.object raw).get "generators").isPartless = true ∨
      ∃ generator, WalksTo readGenerator (Written.generators (.object raw)) generator ∧
        (generator.get "previewFeatures").isPartless = true) := by
  unfold readGenerators Written.generators
  rw [bind_eq_error, elements_eq_error, show (Json.object raw).get "generators" =
    Json.member raw "generators" from rfl]
  simp only [mapM_eq_error, readGenerator_eq_error he]
  constructor
  · rintro (⟨hkind, h⟩ | ⟨parts, hparts, generator, hreached, hkind, h⟩)
    · exact ⟨hkind, .inl h⟩
    · refine ⟨hkind, .inr ⟨generator, ?_, h⟩⟩
      rcases elements_ok hparts with rfl | htexts
      · exact hreached
      -- the parts of a text or of an object are texts, which have no members
      · have htext := htexts generator hreached.mem
        cases generator with
        | str s => cases h
        | _ => cases htext
  · rintro ⟨hkind, h | ⟨generator, hreached, h⟩⟩
    · exact .inl ⟨hkind, h⟩
    · refine .inr ⟨(Json.member raw "generators").items, ?_, generator, hreached, hkind, h⟩
      have hmem := hreached.mem
      cases hv : Json.member raw "generators" with
      | list items => rw [hv] at hmem; cases items with
        | nil => cases hmem
        | cons item items => rfl
      | _ => rw [hv] at hmem; cases hmem

end

theorem Stumbles.exists_object {raw : Json} (h : Stumbles raw) :
    ∃ members, raw = .object members := by
  cases raw with
  | object members => exact ⟨members, rfl⟩
  | _ =>
    have hnone : ¬∃ models, readModels [] = .ok models := fun ⟨_, h⟩ => nomatch h
    cases h with
    | fields _ reached => cases reached.mem
    | names models read => exact absurd ⟨models, read⟩ hnone
    | generators read => exact absurd (read.models.imp fun _ h => h.1) hnone
    | features read => exact absurd (read.models.imp fun _ h => h.1) hnone

def readParts (members : List (Text × Json)) : Except Failure Document := do
  let models ← readModels members
  checkDistinct (models.map (·.name))
  let mappings ← (readMappings members).outcome
  let generators ← readGenerators members
  let options ← objectAt members "config"
  return ⟨models, mappings, generators, Json.member members "schemaPath", options⟩

theorem outcome_ofJson (members : List (Text × Json)) :
    (ofJson (.object members)).outcome = readParts members := by
  simp only [ofJson, Logged.outcome_seq, Logged.outcome_ofExcept, Logged.outcome_pure']
  rfl

theorem readParts_eq_error_of_readGenerators {members : List (Text × Json)} {e : Failure}
    (hread : ReadsMappings (.object members)) (h : readGenerators members = .error e) :
    readParts members = .error e := by
  obtain ⟨models, hmodels, hdistinct⟩ := hread.models
  obtain ⟨_, hdistinct⟩ := exists_ok hdistinct
  obtain ⟨mappings, hmappings⟩ := exists_ok hread.mappings
  exact bind_eq_error.mpr (.inr ⟨models, hmodels, bind_eq_error.mpr (.inr ⟨_, hdistinct,
    bind_eq_error.mpr (.inr ⟨mappings, hmappings, bind_eq_error.mpr (.inl h)⟩)⟩)⟩)

/-- The reading of a value fails for another cause than the document just where it stumbles. -/
theorem ofJson_eq_error {raw : Json} {e : Failure} (he : ∀ f, e ≠ .document f) :
    (ofJson raw).outcome = .error e ↔ e = .wrongKind ∧ Stumbles raw := by
  constructor
  · intro h
    cases raw with
    | object members =>
      rw [outcome_ofJson] at h
      rcases bind_eq_error.mp h with h | ⟨models, hmodels, h⟩
      · obtain ⟨hkind, model, hreached, hnamed, hpartless⟩ := (readModels_eq_error he).mp h
        exact ⟨hkind, .fields model hreached hnamed hpartless⟩
      rcases bind_eq_error.mp h with h | ⟨_, hdistinct, h⟩
      · obtain ⟨hkind, name, hmem, hrepeated, hother⟩ := (checkDistinct_eq_error he).mp h
        exact ⟨hkind, .names models hmodels name hmem hrepeated hother⟩
      rcases bind_eq_error.mp h with h | ⟨mappings, hmappings, h⟩
      · exact absurd h (readMappings_ne_error he _)
      have hread : ReadsMappings (.object members) :=
        ⟨⟨models, hmodels, isOk_iff.mpr ⟨_, hdistinct⟩⟩, isOk_iff.mpr ⟨_, hmappings⟩⟩
      rcases bind_eq_error.mp h with h | ⟨_, _, h⟩
      · obtain ⟨hkind, hpartless | ⟨generator, hreached, hpartless⟩⟩ :=
          (readGenerators_eq_error he).mp h
        · exact ⟨hkind, .generators hread hpartless⟩
        · exact ⟨hkind, .features hread generator hreached hpartless⟩
      rcases bind_eq_error.mp h with h | ⟨_, _, h⟩
      · exact absurd h (objectAt_ne_error he _ _)
      · cases h
    | _ => exact absurd h (fault_ne_error he _)
  · rintro ⟨rfl, h⟩
    obtain ⟨members, rfl⟩ := h.exists_object
    rw [outcome_ofJson]
    cases h with
    | fields model reached named partless =>
      exact bind_eq_error.mpr
        (.inl ((readModels_eq_error he).mpr ⟨rfl, model, reached, named, partless⟩))
    | names models read name mem repeated other =>
      exact bind_eq_error.mpr (.inr ⟨models, read, bind_eq_error.mpr
        (.inl ((checkDistinct_eq_error he).mpr ⟨rfl, name, mem, repeated, other⟩))⟩)
    | generators read partless =>
      exact readParts_eq_error_of_readGenerators read
        ((readGenerators_eq_error he).mpr ⟨rfl, .inl partless⟩)
    | features read generator reached partless =>
      exact readParts_eq_error_of_readGenerators read
        ((readGenerators_eq_error he).mpr ⟨rfl, .inr ⟨generator, reached, partless⟩⟩)

theorem readText_eq_error {path : Text} {content : String} {e : Failure}
    (he : ∀ f, e ≠ .document f) : (readText path content).outcome = .error e ↔
      match Json.read (String.ofList (unifyLineEnds content.toList)) with
      | .ok raw => e = .wrongKind ∧ Stumbles raw
      | .error (.malformed _) => False
      | .error (.integerTooLong digits) => e = .longInteger digits
      | .error .tooDeep => e = .deepNesting := by
  have hinj (e' : Failure) : (Except.error e' : Except Failure Document) = .error e ↔ e = e' :=
    ⟨fun h => (Except.error.inj h).symm, fun h => h ▸ rfl⟩
  unfold readText
  cases Json.read (String.ofList (unifyLineEnds content.toList)) with
  | ok raw => exact ofJson_eq_error he
  | error stop =>
    cases stop with
    | malformed error => exact iff_of_false (fault_ne_error he _) id
    | integerTooLong digits => exact hinj _
    | tooDeep => exact hinj _

theorem load_eq_error_iff_unguarded {path : Text} {source : Source} {e : Failure}
    (he : ∀ f, e ≠ .document f) : (load path source).outcome = .error e ↔ Unguarded source e := by
  constructor
  · intro h
    cases source with
    | missing => exact absurd h (fault_ne_error he _)
    | directory => exact absurd h (fault_ne_error he _)
    | bytes content =>
      unfold load at h
      dsimp only at h
      split at h
      · next text htext =>
        rw [readText_eq_error he] at h
        split at h
        · next raw hraw =>
          obtain ⟨rfl, hstumbles⟩ := h
          exact .stumbles htext hraw hstumbles
        · cases h
        · next digits hread => exact h ▸ .longInteger htext hread
        · next hread => exact h ▸ .deepNesting htext hread
      · next hnone =>
        cases h
        exact .undecodable hnone
  · intro h
    have htext {content : ByteArray} {text : String} (h : String.fromUTF8? content = some text) :
        load path (.bytes content) = readText path text := by simp only [load, h]
    cases h with
    | undecodable h => simp only [load, h]; rfl
    | longInteger h read => rw [htext h, readText_eq_error he, read]
    | deepNesting h read => rw [htext h, readText_eq_error he, read]
    | stumbles h read stumbles => rw [htext h, readText_eq_error he, read]; exact ⟨rfl, stumbles⟩

/-- Reading a value or a file succeeds, reports a fault of the document, or fails for one of the
causes that are listed: over a value that is taken apart without a check, and in a file also over
bytes that are no text and over the limits of the reader. -/
theorem unguarded_reading (raw : Json) (path : Text) (source : Source) (e : Failure) :
    ((ofJson raw).outcome = .error e ∧ (∀ f, e ≠ .document f) ↔ e = .wrongKind ∧ Stumbles raw) ∧
      ((load path source).outcome = .error e ∧ (∀ f, e ≠ .document f) ↔ Unguarded source e) := by
  constructor
  · constructor
    · rintro ⟨h, he⟩
      exact (ofJson_eq_error he).mp h
    · rintro ⟨rfl, h⟩
      have he (f : Fault) : Failure.wrongKind ≠ .document f := nofun
      exact ⟨(ofJson_eq_error he).mpr ⟨rfl, h⟩, he⟩
  · constructor
    · rintro ⟨h, he⟩
      exact (load_eq_error_iff_unguarded he).mp h
    · intro h
      have he (f : Fault) : e ≠ .document f := by
        rintro rfl
        cases h
      exact ⟨(load_eq_error_iff_unguarded he).mpr h, he⟩

/-- Without models there is nothing to generate, and the one value of the wrong kind is a number in
the place of the list of generators. -/
theorem unguarded_generators : (ofJson (.object [
      ("datamodel", .object [("models", .list [])]), ("generators", .int 5)])).outcome =
    .error .wrongKind := rfl

end Document

end RouterLayer
