import RouterLayer.Options
import RouterLayer.Proofs.Document.Written
import RouterLayer.Visibility

set_option autoImplicit false

namespace RouterLayer

def Model.hides (m : Model) : Bool :=
  match m.documentation with
  | .str s => (Attribute.readAll s).any (·.hides)
  | _ => false

theorem Model.hides_of_isHidden {m : Model} {hidden : Bool} (h : m.isHidden = .ok hidden) :
    m.hides = hidden := by
  obtain ⟨attributes, ha, rfl⟩ := map_eq_ok.mp h
  unfold Model.attributes at ha
  unfold Model.hides
  cases hd : m.documentation with
  | str s =>
    rw [hd] at ha
    cases s with
    | nil => cases ha; rfl
    | cons c s => cases ha; rfl
  | _ =>
    rw [hd] at ha
    dsimp only at ha
    split at ha <;> cases ha
    rfl

namespace Visibility

theorem outcome_ofModels (models : List Model) :
    (ofModels models).outcome = (models.mapM Model.isHidden).map fun _ =>
      ⟨models.filter fun m => !m.hides, (models.filter (·.hides)).map (·.name)⟩ := by
  induction models with
  | nil => rfl
  | cons m rest ih =>
    rw [ofModels, Logged.outcome_bind, Logged.outcome_ofExcept, List.mapM_cons]
    cases hm : m.isHidden with
    | error e => rfl
    | ok hidden =>
      have hh := Model.hides_of_isHidden hm
      cases hidden with
      | true =>
        simp only [Except.bind, if_true, Logged.outcome_bind, Logged.outcome_note, ih]
        cases rest.mapM Model.isHidden <;> simp [bind, Except.bind, Except.map, pure,
          Except.pure, hh]
      | false =>
        simp only [Except.bind, Bool.false_eq_true, if_false, Logged.outcome_bind, ih]
        cases rest.mapM Model.isHidden <;> simp [bind, Except.bind, Except.map, pure,
          Except.pure, hh]

end Visibility

namespace Document

def visible (d : Document) : List Model := d.models.filter fun m => !m.hides

def declared (d : Document) (name : Json) : List (Operation × Json) :=
  (d.mappingFor name).operations

end Document

theorem hides_readModel {raw : Json} {m : Model} (h : Document.readModel raw = .ok m) :
    m.hides = Written.hides raw := by
  rw [Model.hides, (Document.readModel_ok h).2]; rfl

theorem visibleNames_ofJson {raw : Json} {d : Document}
    (h : (Document.ofJson raw).outcome = .ok d) :
    d.visible.map (·.name) = Written.visibleNames raw := by
  have hmodels := (Document.ofJson_ok h).1
  unfold Document.visible Written.visibleNames
  generalize Written.models raw = written, d.models = models at hmodels ⊢
  induction hmodels with
  | nil => rfl
  | @cons r m _ _ hm _ ih =>
    rw [List.filter_cons, List.filter_cons, hides_readModel hm]
    cases Written.hides r with
    | true => exact ih
    | false => exact congrArg₂ List.cons (Document.readModel_ok hm).1 ih

theorem Json.same_str (name : Text) (value : Json) :
    (Json.str name).same value = decide (value = .str name) := by
  cases value with
  | str s => simp [same, eq_comm, beq_eq_decide]
  | _ => simp [same, integer?]

theorem Json.finds_str (name : Text) (value : Json) :
    (Json.str name).finds value = decide (value = .str name) := by
  rw [finds, if_neg nofun, same_str]

theorem declared_ofJson {raw : Json} {d : Document} (h : (Document.ofJson raw).outcome = .ok d)
    (name : Json) :
    d.declared name = ((Written.firstFor raw name).map Written.operations).getD [] := by
  have hmappings := (Document.ofJson_ok h).2
  unfold Document.declared Document.mappingFor Written.firstFor
  generalize Written.mappings raw = written, d.mappings = mappings at hmappings ⊢
  induction hmappings with
  | nil => rfl
  | @cons r m _ _ hm _ ih =>
    obtain ⟨hmodel, hoperations⟩ := Document.readMapping_ok hm
    rw [List.find?_cons, List.find?_cons, hmodel]
    cases name.finds (r.get "model") with
    | true => exact hoperations
    | false => exact ih

theorem operations_mappingFor {raw : Json} {d : Document}
    (h : (Document.ofJson raw).outcome = .ok d) (name : Text) :
    d.declared (.str name) = Written.operations (Written.mappingOf raw name) := by
  rw [declared_ofJson h]
  unfold Written.firstFor Written.mappingOf
  simp only [Json.finds_str]
  cases (Written.mappings raw).find? fun mapping => decide (mapping.get "model" = .str name) with
  | none => rfl
  | some mapping => rfl

def Options.admits (options : Options) (o : Operation) : Bool :=
  options.actions.any fun a => a = o.action || a.name = o.clientMethod

theorem Action.name_injective {a b : Action} (h : a.name = b.name) : a = b := by
  have ha := ofName?_name a
  rw [h, ofName?_name b] at ha
  exact (Option.some.inj ha).symm

theorem isAllowed_actionNames (options : Options) (o : Operation) :
    o.isAllowed options.actionNames = options.admits o := by
  have hname (a : Action) : (a.name = o.action.name) ↔ a = o.action :=
    ⟨Action.name_injective, fun h => h ▸ rfl⟩
  unfold Operation.isAllowed Options.admits Options.actionNames
  rw [Bool.eq_iff_iff]
  simp only [Bool.or_eq_true, List.contains_iff_mem, List.mem_map, List.any_eq_true,
    decide_eq_true_eq, hname]
  constructor
  · rintro (⟨a, ha, h⟩ | ⟨a, ha, h⟩)
    · exact ⟨a, ha, .inl h⟩
    · exact ⟨a, ha, .inr h⟩
  · rintro ⟨a, ha, h | h⟩
    · exact .inl ⟨a, ha, h⟩
    · exact .inr ⟨a, ha, h⟩

def Document.chosen (d : Document) (options : Options) (name : Json) : List ResolvedOperation :=
  ((d.declared name).filter fun p => options.admits p.1).map fun p => ⟨p.1, p.2⟩

theorem resolve_mappingFor (d : Document) (options : Options) (name : Json) :
    (d.mappingFor name).resolve options.actionNames = d.chosen options name := by
  simp only [OperationMapping.resolve, isAllowed_actionNames]
  rfl

end RouterLayer
