import Mathlib.Data.List.Nodup
import RouterLayer.Proofs.Policy.Rules
import RouterLayer.Proofs.Router.Files

/-!
The keys of a router. Under the names that the client gives to its operations no two endpoints of a
router have the same key, whether the keys show the name of the model or not
(`nodup_keys_modelFile`). A model's name that is left out may have been cut from the name of the
operation, as the first "One" from "createOneOne". But what remains has the letters of the
operation's own name (`conventionalKey_perm`), and no two operations have the same letters.
-/

set_option autoImplicit false

namespace RouterLayer

theorem Text.dropFirst_eq {pattern s : Text} (h : pattern <:+: s) :
    ∃ front back, s = front ++ (pattern ++ back) ∧ dropFirst pattern s = front ++ back ∧
      ∀ other rest, s = other ++ (pattern ++ rest) → front.length ≤ other.length := by
  induction s with
  | nil =>
    rw [List.infix_nil.mp h]
    exact ⟨[], [], rfl, rfl, fun _ _ _ => Nat.zero_le _⟩
  | cons c cs ih =>
    rw [dropFirst]
    split
    · next hfront =>
      obtain ⟨rest, hrest⟩ := List.isPrefixOf_iff_prefix.mp hfront
      refine ⟨[], rest, hrest.symm, ?_, fun _ _ _ => Nat.zero_le _⟩
      rw [← hrest, List.drop_left, List.nil_append]
    · next hfront =>
      have hlater : pattern <:+: cs := (List.infix_cons_iff.mp h).resolve_left fun hprefix =>
        hfront (List.isPrefixOf_iff_prefix.mpr hprefix)
      obtain ⟨front, back, hcs, hdrop, hfirst⟩ := ih hlater
      refine ⟨c :: front, back, congrArg (c :: ·) hcs, congrArg (c :: ·) hdrop, ?_⟩
      intro other rest hother
      cases other with
      | nil => exact absurd (List.isPrefixOf_iff_prefix.mpr ⟨rest, hother.symm⟩) hfront
      | cons d other => exact Nat.succ_le_succ (hfirst other rest (List.cons.inj hother).2)

theorem Text.dropFirst_perm {pattern s : Text} (h : pattern <:+: s) :
    (pattern ++ dropFirst pattern s).Perm s := by
  obtain ⟨front, back, hs, hdrop, -⟩ := dropFirst_eq h
  rw [hdrop, hs]
  exact List.perm_append_comm_assoc pattern front back

namespace Operation

theorem name_eq (o : Operation) : o.name = o.base.name ++ o.ending := by cases o <;> rfl

theorem name_ne_nil (o : Operation) : o.name ≠ [] := by cases o <;> exact List.cons_ne_nil _ _

/-- No operation is an anagram of another one. -/
theorem eq_of_name_perm : ∀ o ∈ all, ∀ p ∈ all, o.name.Perm p.name → o = p := by decide +kernel

theorem not_name_perm_event : ∀ o ∈ all, ∀ event ∈ notificationEvents, ¬o.name.Perm event := by
  decide +kernel

theorem not_base_prefix_event :
    ∀ o ∈ all, ∀ event ∈ notificationEvents, ¬o.base.name <+: event := by decide +kernel

theorem conventionalName_perm (o : Operation) (model : Text) :
    (o.conventionalName model).Perm (model ++ o.name) := by
  have hname : model ++ o.name = model ++ o.base.name ++ o.ending := by
    rw [List.append_assoc, ← name_eq]
  rw [conventionalName, hname, ← List.append_assoc]
  exact List.perm_append_comm.append_right o.ending

theorem infix_conventionalName (o : Operation) (model : Text) :
    model <:+: o.conventionalName model :=
  ⟨o.base.name, o.ending, List.append_assoc ..⟩

theorem conventionalName_ne_nil (o : Operation) (model : Text) : o.conventionalName model ≠ [] :=
  List.append_ne_nil_of_left_ne_nil o.base.name_ne_nil _

end Operation

namespace Naming

variable (o : Operation) (model : Text) (showModel : Bool)

theorem endpointName_conventionalName :
    endpointName o.name (.str (o.conventionalName model)) = .str (o.conventionalName model) := by
  have hvoid : (Json.str (o.conventionalName model)).isVoid = false :=
    List.isEmpty_eq_false_iff.mpr (o.conventionalName_ne_nil model)
  rw [endpointName, hvoid]
  rfl

/-- The key of an operation under the client's own name. -/
def conventionalKey : Text := procedureKey (o.conventionalName model) model showModel

theorem dropFirst_conventionalName_perm :
    (Text.dropFirst model (o.conventionalName model)).Perm o.name :=
  (List.perm_append_left_iff model).mp
    ((Text.dropFirst_perm (o.infix_conventionalName model)).trans (o.conventionalName_perm model))

/-- Something is always left of the client's name, so the key is that. -/
theorem procedureKey_conventionalName :
    procedureKey (o.conventionalName model) model false =
      Text.dropFirst model (o.conventionalName model) := by
  rw [procedureKey, if_neg Bool.false_ne_true]
  split
  · next hnil =>
    have hrest := dropFirst_conventionalName_perm o model
    rw [hnil] at hrest
    exact absurd (List.nil_perm.mp hrest) o.name_ne_nil
  · rfl

theorem conventionalKey_perm : (conventionalKey o model showModel).Perm
    (if showModel then model ++ o.name else o.name) := by
  unfold conventionalKey
  cases showModel with
  | true => exact o.conventionalName_perm model
  | false =>
    rw [procedureKey_conventionalName, if_neg Bool.false_ne_true]
    exact dropFirst_conventionalName_perm o model

variable {o model showModel}

theorem conventionalKey_ne_nil : conventionalKey o model showModel ≠ [] := by
  intro hnil
  have hperm := conventionalKey_perm o model showModel
  rw [hnil] at hperm
  cases showModel with
  | true => exact o.name_ne_nil (List.append_eq_nil_iff.mp (List.nil_perm.mp hperm)).2
  | false => exact o.name_ne_nil (List.nil_perm.mp hperm)

theorem conventionalKey_injective (model : Text) (showModel : Bool) :
    Function.Injective fun o => conventionalKey o model showModel := by
  intro o p (h : conventionalKey o model showModel = conventionalKey p model showModel)
  have hperm := (conventionalKey_perm o model showModel).symm.trans
    (h ▸ conventionalKey_perm p model showModel)
  refine Operation.eq_of_name_perm o o.mem_all p p.mem_all ?_
  cases showModel with
  | true => exact (List.perm_append_left_iff model).mp hperm
  | false => exact hperm

theorem conventionalKey_ne_event {event : Text} (hevent : event ∈ notificationEvents) :
    conventionalKey o model showModel ≠ event := by
  rintro rfl
  cases showModel with
  | true => exact Operation.not_base_prefix_event o o.mem_all _ hevent (List.prefix_append _ _)
  | false =>
    exact Operation.not_name_perm_event o o.mem_all _ hevent
      (conventionalKey_perm o model false).symm

end Naming

namespace Router

theorem procedure_of_conventional {model : Text} {options : Options} {r : ResolvedOperation}
    (h : r.declared = .str (r.operation.conventionalName model)) :
    procedure model options r = .ok (procedureOf model options r.operation
      (.str (Naming.conventionalKey r.operation model options.showModelName))
      (.str (r.operation.conventionalName model))) := by
  rw [procedure, h, Naming.endpointName_conventionalName]
  rfl

theorem keys_of_conventional {model : Text} {options : Options}
    {operations : List ResolvedOperation} (notifications : List Text)
    (h : ∀ r ∈ operations, r.declared = .str (r.operation.conventionalName model)) :
    (modelEndpoints model operations notifications options).map (fun es => es.map (·.key)) =
      .ok (((operations.map fun r => Naming.conventionalKey r.operation model options.showModelName)
        ++ notifications).map Json.str) := by
  have hprocedures : operations.mapM (procedure model options) =
      .ok (operations.map fun r => procedureOf model options r.operation
        (.str (Naming.conventionalKey r.operation model options.showModelName))
        (.str (r.operation.conventionalName model))) := by
    rw [mapM_eq_ok, List.forall₂_map_right_iff, List.forall₂_same]
    exact fun r hr => procedure_of_conventional (h r hr)
  unfold modelEndpoints
  rw [hprocedures]
  refine congrArg Except.ok ?_
  simp only [List.map_append, List.map_map]
  rfl

/-- Only the path of the emitter can keep a file from being built around its endpoints. -/
theorem keys_modelFile (site : Site) (model : Text) (operations : List ResolvedOperation)
    (notifications : List Text) (options : Options) :
    (modelFile site model operations notifications options).map
        (fun f => f.endpoints.map (·.key)) =
      configuredSpecifier site Naming.routersDir options.emitterPath >>= fun _ =>
        (modelEndpoints model operations notifications options).map fun es => es.map (·.key) := by
  unfold modelFile
  cases configuredSpecifier site Naming.routersDir options.emitterPath with
  | error e => rfl
  | ok emitter =>
    cases modelEndpoints model operations notifications options with
    | error e => rfl
    | ok endpoints =>
      simp [bind, Except.bind, pure, Except.pure, Except.map, SourceFile.addStatement_addImports,
        SourceFile.endpoints, SourceFile.ofParts, Statement.endpoints]

/-- A router whose operations have the client's own names is built if there is a path to its
emitter, and then each of its endpoints has a key of its own. -/
theorem nodup_keys_modelFile (site : Site) (model : Text) (operations : List ResolvedOperation)
    (options : Options) (hdistinct : (operations.map (·.operation)).Nodup)
    (hnames : ∀ r ∈ operations, r.declared = .str (r.operation.conventionalName model)) :
    ∃ keys : List Text, keys.Nodup ∧ [] ∉ keys ∧
      (modelFile site model operations notificationEvents options).map
          (fun f => f.endpoints.map (·.key)) =
        (configuredSpecifier site Naming.routersDir options.emitterPath).map
          fun _ => keys.map Json.str := by
  let key (o : Operation) : Text := Naming.conventionalKey o model options.showModelName
  refine ⟨(operations.map fun r => key r.operation) ++ notificationEvents, ?_, ?_, ?_⟩
  · have hprocedures : (operations.map fun r => key r.operation).Nodup := by
      have hkeys :=
        List.Nodup.map (Naming.conventionalKey_injective model options.showModelName) hdistinct
      rwa [List.map_map] at hkeys
    refine List.nodup_append.mpr ⟨hprocedures, by decide, fun k hk event hevent => ?_⟩
    obtain ⟨r, -, rfl⟩ := List.mem_map.mp hk
    exact Naming.conventionalKey_ne_event hevent
  · intro hnil
    rcases List.mem_append.mp hnil with hnil | hnil
    · obtain ⟨r, -, hr⟩ := List.mem_map.mp hnil
      exact Naming.conventionalKey_ne_nil hr
    · exact absurd hnil (by decide)
  · rw [keys_modelFile, keys_of_conventional notificationEvents hnames]
    cases configuredSpecifier site Naming.routersDir options.emitterPath <;> rfl

/-- The name of the model is a letter of the operations' names, and is taken out where it comes
first. -/
theorem nodup_keys_modelFile_letter :
    let site : Site := ⟨Path.ofText "/work", Path.ofText "out"⟩
    let operations : List ResolvedOperation := [⟨.createOne, .str "createOnee"⟩,
      ⟨.updateOne, .str "updateOnee"⟩, ⟨.findUniqueOrThrow, .str "findUniqueeOrThrow"⟩]
    let options := { Options.default with showModelName := false }
    (operations.map (·.operation)).Nodup ∧
      (∀ r ∈ operations, r.declared = .str (r.operation.conventionalName "e")) ∧
      ∃ f, modelFile site "e" operations notificationEvents options = .ok f ∧
        f.endpoints.map (·.key) = [.str "crateOnee", .str "updatOnee", .str "findUniqueOrThrow",
          .str "create", .str "update", .str "delete"] ∧
        (f.endpoints.map (·.key)).Nodup := by
  intro site operations options
  have hdistinct : (operations.map (·.operation)).Nodup := by decide
  have hnames : ∀ r ∈ operations, r.declared = .str (r.operation.conventionalName "e") := by
    decide
  have hbuilt : (modelFile site "e" operations notificationEvents options).map
      (fun f => f.endpoints.map (·.key)) = .ok [.str "crateOnee", .str "updatOnee",
        .str "findUniqueOrThrow", .str "create", .str "update", .str "delete"] := by
    decide +kernel
  obtain ⟨f, hf, hkeys⟩ := map_eq_ok.mp hbuilt
  obtain ⟨keys, hnodup, -, h⟩ := nodup_keys_modelFile site "e" operations options hdistinct hnames
  rw [hbuilt] at h
  obtain ⟨_, -, h⟩ := map_eq_ok.mp h.symm
  refine ⟨hdistinct, hnames, f, hf, hkeys, ?_⟩
  rw [hkeys, ← h]
  exact hnodup.map fun _ _ => Json.str.inj

end Router

end RouterLayer
