import Mathlib.Data.List.Nodup
import RouterLayer.Proofs.OrderedMap
import RouterLayer.Proofs.Policy.Rules

/-!
The default permissions as a list. A key is the name of an operation with the name of a model
behind it and no sign between them, but no name of a table begins with another name of the same
table, so a key tells both (`eq_of_key_eq`). No rule overwrites another one, and the rules stand in
the order of the models (`rules_matrix`).
-/

set_option autoImplicit false

namespace RouterLayer.Policy

def rulesFor (operations models : List Text) : Rules :=
  models.flatMap fun model => operations.map fun operation => (operation ++ model, allow)

variable {models : List Text} {c : Category}

theorem ruled_prefix_free : ∀ c ∈ Category.all, ∀ o ∈ ruled c, ∀ o' ∈ ruled c,
    o.isPrefixOf o' = true → o = o' := by decide

theorem eq_of_ruled_isPrefix {o o' : Text} (ho : o ∈ ruled c) (ho' : o' ∈ ruled c)
    (h : o <+: o') : o = o' :=
  ruled_prefix_free c c.mem_all o ho o' ho' (List.isPrefixOf_iff_prefix.mpr h)

/-- A key tells the operation and the model. -/
theorem eq_of_key_eq {o o' model model' : Text} (ho : o ∈ ruled c) (ho' : o' ∈ ruled c)
    (h : o ++ model = o' ++ model') : o = o' ∧ model = model' := by
  have hop : o = o' := by
    have hfront : o <+: o' ++ model' := h ▸ List.prefix_append o model
    rcases List.prefix_or_prefix_of_prefix hfront (List.prefix_append o' model') with h | h
    · exact eq_of_ruled_isPrefix ho ho' h
    · exact (eq_of_ruled_isPrefix ho' ho h).symm
  subst hop
  exact ⟨rfl, List.append_cancel_left h⟩

theorem allowAll_eq_merge (rules : Rules) (model : Text) (operations : List Text) :
    allowAll rules model operations =
      rules.merge (operations.map fun operation => (operation ++ model, allow)) := by
  rw [allowAll, OrderedMap.merge, List.foldl_map]

/-- Also with repeated models: the rules are set one after the other. -/
theorem bucket_matrix (models : List Text) (c : Category) :
    (matrix models).bucket c = OrderedMap.ofEntries (rulesFor (ruled c) models) := by
  have hfold (m : PermissionMatrix) : (models.foldl addModel m).bucket c =
      (m.bucket c).merge (rulesFor (ruled c) models) := by
    induction models generalizing m with
    | nil => rfl
    | cons model rest ih =>
      rw [List.foldl_cons, ih, bucket_addModel, allowAll_eq_merge]
      simp only [OrderedMap.merge, rulesFor, List.flatMap_cons, List.foldl_append]
  rw [matrix, hfold]
  cases c <;> rfl

theorem nodup_ruled (c : Category) : (ruled c).Nodup := by
  cases c <;> decide

theorem nodup_keys_rulesFor (h : models.Nodup) : (rulesFor (ruled c) models).keys.Nodup := by
  have hkeys : (rulesFor (ruled c) models).keys =
      models.flatMap fun model => (ruled c).map fun o => o ++ model := by
    simp [OrderedMap.keys, rulesFor, List.map_flatMap, Function.comp_def]
  rw [hkeys, List.nodup_flatMap]
  constructor
  · intro model _
    exact (nodup_ruled c).map fun _ _ => List.append_cancel_right
  · refine h.imp fun {model model'} hne key hkey hkey' => hne ?_
    obtain ⟨o, ho, rfl⟩ := List.mem_map.mp hkey
    obtain ⟨o', ho', heq⟩ := List.mem_map.mp hkey'
    exact (eq_of_key_eq ho' ho heq).2.symm

theorem bucket_matrix_of_nodup (h : models.Nodup) (c : Category) :
    (matrix models).bucket c = rulesFor (ruled c) models := by
  rw [bucket_matrix]
  exact OrderedMap.merge_of_nodup (nodup_keys_rulesFor h)

theorem length_rulesFor (operations models : List Text) :
    (rulesFor operations models).length = operations.length * models.length := by
  induction models with
  | nil => rfl
  | cons model rest ih =>
    rw [rulesFor, List.flatMap_cons, ← rulesFor, List.length_append, ih, List.length_map,
      List.length_cons, Nat.mul_succ, Nat.add_comm]

/-- Models of different names have all their rules, whatever the names are. -/
theorem rules_matrix (h : models.Nodup) :
    ((matrix models).query = rulesFor policyQueries models ∧
      (matrix models).mutation = rulesFor policyMutations models ∧
      (matrix models).subscription = rulesFor notificationEvents models) ∧
    (∀ c, ((matrix models).bucket c).keys.Nodup) ∧
    (∀ c, ∀ o ∈ ruled c, ∀ o' ∈ ruled c, ∀ model model', o ++ model = o' ++ model' →
      o = o' ∧ model = model') ∧
    (matrix models).query.length = 5 * models.length ∧
    (matrix models).mutation.length = 6 * models.length ∧
    (matrix models).subscription.length = 3 * models.length := by
  have hbucket := bucket_matrix_of_nodup h
  have hquery : (matrix models).query = rulesFor policyQueries models := hbucket .query
  have hmutation : (matrix models).mutation = rulesFor policyMutations models := hbucket .mutation
  have hsubscription : (matrix models).subscription = rulesFor notificationEvents models :=
    hbucket .subscription
  refine ⟨⟨hquery, hmutation, hsubscription⟩, fun c => ?_, ?_, ?_, ?_, ?_⟩
  · rw [hbucket c]
    exact nodup_keys_rulesFor h
  · intro c o ho o' ho' model model' heq
    exact eq_of_key_eq ho ho' heq
  · rw [hquery, length_rulesFor]
    rfl
  · rw [hmutation, length_rulesFor]
    rfl
  · rw [hsubscription, length_rulesFor]
    rfl

/-- Names that are, or begin like, the ends of names of operations. -/
theorem rules_matrix_endings :
    (["", "Many", "OneMany"] : List Text).Nodup ∧
      (matrix ["", "Many", "OneMany"]).mutation.length = 18 ∧
      (matrix ["", "Many", "OneMany"]).subscription =
        (["create", "update", "delete", "createMany", "updateMany", "deleteMany", "createOneMany",
          "updateOneMany", "deleteOneMany"] : List Text).map fun key => (key, allow) := by
  have hnodup : (["", "Many", "OneMany"] : List Text).Nodup := by decide
  obtain ⟨⟨-, -, hrules⟩, -, -, -, hlength, -⟩ := rules_matrix hnodup
  exact ⟨hnodup, hlength, hrules⟩

end RouterLayer.Policy
