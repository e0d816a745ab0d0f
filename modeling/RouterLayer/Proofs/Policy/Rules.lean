import RouterLayer.Policy

set_option autoImplicit false

namespace RouterLayer

def Policy.ruled : Category → List Text
  | .query => policyQueries
  | .mutation => policyMutations
  | .subscription => notificationEvents

def PermissionMatrix.bucket (m : PermissionMatrix) : Category → Rules
  | .query => m.query
  | .mutation => m.mutation
  | .subscription => m.subscription

namespace Policy

theorem mem_keys_allowAll {rules : Rules} {model key : Text} {operations : List Text} :
    key ∈ (allowAll rules model operations).keys ↔
      key ∈ rules.keys ∨ ∃ o ∈ operations, key = o ++ model := by
  unfold allowAll
  induction operations generalizing rules with
  | nil => simp
  | cons o rest ih =>
    have hput : key ∈ (rules.put (o ++ model) allow).keys ↔
        key ∈ rules.keys ∨ key = o ++ model := by
      rw [OrderedMap.keys_put]
      split
      · next h => exact ⟨.inl, fun hk => hk.elim id fun e => e ▸ h⟩
      · simp
    rw [List.foldl_cons, ih, hput]
    simp only [List.mem_cons, exists_eq_or_imp, or_assoc]

theorem bucket_addModel (m : PermissionMatrix) (model : Text) (c : Category) :
    (addModel m model).bucket c = allowAll (m.bucket c) model (ruled c) := by
  cases c <;> rfl

theorem mem_keys_matrix {models : List Text} {c : Category} {key : Text} :
    key ∈ ((matrix models).bucket c).keys ↔ ∃ model ∈ models, ∃ o ∈ ruled c, key = o ++ model := by
  have hfold (m : PermissionMatrix) : key ∈ ((models.foldl addModel m).bucket c).keys ↔
      key ∈ (m.bucket c).keys ∨ ∃ model ∈ models, ∃ o ∈ ruled c, key = o ++ model := by
    induction models generalizing m with
    | nil => simp
    | cons model rest ih =>
      rw [List.foldl_cons, ih, bucket_addModel, mem_keys_allowAll]
      simp only [List.mem_cons, exists_eq_or_imp, or_assoc]
  have hempty : key ∉ ((⟨[], [], []⟩ : PermissionMatrix).bucket c).keys := by
    cases c <;> exact List.not_mem_nil
  unfold matrix
  rw [hfold]
  simp only [hempty, false_or]

end Policy

namespace Operation

/-- What the client puts behind the name of the model. -/
def ending : Operation → Text
  | .findUniqueOrThrow | .findFirstOrThrow => "OrThrow"
  | _ => []

/-- The name that the client gives to an operation of a model. -/
def conventionalName (o : Operation) (model : Text) : Text := o.base.name ++ (model ++ o.ending)

/-- What the name of an operation has beyond the name of a ruled one, if it begins with one. -/
def beyondRule : Operation → Option Text
  | .createMany | .count | .findRaw => none
  | .aggregateRaw => some "Raw"
  | _ => some []

/-- The model that would have to exist for an operation to fall under one of its rules. -/
def ruleModel (o : Operation) (model : Text) : Option Text :=
  o.beyondRule.map fun rest => rest ++ (model ++ o.ending)

theorem eq_of_base_prefix : ∀ o ∈ all, ∀ op ∈ Policy.ruled o.category,
    o.base.name.isPrefixOf op = true → op = o.base.name := by decide

theorem beyondRule_of_prefix : ∀ o ∈ all, ∀ op ∈ Policy.ruled o.category,
    op.isPrefixOf o.base.name = true → o.beyondRule = some (o.base.name.drop op.length) := by decide

theorem ruled_of_beyondRule : ∀ o ∈ all, ∀ rest ∈ o.beyondRule,
    ∃ op ∈ Policy.ruled o.category, o.base.name = op ++ rest := by decide

/-- The conventional name of an operation is the key of a rule for one model at most. -/
theorem ruled_conventionalName {o : Operation} {model other : Text} :
    (∃ op ∈ Policy.ruled o.category, o.conventionalName model = op ++ other) ↔
      o.ruleModel model = some other := by
  have ho := o.mem_all
  unfold ruleModel conventionalName
  constructor
  · rintro ⟨op, hop, h⟩
    rcases List.append_eq_append_iff.mp h with ⟨rest, hrest, hother⟩ | ⟨rest, hrest, hother⟩
    · have hbase : op = o.base.name := by
        refine eq_of_base_prefix o ho op hop ?_
        rw [List.isPrefixOf_iff_prefix]
        exact ⟨rest, hrest.symm⟩
      subst hbase
      have hnil : rest = [] := List.self_eq_append_right.mp hrest
      subst hnil
      have hbeyond := beyondRule_of_prefix o ho o.base.name hop
        (List.isPrefixOf_iff_prefix.mpr (List.prefix_refl _))
      rw [hbeyond, List.drop_length]
      exact congrArg some hother
    · have hbeyond := beyondRule_of_prefix o ho op hop
        (List.isPrefixOf_iff_prefix.mpr ⟨rest, hrest.symm⟩)
      rw [hbeyond, hrest, List.drop_left, hother]
      rfl
  · intro h
    obtain ⟨rest, hbeyond, rfl⟩ := Option.map_eq_some_iff.mp h
    obtain ⟨op, hop, hbase⟩ := ruled_of_beyondRule o ho rest hbeyond
    exact ⟨op, hop, by rw [hbase, List.append_assoc]⟩

example : ruleModel .updateMany "User" = some "User" := by decide

example : ruleModel .aggregateRaw "User" = some "RawUser" := by decide

end Operation

end RouterLayer
