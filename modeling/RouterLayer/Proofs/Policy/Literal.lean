import RouterLayer.Proofs.Json.Indented
import RouterLayer.Proofs.Json.Keyed
import RouterLayer.Proofs.Policy.Matrix
import RouterLayer.Proofs.Policy.Pieces

/-!
The literal of the default permissions. The rules lose their quotes by a replacement in the whole
text, which knows nothing of keys; it meets no key all the same, whatever the models are called, as
long as no name has a quote in it (`rulesLiteral_matrix`).
-/

set_option autoImplicit false

namespace RouterLayer

def rulesPieces (rules : Rules) : List Piece :=
  objectPieces 1 (rules.map fun r => (r.1, [.rule]))

namespace PermissionMatrix

def pieces (m : PermissionMatrix) : List Piece :=
  objectPieces 0 (m.buckets.map fun b => (b.1, rulesPieces b.2))

def written (word : Text) (m : PermissionMatrix) : Text := piecesText word m.pieces

theorem forall_mem_buckets {m : PermissionMatrix} {p : Text × Rules → Prop} :
    (∀ b ∈ m.buckets, p b) ↔ ∀ c : Category, p (c.name, m.bucket c) := by
  constructor
  · intro h c
    cases c <;> exact h _ (by simp [buckets, bucket])
  · intro h b hb
    simp only [buckets, List.mem_cons, List.not_mem_nil, or_false] at hb
    rcases hb with rfl | rfl | rfl
    · exact h .query
    · exact h .mutation
    · exact h .subscription

end PermissionMatrix

namespace Policy

open PermissionMatrix

variable {models : List Text} {m : PermissionMatrix} {rules : Rules}

theorem forall₂_map_map {α β γ : Type} {R : β → γ → Prop} {f : α → β} {g : α → γ} {xs : List α} :
    List.Forall₂ R (xs.map f) (xs.map g) ↔ ∀ x ∈ xs, R (f x) (g x) := by
  rw [List.forall₂_map_left_iff, List.forall₂_map_right_iff, List.forall₂_same]

section Written

theorem piecesText_rulesPieces (h : ∀ r ∈ rules, r.2 = allow) :
    piecesText quotedAllow (rulesPieces rules) = Json.indented 1 (rulesJson rules) := by
  have hparts : PartsOf quotedAllow 2 (rules.map fun r => (r.1, Json.str r.2))
      (rules.map fun r => (r.1, [.rule])) := forall₂_map_map.mpr fun r hr => by
    rw [h r hr]
    exact ⟨rfl, rfl⟩
  exact piecesText_objectPieces hparts

theorem indented_members (h : ∀ c, ∀ r ∈ m.bucket c, r.2 = allow) :
    Json.indented 0 (.object m.members) = m.written quotedAllow := by
  have hparts : PartsOf quotedAllow 1 m.members (m.buckets.map fun b => (b.1, rulesPieces b.2)) :=
    forall₂_map_map.mpr (forall_mem_buckets.mpr fun c => ⟨rfl, piecesText_rulesPieces (h c)⟩)
  exact (piecesText_objectPieces hparts).symm

end Written

section Matrix

variable {c : Category} {o model : Text}

theorem eq_allow_of_mem_matrix : ∀ r ∈ (matrix models).bucket c, r.2 = allow := by
  intro r hr
  rw [bucket_matrix] at hr
  obtain ⟨model, -, hr⟩ := List.mem_flatMap.mp (OrderedMap.mem_of_mem_ofEntries hr)
  obtain ⟨o, -, rfl⟩ := List.mem_map.mp hr
  rfl

theorem nodup_keys_matrix (models : List Text) (c : Category) :
    ((matrix models).bucket c).keys.Nodup := by
  rw [bucket_matrix]
  exact OrderedMap.nodup_keys_ofEntries _

theorem forall_mem_keys_matrix {p : Text → Prop} :
    (∀ key ∈ ((matrix models).bucket c).keys, p key) ↔
      ∀ model ∈ models, ∀ o ∈ ruled c, p (o ++ model) := by
  simp only [mem_keys_matrix]
  constructor
  · exact fun h model hmodel o ho => h _ ⟨model, hmodel, o, ho, rfl⟩
  · rintro h key ⟨model, hmodel, o, ho, rfl⟩
    exact h model hmodel o ho

/-- No key begins like the rule, whatever the model adds to it. -/
theorem plain_ruled : ∀ c ∈ Category.all, ∀ o ∈ ruled c, CodePoint.char '"' ∉ o ∧
    (o.flatMap Json.stringPoint).isPrefixOf allow = false := by decide

theorem plain_key (ho : o ∈ ruled c) (h : CodePoint.char '"' ∉ model) :
    (Piece.key (o ++ model)).Plain := by
  obtain ⟨hquote, hprefix⟩ := plain_ruled c c.mem_all o ho
  refine ⟨by simp [hquote, h], fun hallow => ?_⟩
  rw [List.flatMap_append] at hallow
  rw [List.isPrefixOf_iff_prefix.mpr ⟨_, hallow⟩] at hprefix
  cases hprefix

theorem plain_pieces (h : ∀ model ∈ models, CodePoint.char '"' ∉ model) :
    ∀ piece ∈ (matrix models).pieces, piece.Plain := by
  have hrules (c : Category) : ∀ piece ∈ rulesPieces ((matrix models).bucket c), piece.Plain := by
    refine plain_objectPieces (List.forall_mem_map.mpr fun r hr => ⟨?_, ?_⟩)
    · have hkeys : ∀ key ∈ ((matrix models).bucket c).keys, (Piece.key key).Plain :=
        forall_mem_keys_matrix.mpr fun model hmodel o ho => plain_key ho (h model hmodel)
      exact hkeys r.1 (List.mem_map_of_mem hr)
    · exact List.forall_mem_singleton.mpr trivial
  have hname : ∀ c : Category, (Piece.key c.name).Plain := by
    rintro (_ | _ | _) <;> exact ⟨by decide, by decide⟩
  exact plain_objectPieces (List.forall_mem_map.mpr
    (forall_mem_buckets.mpr fun c => ⟨hname c, hrules c⟩))

theorem count_pieces (m : PermissionMatrix) : m.pieces.count .rule =
    m.query.length + m.mutation.length + m.subscription.length := by
  have hrules (rules : Rules) : (rulesPieces rules).count .rule = rules.length := by
    rw [rulesPieces, count_objectPieces]
    induction rules with
    | nil => rfl
    | cons r rules ih => simp [ih]
  simp [PermissionMatrix.pieces, count_objectPieces, buckets, hrules, Nat.add_assoc]

/-- The names of the operations consist of characters, so a pair can only lie in the model. -/
theorem whole_key_iff (ho : o ∈ ruled c) : (o ++ model).Whole ↔ model.Whole := by
  have hall : ∀ c ∈ Category.all, ∀ o ∈ ruled c, Text.Whole o ∧
      ∀ x ∈ o.getLast?, Json.isHighUnit x.code = false := by decide
  obtain ⟨hwhole, hlast⟩ := hall c c.mem_all o ho
  unfold Text.Whole at hwhole ⊢
  rw [List.isChain_append]
  refine ⟨fun h => h.2.1, fun h => ⟨hwhole, h, fun x hx y _ hpair => ?_⟩⟩
  rw [hlast x hx] at hpair
  cases hpair.1

end Matrix

section Read

def readRules (rules : Rules) : List (Text × Json) :=
  OrderedMap.ofEntries (rules.map fun r => (Json.joined r.1, .str allow))

theorem readsAs_rules (depth : Nat) (h : ∀ r ∈ rules, r.2 = allow) :
    Json.ReadsAs (Json.readValue (depth + 1)) (Json.indented 1 (rulesJson rules))
      (.object (readRules rules)) := by
  refine Json.readsAs_object (forall₂_map_map.mpr fun r hr => ?_)
  rw [h r hr]
  exact ⟨rfl, Json.readsAs_literal depth allow⟩

theorem read_members (h : ∀ c, ∀ r ∈ m.bucket c, r.2 = allow) :
    ∃ text : String, Json.indented 0 (.object m.members) = Text.ofString text ∧
      Json.read text = .ok (.object (m.buckets.map fun b => (b.1, .object (readRules b.2)))) := by
  have hname : ∀ c ∈ Category.all, c.name = Json.joined c.name := by decide
  have hmembers : Json.MembersReadAs (Json.readValue 989) 1 m.members
      (m.buckets.map fun b => (b.1, .object (readRules b.2))) :=
    forall₂_map_map.mpr (forall_mem_buckets.mpr fun c =>
      ⟨hname c c.mem_all, readsAs_rules 988 (h c)⟩)
  obtain ⟨text, htext, hread⟩ := Json.read_of_readsAs (Json.readsAs_object hmembers)
  exact ⟨text, htext, hread⟩

theorem readRules_eq_iff (hnodup : rules.keys.Nodup) (h : ∀ r ∈ rules, r.2 = allow) :
    .object (readRules rules) = rulesJson rules ↔ ∀ key ∈ rules.keys, key.Whole := by
  rw [rulesJson, Json.object.injEq]
  constructor
  · intro heq key hkey
    obtain ⟨r, hr, rfl⟩ := List.mem_map.mp hkey
    have hmem : (r.1, Json.str r.2) ∈ readRules rules := heq ▸ List.mem_map_of_mem hr
    obtain ⟨r', -, hr'⟩ := List.mem_map.mp (OrderedMap.mem_of_mem_ofEntries hmem)
    rw [← congrArg Prod.fst hr']
    exact Json.whole_joined r'.1
  · intro hwhole
    have hentries : (rules.map fun r => (Json.joined r.1, Json.str allow)) =
        rules.map fun r => (r.1, Json.str r.2) := List.map_congr_left fun r hr => by
      rw [Json.joined_eq_self_iff.mpr (hwhole r.1 (List.mem_map_of_mem hr)), h r hr]
    rw [readRules, hentries]
    refine OrderedMap.merge_of_nodup ?_
    simpa [OrderedMap.keys, Function.comp_def] using hnodup

theorem members_eq_iff : ((matrix models).buckets.map fun b => (b.1, .object (readRules b.2))) =
    (matrix models).members ↔ ∀ model ∈ models, Json.Spelled model := by
  have hbucket (c : Category) := (readRules_eq_iff (nodup_keys_matrix models c)
    eq_allow_of_mem_matrix).trans forall_mem_keys_matrix
  unfold PermissionMatrix.members
  simp only [List.map_inj_left, Prod.mk.injEq, true_and, forall_mem_buckets, hbucket,
    Json.spelled_iff]
  constructor
  · intro h model hmodel
    have ho : ("findFirst" : Text) ∈ ruled .query := by decide
    exact (whole_key_iff ho).mp (h .query model hmodel _ ho)
  · exact fun h c model hmodel o ho => (whole_key_iff ho).mpr (h model hmodel)

end Read

theorem rulesLiteral_eq_written (h : ∀ model ∈ models, CodePoint.char '"' ∉ model) :
    rulesLiteral (matrix models).members = (matrix models).written allow := by
  rw [rulesLiteral, indented_members fun _ => eq_allow_of_mem_matrix]
  exact replaceAll_pieces (plain_pieces h)

theorem quoteRules_rulesLiteral (h : ∀ model ∈ models, CodePoint.char '"' ∉ model) :
    quoteRules (rulesLiteral (matrix models).members) =
      Json.indented 0 (.object (matrix models).members) := by
  rw [rulesLiteral_eq_written h, indented_members fun _ => eq_allow_of_mem_matrix]
  exact quoteRules_pieces (plain_pieces h)

/-- The replacement takes the quotes from the rules and from nothing else: each rule is one of the
places where the quoted word is found, and there are no others. With the rules in quotes again it
is the JSON of the matrix, and gives the matrix back if a string of a document can stand for each
name, as it does for all names that come from one. -/
theorem rulesLiteral_matrix (h : ∀ model ∈ models, CodePoint.char '"' ∉ model) :
    Json.indented 0 (.object (matrix models).members) = (matrix models).written "\"allow\"" ∧
      rulesLiteral (matrix models).members = (matrix models).written "allow" ∧
      Text.occurrences "\"allow\"" (Json.indented 0 (.object (matrix models).members)) =
        (matrix models).query.length + (matrix models).mutation.length +
          (matrix models).subscription.length ∧
      quoteRules (rulesLiteral (matrix models).members) =
        Json.indented 0 (.object (matrix models).members) ∧
      ∃ text : String, quoteRules (rulesLiteral (matrix models).members) = Text.ofString text ∧
        (Json.read text = .ok (.object (matrix models).members) ↔
          ∀ model ∈ models, Json.Spelled model) := by
  have hallow (c : Category) : ∀ r ∈ (matrix models).bucket c, r.2 = allow :=
    eq_allow_of_mem_matrix
  have hindented := indented_members hallow
  have hquote := quoteRules_rulesLiteral h
  refine ⟨hindented, rulesLiteral_eq_written h, ?_, hquote, ?_⟩
  · rw [hindented, ← count_pieces]
    exact occurrences_pieces (plain_pieces h)
  · obtain ⟨text, htext, hread⟩ := read_members hallow
    refine ⟨text, hquote.trans htext, ?_⟩
    rw [hread, Except.ok.injEq, Json.object.injEq]
    exact members_eq_iff

/-- Names that are the rule, end in the sign of an escape, look like a member of the literal, or
are written by their codes, the last one with half a pair. -/
theorem rulesLiteral_matrix_allow :
    let models : List Text := ["allow", "\\allow\\", "\n: allow,", "é\x7f😀", [.surrogate 0x3FF]]
    (∀ model ∈ models, CodePoint.char '"' ∉ model) ∧
      Text.occurrences "\"allow\"" (Json.indented 0 (.object (matrix models).members)) = 70 ∧
      ∃ text : String, quoteRules (rulesLiteral (matrix models).members) = Text.ofString text ∧
        Json.read text = .ok (.object (matrix models).members) := by
  intro models
  have hnames : ∀ model ∈ models, CodePoint.char '"' ∉ model := by decide
  have hwhole : ∀ model ∈ models, model.Whole := by decide
  have hspelled : ∀ model ∈ models, Json.Spelled model := fun model hmodel =>
    Json.spelled_iff.mpr (hwhole model hmodel)
  obtain ⟨-, -, hcount, -, text, htext, hread⟩ := rulesLiteral_matrix hnames
  have hrules : (matrix models).query.length + (matrix models).mutation.length +
      (matrix models).subscription.length = 70 := by decide
  exact ⟨hnames, hcount.trans hrules, text, htext, hread.mpr hspelled⟩

/-- A name that consists of the two halves of a pair has no quote in it, and its rules are read back
as those of the character that the halves make up. -/
theorem not_rulesLiteral_matrix :
    let halves : Text := [.surrogate 0x3D, .surrogate 0x600]
    CodePoint.char '"' ∉ halves ∧ (matrix ["😀"]).members ≠ (matrix [halves]).members ∧
      ∃ text : String, quoteRules (rulesLiteral (matrix [halves]).members) = Text.ofString text ∧
        Json.read text = .ok (.object (matrix ["😀"]).members) := by
  intro halves
  have hquote : ∀ model ∈ [halves], CodePoint.char '"' ∉ model := by decide
  refine ⟨by decide, by decide, ?_⟩
  obtain ⟨text, htext, hread⟩ :=
    read_members (m := matrix [halves]) fun _ => eq_allow_of_mem_matrix
  refine ⟨text, (quoteRules_rulesLiteral hquote).trans htext, hread.trans ?_⟩
  decide +kernel

end Policy

end RouterLayer
