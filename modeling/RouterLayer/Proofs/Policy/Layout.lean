import RouterLayer.Proofs.Policy.Literal
import RouterLayer.Proofs.Router.Names

set_option autoImplicit false

namespace RouterLayer

open Text (IsFlat Span layout)

section Pieces

open Json (newLine)

variable (word : Text) {name : Text}

theorem Json.layout_newLine (level : Nat) (due : Text) :
    ∃ row, layout (due, .shown) (newLine level) = some (due, row) := by
  have hblanks : IsFlat (List.replicate (2 * level) (.char ' ')) := by
    intro c hc
    rw [List.eq_of_mem_replicate hc]
    decide
  exact Text.IsFlat.exists_layout hblanks due .start

theorem span_key (h : IsFlat (name.flatMap Json.stringPoint)) (level : Nat) :
    Span (newLine level ++ (Piece.key name).text word) := by
  intro due
  obtain ⟨row, hrow⟩ := Json.layout_newLine level due
  have hquote (t : Text) : layout (due, row) (.char '"' :: t) = layout (due, .shown) t := by
    cases row <;> rfl
  have htext : (Piece.key name).text word =
      .char '"' :: (name.flatMap Json.stringPoint ++ ("\": " : Text)) := by
    simp [Piece.text, Json.stringLiteral, Text.ofString, Text.ofChars]
  rw [Text.layout_append, hrow, Option.bind_some, htext, hquote, h.span.skip]
  rfl

/-- The keys are flat, and the values close their own brackets. -/
def SpanParts (parts : List (Text × List Piece)) : Prop :=
  ∀ part ∈ parts, IsFlat (part.1.flatMap Json.stringPoint) ∧ Span (piecesText word part.2)

variable {word} {parts : List (Text × List Piece)}

theorem span_memberPieces (h : SpanParts word parts) (level : Nat) :
    Span (piecesText word (memberPieces level parts)) := by
  induction parts with
  | nil => exact fun _ => rfl
  | cons part parts ih =>
    obtain ⟨⟨hkey, hvalue⟩, hparts⟩ := List.forall_mem_cons.mp h
    have hcomma : Span "," := fun _ => rfl
    have hmember := (hcomma.append (span_key word hkey level)).append
      (hvalue.append (ih hparts))
    simpa [memberPieces, Piece.text] using hmember

theorem span_objectPieces (h : SpanParts word parts) (level : Nat) :
    Span (piecesText word (objectPieces level parts)) := by
  cases parts with
  | nil => exact fun _ => rfl
  | cons part parts =>
    obtain ⟨⟨hkey, hvalue⟩, hparts⟩ := List.forall_mem_cons.mp h
    have hmembers := (span_key word hkey (level + 1)).append
      (hvalue.append (span_memberPieces hparts (level + 1)))
    intro due
    obtain ⟨row, hrow⟩ := Json.layout_newLine level ("\x7d" ++ due)
    have htext : piecesText word (objectPieces level (part :: parts)) =
        "\x7b" ++ ((newLine (level + 1) ++ (Piece.key part.1).text word ++
          (piecesText word part.2 ++ piecesText word (memberPieces (level + 1) parts))) ++
            (newLine level ++ "\x7d")) := by
      simp [objectPieces, Piece.text]
    have hopen : layout (due, .shown) "\x7b" = some ("\x7d" ++ due, .shown) := rfl
    rw [htext, Text.layout_append, hopen, Option.bind_some, hmembers.skip, Text.layout_append, hrow,
      Option.bind_some]
    cases row <;> rfl

end Pieces

theorem Text.isFlat_stringPoints {s : Text} (h : s.IsAsciiIdentifier) :
    IsFlat (s.flatMap Json.stringPoint) :=
  .flatMap fun c hc => CodePoint.forall_ascii
    (fun c => isIdentifierPoint c = true → IsFlat (Json.stringPoint c)) (by decide +kernel)
    (code_lt_of_isAscii h.2 c hc) (h.1.2 c hc)

theorem Text.IsAsciiIdentifier.append {s t : Text} (hs : s.IsAsciiIdentifier)
    (ht : t.IsAsciiIdentifier) : (s ++ t).IsAsciiIdentifier :=
  ⟨⟨List.append_ne_nil_of_left_ne_nil hs.1.1 t, List.forall_mem_append.mpr ⟨hs.1.2, ht.1.2⟩⟩,
    isAscii_append.mpr ⟨hs.2, ht.2⟩⟩

namespace Policy

open PermissionMatrix

variable {models : List Text}

theorem span_rulesLiteral (h : ∀ model ∈ models, model.IsAsciiIdentifier) :
    Span (rulesLiteral (matrix models).members) := by
  have hoperation : ∀ c ∈ Category.all, ∀ o ∈ ruled c, Text.IsAsciiIdentifier o := by decide
  have hquote : ∀ model ∈ models, CodePoint.char '"' ∉ model := fun model hmodel hmem =>
    nomatch (h model hmodel).1.2 _ hmem
  have hrules (c : Category) : Span (piecesText allow (rulesPieces ((matrix models).bucket c))) := by
    refine span_objectPieces (List.forall_mem_map.mpr fun r hr => ⟨?_, fun _ => rfl⟩) 1
    have hkeys : ∀ key ∈ ((matrix models).bucket c).keys, IsFlat (key.flatMap Json.stringPoint) :=
      forall_mem_keys_matrix.mpr fun model hmodel o ho =>
        Text.isFlat_stringPoints ((hoperation c c.mem_all o ho).append (h model hmodel))
    exact hkeys r.1 (List.mem_map_of_mem hr)
  have hname : ∀ c ∈ Category.all, IsFlat (c.name.flatMap Json.stringPoint) := by decide
  rw [rulesLiteral_eq_written hquote]
  exact span_objectPieces (List.forall_mem_map.mpr
    (forall_mem_buckets.mpr fun c => ⟨hname c c.mem_all, hrules c⟩)) 0

end Policy

end RouterLayer
