import RouterLayer.Naming
import RouterLayer.Proofs.Text.Case
import RouterLayer.Proofs.Text.Layout

set_option autoImplicit false

namespace RouterLayer

open Text (isFlat IsFlat)

section Ascii

theorem CodePoint.forall_ascii (good : CodePoint → Prop) (h : ∀ n : Fin 128, good (.ofCode n))
    {c : CodePoint} (hc : c.code < 128) : good c := by
  rw [← c.ofCode_code]
  exact h ⟨c.code, hc⟩

theorem CodePoint.code_lt_of_isLetter {c : CodePoint} (h : c.isLetter = true) : c.code < 128 := by
  cases c with
  | char c =>
    have hlast : 'z'.val.toNat = 122 ∧ 'Z'.val.toNat = 90 := by decide
    simp only [isLetter, Bool.or_eq_true, Bool.and_eq_true, decide_eq_true_eq, Char.le_def,
      UInt32.le_iff_toNat_le, hlast] at h
    change c.val.toNat < 128
    omega
  | surrogate index => cases h

namespace Text

/-- An identifier of the generated language that keeps to ASCII. -/
def IsAsciiIdentifier (s : Text) : Prop := s.IsIdentifier ∧ s.isAscii = true

instance (s : Text) : Decidable s.IsAsciiIdentifier := inferInstanceAs (Decidable (_ ∧ _))

variable {s : Text} {c : CodePoint}

theorem code_lt_of_isAscii (h : s.isAscii = true) : ∀ c ∈ s, c.code < 128 := by
  simpa [isAscii] using h

theorem isFlat_of_isLetter (h : c.isLetter = true) : isFlat c = true :=
  CodePoint.forall_ascii (fun c => c.isLetter = true → isFlat c = true) (by decide +kernel)
    (CodePoint.code_lt_of_isLetter h) h

theorem IsAsciiIdentifier.isFlat (h : s.IsAsciiIdentifier) : s.IsFlat := fun c hc =>
  CodePoint.forall_ascii (fun c => isIdentifierPoint c = true → Text.isFlat c = true)
    (by decide +kernel) (code_lt_of_isAscii h.2 c hc) (h.1.2 c hc)

theorem isFlat_asciiLower (hascii : s.isAscii = true) (h : s.IsFlat) : (asciiLower s).IsFlat := by
  have hpoint : ∀ c ∈ s, IsFlat (asciiLower [c]) := fun c hc =>
    CodePoint.forall_ascii (fun c => Text.isFlat c = true → IsFlat (asciiLower [c]))
      (by decide +kernel) (code_lt_of_isAscii hascii c hc) (h c hc)
  intro d hd
  obtain ⟨c, hc, rfl⟩ := List.mem_map.mp hd
  exact hpoint c hc _ (List.mem_singleton_self _)

theorem isFlat_lower (hascii : s.isAscii = true) (h : s.IsFlat) : (lower s).IsFlat := by
  rw [lower_eq_asciiLower hascii]
  exact isFlat_asciiLower hascii h

theorem dropFirst_subset (pattern s : Text) : dropFirst pattern s ⊆ s := by
  induction s with
  | nil => exact List.Subset.refl _
  | cons c s ih =>
    rw [dropFirst]
    split
    · exact List.drop_subset _ _
    · exact List.cons_subset_cons c ih

end Text

end Ascii

namespace Plural

variable {s : Text}

theorem isLetter_of_irregular : ∀ w ∈ irregular, ∀ c ∈ w.2, c.isLetter = true := by decide

theorem isLetter_of_ending : ∀ rule ∈ rules, ∀ c ∈ rule.ending, c.isLetter = true := by decide

theorem isFlat_byRule (h : s.IsFlat) : (byRule s).IsFlat := by
  unfold byRule
  cases hrule : rules.findSome? (·.inflect? s) with
  | none => exact h
  | some text =>
    obtain ⟨rule, hmem, hinflect⟩ := List.exists_of_findSome?_eq_some hrule
    obtain ⟨ending, -, hending⟩ := List.exists_of_findSome?_eq_some hinflect
    split at hending
    · cases hending
    · next kept hkept =>
      simp only [before?] at hkept
      split at hkept <;> cases hkept
      split at hending <;> cases hending
      exact .append (fun c hc => h c (List.mem_of_mem_take hc)) fun c hc =>
        Text.isFlat_of_isLetter (isLetter_of_ending rule hmem c hc)

theorem isFlat_plural (h : s.IsFlat) : (plural s).IsFlat := by
  unfold plural
  split
  · exact h
  · split
    · next p hp =>
      obtain ⟨before, after, heq, -⟩ := List.lookup_eq_some_iff.mp hp
      have hmem : (s, p) ∈ irregular := heq ▸ List.mem_append_right _ List.mem_cons_self
      exact fun c hc => Text.isFlat_of_isLetter (isLetter_of_irregular (s, p) hmem c hc)
    · split
      · exact h
      · unfold beforeLineEnd
        split
        · next hline => exact nomatch h (.char '\n') (List.mem_of_getLast? hline)
        · exact isFlat_byRule h

end Plural

namespace Naming

variable {model : Text}

theorem isFlat_routerKey (h : model.IsAsciiIdentifier) : (routerKey model).IsFlat :=
  Text.isFlat_lower h.2 h.isFlat

theorem isFlat_routerSymbol (h : model.IsAsciiIdentifier) : (routerSymbol model).IsFlat :=
  (Plural.isFlat_plural (isFlat_routerKey h)).append (by decide)

theorem isFlat_uncapitalize (h : model.IsAsciiIdentifier) : (uncapitalize model).IsFlat := by
  have hflat := h.isFlat
  cases model with
  | nil => exact hflat
  | cons c rest =>
    obtain ⟨hc, hrest⟩ := List.forall_mem_cons.mp hflat
    have hsmall := Text.code_lt_of_isAscii h.2 c List.mem_cons_self
    have hfirst : IsFlat (Text.asciiLower [c]) :=
      Text.isFlat_asciiLower (by simpa [Text.isAscii] using hsmall) (by simpa [IsFlat] using hc)
    rw [uncapitalize, mapFirst, Text.lowerPoint_of_code hsmall]
    exact hfirst.append hrest

theorem isFlat_procedureKey {name : Text} (h : name.IsFlat) (model : Text) (showModel : Bool) :
    (procedureKey name model showModel).IsFlat := by
  unfold procedureKey
  split
  · exact h
  · split
    · exact h
    · exact fun c hc => h c (Text.dropFirst_subset model name hc)

end Naming

end RouterLayer
