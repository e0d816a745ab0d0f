import RouterLayer.Proofs.Text.Blank
import RouterLayer.Text.Case

set_option autoImplicit false

namespace RouterLayer.Text

def Padded (word s : Text) : Prop :=
  ∃ before after, s = before ++ (word ++ after) ∧ (∀ c ∈ before, isBlank c = true) ∧
    ∀ c ∈ after, isBlank c = true

section

variable {word s : Text}

theorem Padded.strip (h : Padded word s) (hword : Trimmed isBlank word) : strip s = word := by
  obtain ⟨before, after, rfl, hbefore, hafter⟩ := h
  exact trim_padded hword hbefore hafter

theorem Padded.not_mem (h : Padded word s) {c : CodePoint} (hblank : isBlank c = false)
    (hword : c ∉ word) : c ∉ s := by
  obtain ⟨before, after, rfl, hbefore, hafter⟩ := h
  have hside {side : Text} (hside : ∀ c ∈ side, isBlank c = true) : c ∉ side := fun hc => by
    rw [hside c hc] at hblank
    cases hblank
  simp only [List.mem_append, not_or]
  exact ⟨hside hbefore, hword, hside hafter⟩

theorem trimmed_strip (s : Text) : Trimmed isBlank (strip s) := by
  have hhead (t : Text) : ∀ c ∈ (t.dropWhile isBlank).head?, isBlank c = false := fun c hc => by
    have hnot := List.head?_dropWhile_not isBlank t
    rw [Option.mem_def.mp hc] at hnot
    exact hnot
  refine ⟨fun c hc => ?_, fun c hc => ?_⟩
  · -- what is left at the front is left of what the first pass did not drop
    have hfront : strip s <+: s.dropWhile isBlank := by
      rw [strip, trim, ← List.reverse_suffix, List.reverse_reverse]
      exact List.dropWhile_suffix _
    obtain ⟨rest, hrest⟩ := hfront
    refine hhead s c ?_
    rw [← hrest, List.head?_append, Option.mem_def.mp hc]
    rfl
  · rw [strip, trim, List.getLast?_reverse] at hc
    exact hhead _ c hc

theorem strip_of_trimmed (h : Trimmed isBlank s) : strip s = s := by
  refine Padded.strip ⟨[], [], ?_, nofun, nofun⟩ h
  rw [List.append_nil, List.nil_append]

theorem strip_strip (s : Text) : strip (strip s) = strip s := strip_of_trimmed (trimmed_strip s)

theorem isBlankText_iff : isBlankText s = true ↔ strip s = [] := by
  constructor
  · intro h
    have hpadded : Padded [] s := ⟨s, [], by simp, List.all_eq_true.mp h, nofun⟩
    exact hpadded.strip ⟨nofun, nofun⟩
  · intro h
    obtain ⟨before, after, hs, hbefore, hafter⟩ := strip_eq_append s
    rw [h, List.nil_append] at hs
    refine List.all_eq_true.mpr fun c hc => ?_
    rw [hs] at hc
    exact (List.mem_append.mp hc).elim (hbefore c) (hafter c)

end

section Word

theorem asciiLower_of_isBlank {c : CodePoint} (h : isBlank c = true) : asciiLower [c] = [c] := by
  have hletter := not_isLetter_of_isBlank h
  cases c with
  | surrogate index => rfl
  | char c =>
    simp only [CodePoint.isLetter, Bool.or_eq_false_iff, Bool.and_eq_false_iff,
      decide_eq_false_iff_not] at hletter
    have hlower : c.toLower = c := by
      unfold Char.toLower
      rw [dif_neg]
      rintro ⟨hA, hZ⟩
      exact hletter.2.elim (fun h => h hA) (fun h => h hZ)
    simp only [asciiLower, List.map_cons, List.map_nil, hlower]

theorem trimmed_of_asciiLower {s word : Text} (h : asciiLower s = word)
    (hword : ∀ c ∈ word, isBlank c = false) : Trimmed isBlank s := by
  refine trimmed_of_forall fun c hc => ?_
  rw [← Bool.not_eq_true]
  intro hblank
  have hmem : c ∈ word := by
    have hsame := asciiLower_of_isBlank hblank
    simp only [asciiLower, List.map_cons, List.map_nil, List.cons.injEq, and_true] at hsame
    rw [← h, asciiLower, List.mem_map]
    exact ⟨c, hc, hsame⟩
  rw [hword c hmem] at hblank
  cases hblank

end Word

end RouterLayer.Text
