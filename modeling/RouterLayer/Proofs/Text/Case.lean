import RouterLayer.Text.Case

set_option autoImplicit false

namespace RouterLayer

theorem CodePoint.code_ofCode {n : Nat} (h : n < 0x110000) : (ofCode n).code = n := by
  unfold ofCode
  split
  · next hs =>
    simp only [code]
    omega
  · next hs =>
    have hvalid : n.isValidChar := by
      simp only [Nat.isValidChar]
      omega
    rw [Char.ofNat, dif_pos hvalid]
    rfl

namespace Text

def isAscii (s : Text) : Bool := s.all (·.code < 128)

theorem isAscii_append {s t : Text} : (s ++ t).isAscii = true ↔ s.isAscii ∧ t.isAscii := by
  rw [isAscii, List.all_append, Bool.and_eq_true]
  rfl

theorem lowerBetween_of_code {c : CodePoint} (h : c.code < 128) (before rest : Text) :
    lowerBetween before rest c = lowerPoint c := by
  have hsigma : c ≠ 'Σ' := by
    rintro rfl
    exact absurd h (by decide)
  rw [lowerBetween, if_neg hsigma]

theorem lowerAfter_of_isAscii {s : Text} (h : s.isAscii = true) (before : Text) :
    lowerAfter before s = s.flatMap lowerPoint := by
  induction s generalizing before with
  | nil => rfl
  | cons c rest ih =>
    rw [isAscii, List.all_cons, Bool.and_eq_true, decide_eq_true_eq] at h
    rw [lowerAfter, lowerBetween_of_code h.1, ih h.2, List.flatMap_cons]

theorem lower_of_isAscii {s : Text} (h : s.isAscii = true) : lower s = s.flatMap lowerPoint :=
  lowerAfter_of_isAscii h []

theorem lower_append {s t : Text} (hs : s.isAscii = true) (ht : t.isAscii = true) :
    lower (s ++ t) = lower s ++ lower t := by
  rw [lower_of_isAscii (isAscii_append.mpr ⟨hs, ht⟩), lower_of_isAscii hs, lower_of_isAscii ht,
    List.flatMap_append]

/-! ### Words of a fixed vocabulary -/

section Word

variable {s : Text}

theorem lowerPoint_of_code {c : CodePoint} (h : c.code < 128) : lowerPoint c = asciiLower [c] := by
  have hall : ∀ n : Fin 128, lowerPoint (.ofCode n) = asciiLower [.ofCode n] := by decide +kernel
  rw [← c.ofCode_code]
  exact hall ⟨c.code, h⟩

theorem lower_eq_asciiLower (h : s.isAscii = true) : lower s = asciiLower s := by
  rw [lower_of_isAscii h]
  induction s with
  | nil => rfl
  | cons c s ih =>
    rw [isAscii, List.all_cons, Bool.and_eq_true, decide_eq_true_eq] at h
    rw [List.flatMap_cons, lowerPoint_of_code h.1, ih h.2]
    rfl

/-- The lower case of what is no ASCII character is none either, but for the kelvin sign. -/
theorem exists_mem_lowerPoint {c : CodePoint} (h : 128 ≤ c.code) :
    ∃ d ∈ lowerPoint c, 128 ≤ d.code ∨ d = .char 'k' := by
  have hexpansions : ∀ e ∈ lowerExpansions, ∃ code ∈ e.2, 128 ≤ code ∧ code < 0x110000 := by decide
  have hruns : ∀ r ∈ lowerRuns, r.last < 128 ∨ r = ⟨0x212A, 0x212A, 1, -8383⟩ ∨
      (128 ≤ r.first + r.shift ∧ r.last + r.shift < 0x110000) := by decide +kernel
  unfold lowerPoint caseMap
  split
  · next codes hcodes =>
    obtain ⟨_, _, hmem, -⟩ := List.lookup_eq_some_iff.mp hcodes
    obtain ⟨code, hcode, hlarge, hsmall⟩ := hexpansions (c.code, codes) (by simp [hmem])
    refine ⟨_, List.mem_map_of_mem hcode, .inl ?_⟩
    rwa [CodePoint.code_ofCode hsmall]
  · split
    · next r hr =>
      have hcontains := List.find?_some hr
      simp only [CaseRun.contains, Bool.and_eq_true, decide_eq_true_eq] at hcontains
      refine ⟨_, List.mem_singleton_self _, ?_⟩
      rcases hruns r (List.mem_of_find?_eq_some hr) with hlast | rfl | ⟨hfirst, hlast⟩
      · omega
      · have hc : c.code = 0x212A := by
          dsimp only at hcontains
          omega
        rw [hc]
        exact .inr rfl
      · refine .inl ?_
        rw [CodePoint.code_ofCode] <;> omega
    · exact ⟨c, List.mem_singleton_self c, .inl h⟩

theorem lowerBetween_subset {c : CodePoint} (h : c ∈ s) (before : Text) :
    ∃ earlier later, lowerBetween earlier later c ⊆ lowerAfter before s := by
  induction s generalizing before with
  | nil => cases h
  | cons d s ih =>
    rw [lowerAfter]
    rcases List.mem_cons.mp h with rfl | h
    · exact ⟨before, s, List.subset_append_left _ _⟩
    · obtain ⟨earlier, later, hsubset⟩ := ih h (d :: before)
      exact ⟨earlier, later, List.subset_append_of_subset_right _ hsubset⟩

theorem isAscii_of_lower (h : ∀ d ∈ lower s, d.code < 128 ∧ d ≠ .char 'k') : s.isAscii = true := by
  refine List.all_eq_true.mpr fun c hc => decide_eq_true (Nat.lt_of_not_le fun hlarge => ?_)
  obtain ⟨earlier, later, hsubset⟩ := lowerBetween_subset hc []
  have hfar : ∃ d ∈ lowerBetween earlier later c, 128 ≤ d.code ∨ d = .char 'k' := by
    unfold lowerBetween
    split
    · split
      · exact ⟨_, List.mem_singleton_self _, .inl (by decide)⟩
      · exact ⟨_, List.mem_singleton_self _, .inl (by decide)⟩
    · exact exists_mem_lowerPoint hlarge
  obtain ⟨d, hd, hfar⟩ := hfar
  obtain ⟨hsmall, hk⟩ := h d (hsubset hd)
  rcases hfar with hfar | hfar
  · omega
  · exact hk hfar

theorem toNat_lt_of_toLower {c : Char} (h : c.toLower.toNat < 128) : c.toNat < 128 := by
  unfold Char.toLower at h
  split at h
  · next hrange =>
    have hlast : c.toNat ≤ 90 := UInt32.le_iff_toNat_le.mp hrange.2
    omega
  · exact h

theorem isAscii_of_asciiLower (h : (asciiLower s).isAscii = true) : s.isAscii = true := by
  refine List.all_eq_true.mpr fun c hc => decide_eq_true ?_
  have hlower := of_decide_eq_true (List.all_eq_true.mp h _ (List.mem_map_of_mem hc))
  cases c with
  | char c => exact toNat_lt_of_toLower hlower
  | surrogate index => exact hlower

/-- A word in any case. The small k is left out: it is the lower case of the kelvin sign, too. -/
theorem lower_eq_iff {w : Text} (hw : ∀ d ∈ w, d.code < 128 ∧ d ≠ .char 'k') :
    lower s = w ↔ asciiLower s = w := by
  constructor
  · rintro rfl
    exact (lower_eq_asciiLower (isAscii_of_lower hw)).symm
  · rintro rfl
    refine lower_eq_asciiLower (isAscii_of_asciiLower ?_)
    exact List.all_eq_true.mpr fun d hd => decide_eq_true (hw d hd).1

end Word

end Text

end RouterLayer
