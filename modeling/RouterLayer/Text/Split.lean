import RouterLayer.Text.Basic

set_option autoImplicit false

namespace RouterLayer.Text

/-- The pieces between the separators; empty pieces are kept, so there is always one piece. -/
def splitAll (sep : CodePoint) : Text → List Text
  | [] => [[]]
  | c :: cs =>
    if c = sep then [] :: splitAll sep cs
    else
      match splitAll sep cs with
      | [] => [[c]]
      | piece :: pieces => (c :: piece) :: pieces

def joinWith (sep : CodePoint) : List Text → Text
  | [] => []
  | [piece] => piece
  | piece :: pieces => piece ++ sep :: joinWith sep pieces

def cut? (sep : CodePoint) : Text → Option (Text × Text)
  | [] => none
  | c :: cs =>
    if c = sep then some ([], cs)
    else (cut? sep cs).map fun p => (c :: p.1, p.2)

/-- What follows the last separator; everything when there is none. -/
def afterLast (sep : CodePoint) (cs : Text) : Text :=
  (cs.reverse.takeWhile (· ≠ sep)).reverse

def dropFirst (pattern : Text) : Text → Text
  | [] => []
  | c :: cs =>
    if pattern.isPrefixOf (c :: cs) then (c :: cs).drop pattern.length
    else c :: dropFirst pattern cs

/-- Replaces the occurrences of a pattern from left to right; `skip` code points belong to an
occurrence that was replaced already. -/
def replaceAllFrom (pattern replacement : Text) : Nat → Text → Text
  | _, [] => []
  | skip + 1, _ :: cs => replaceAllFrom pattern replacement skip cs
  | 0, c :: cs =>
    if pattern.isPrefixOf (c :: cs) then
      replacement ++ replaceAllFrom pattern replacement (pattern.length - 1) cs
    else c :: replaceAllFrom pattern replacement 0 cs

def replaceAll (pattern replacement cs : Text) : Text :=
  replaceAllFrom pattern replacement 0 cs

theorem splitAll_ne_nil (sep : CodePoint) (cs : Text) : splitAll sep cs ≠ [] := by
  cases cs with
  | nil => simp [splitAll]
  | cons c cs =>
    simp only [splitAll]
    split
    · simp
    · split <;> simp

theorem joinWith_splitAll (sep : CodePoint) (cs : Text) :
    joinWith sep (splitAll sep cs) = cs := by
  induction cs with
  | nil => rfl
  | cons c cs ih =>
    cases h : splitAll sep cs with
    | nil => exact absurd h (splitAll_ne_nil sep cs)
    | cons piece pieces =>
      rw [h] at ih
      by_cases hc : c = sep
      · simp [splitAll, hc, h, joinWith, ih]
      · cases pieces <;> simp_all [splitAll, joinWith]

theorem mem_joinWith {sep c : CodePoint} {pieces : List Text} (h : c ∈ joinWith sep pieces) :
    c = sep ∨ ∃ piece ∈ pieces, c ∈ piece := by
  induction pieces with
  | nil => cases h
  | cons piece pieces ih =>
    cases pieces with
    | nil => exact .inr ⟨piece, List.mem_singleton_self _, h⟩
    | cons next pieces =>
      have hjoin : joinWith sep (piece :: next :: pieces) =
          piece ++ sep :: joinWith sep (next :: pieces) := rfl
      rw [hjoin, List.mem_append, List.mem_cons] at h
      rcases h with h | h | h
      · exact .inr ⟨piece, List.mem_cons_self, h⟩
      · exact .inl h
      · exact (ih h).imp_right fun ⟨other, hmem, hc⟩ => ⟨other, List.mem_cons_of_mem _ hmem, hc⟩

theorem splitAll_of_not_mem {sep : CodePoint} {cs : Text} (h : sep ∉ cs) :
    splitAll sep cs = [cs] := by
  induction cs with
  | nil => rfl
  | cons c cs ih =>
    simp only [List.mem_cons, not_or] at h
    rw [splitAll, if_neg (Ne.symm h.1), ih h.2]

theorem splitAll_append_sep {sep : CodePoint} {piece : Text} (h : sep ∉ piece) (cs : Text) :
    splitAll sep (piece ++ sep :: cs) = piece :: splitAll sep cs := by
  induction piece with
  | nil => simp [splitAll]
  | cons c piece ih =>
    simp only [List.mem_cons, not_or] at h
    rw [List.cons_append, splitAll, if_neg (Ne.symm h.1), ih h.2]

theorem splitAll_joinWith {sep : CodePoint} {pieces : List Text} (hne : pieces ≠ [])
    (h : ∀ piece ∈ pieces, sep ∉ piece) : splitAll sep (joinWith sep pieces) = pieces := by
  induction pieces with
  | nil => exact absurd rfl hne
  | cons piece pieces ih =>
    obtain ⟨hpiece, hrest⟩ := List.forall_mem_cons.mp h
    cases pieces with
    | nil => exact splitAll_of_not_mem hpiece
    | cons next pieces =>
      rw [joinWith, splitAll_append_sep hpiece, ih (List.cons_ne_nil _ _) hrest]
      exact List.cons_ne_nil _ _

theorem not_mem_of_mem_splitAll {sep : CodePoint} {cs piece : Text}
    (h : piece ∈ splitAll sep cs) : sep ∉ piece := by
  induction cs generalizing piece with
  | nil => rw [List.mem_singleton.mp h]; exact List.not_mem_nil
  | cons c cs ih =>
    rw [splitAll] at h
    split at h
    · rcases List.mem_cons.mp h with rfl | h
      · exact List.not_mem_nil
      · exact ih h
    · next hc =>
      split at h
      · rw [List.mem_singleton.mp h, List.mem_singleton]; exact Ne.symm hc
      · next first pieces hsplit =>
        rw [hsplit] at ih
        rcases List.mem_cons.mp h with rfl | h
        · have hfirst := ih List.mem_cons_self
          simp only [List.mem_cons, not_or]
          exact ⟨Ne.symm hc, hfirst⟩
        · exact ih (List.mem_cons_of_mem _ h)

theorem cut?_eq_some {sep : CodePoint} {cs front rest : Text} :
    cut? sep cs = some (front, rest) ↔ cs = front ++ sep :: rest ∧ sep ∉ front := by
  induction cs generalizing front with
  | nil => simp [cut?]
  | cons c cs ih =>
    rw [cut?]
    split
    · next hc =>
      subst hc
      constructor
      · intro h
        cases h
        exact ⟨rfl, List.not_mem_nil⟩
      · rintro ⟨h, hfront⟩
        cases front with
        | nil => cases h; rfl
        | cons d front =>
          obtain ⟨rfl, -⟩ := List.cons.inj h
          exact absurd List.mem_cons_self hfront
    · next hc =>
      rw [Option.map_eq_some_iff]
      constructor
      · rintro ⟨⟨piece, tail⟩, hcut, h⟩
        cases h
        obtain ⟨rfl, hpiece⟩ := ih.mp hcut
        refine ⟨rfl, ?_⟩
        rw [List.mem_cons, not_or]
        exact ⟨Ne.symm hc, hpiece⟩
      · rintro ⟨h, hfront⟩
        cases front with
        | nil => exact absurd (List.cons.inj h).1 hc
        | cons d front =>
          obtain ⟨rfl, rfl⟩ := List.cons.inj h
          rw [List.mem_cons, not_or] at hfront
          exact ⟨(front, rest), ih.mpr ⟨rfl, hfront.2⟩, rfl⟩

end RouterLayer.Text
