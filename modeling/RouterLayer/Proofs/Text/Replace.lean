import Mathlib.Data.List.Infix
import RouterLayer.Text.Split

set_option autoImplicit false

namespace RouterLayer.Text

def occurrences (pattern s : Text) : Nat := s.tails.countP fun t => pattern.isPrefixOf t

def Apart (pattern : Text) : (s t : Text) → Prop
  | [], _ => True
  | c :: s, t => ¬pattern <+: c :: (s ++ t) ∧ Apart pattern s t

variable {first : CodePoint} {pattern replacement s s' t : Text}

theorem apart_cons {c : CodePoint} :
    Apart pattern (c :: s) t ↔ ¬pattern <+: c :: (s ++ t) ∧ Apart pattern s t := Iff.rfl

theorem apart_of_not_mem (h : first ∉ s) : Apart (first :: pattern) s t := by
  induction s with
  | nil => trivial
  | cons c s ih =>
    simp only [List.mem_cons, not_or] at h
    exact apart_cons.mpr ⟨by simp [h.1], ih h.2⟩

theorem Apart.append (hs : Apart pattern s (s' ++ t)) (hs' : Apart pattern s' t) :
    Apart pattern (s ++ s') t := by
  induction s with
  | nil => exact hs'
  | cons c s ih =>
    obtain ⟨hfirst, hs⟩ := apart_cons.mp hs
    rw [List.cons_append, apart_cons, List.append_assoc]
    exact ⟨hfirst, ih hs⟩

theorem replaceAll_apart (h : Apart pattern s t) :
    replaceAll pattern replacement (s ++ t) = s ++ replaceAll pattern replacement t := by
  induction s with
  | nil => rfl
  | cons c s ih =>
    obtain ⟨hfirst, hs⟩ := apart_cons.mp h
    have hrest := ih hs
    unfold replaceAll at hrest ⊢
    rw [List.cons_append, replaceAllFrom, if_neg (by simp [hfirst]), hrest, List.cons_append]

theorem replaceAllFrom_skip (s t : Text) : replaceAllFrom pattern replacement s.length (s ++ t) =
    replaceAllFrom pattern replacement 0 t := by
  induction s with
  | nil => rfl
  | cons c s ih => exact ih

theorem replaceAll_self (t : Text) : replaceAll (first :: pattern) replacement
    (first :: pattern ++ t) = replacement ++ replaceAll (first :: pattern) replacement t := by
  have hprefix : (first :: pattern).isPrefixOf (first :: (pattern ++ t)) = true :=
    List.isPrefixOf_iff_prefix.mpr (List.prefix_append (first :: pattern) t)
  unfold replaceAll
  rw [List.cons_append, replaceAllFrom, if_pos hprefix, List.length_cons, Nat.add_sub_cancel,
    replaceAllFrom_skip]

theorem occurrences_cons (c : CodePoint) (s : Text) : occurrences pattern (c :: s) =
    occurrences pattern s + if pattern.isPrefixOf (c :: s) then 1 else 0 := by
  rw [occurrences, List.tails_cons, List.countP_cons]
  rfl

theorem occurrences_apart (h : Apart pattern s t) :
    occurrences pattern (s ++ t) = occurrences pattern t := by
  induction s with
  | nil => rfl
  | cons c s ih =>
    obtain ⟨hfirst, hs⟩ := apart_cons.mp h
    rw [List.cons_append, occurrences_cons, if_neg (by simp [hfirst]), ih hs, Nat.add_zero]

theorem occurrences_self (h : Apart (first :: pattern) pattern t) :
    occurrences (first :: pattern) (first :: pattern ++ t) =
      occurrences (first :: pattern) t + 1 := by
  have hprefix : (first :: pattern).isPrefixOf (first :: (pattern ++ t)) = true :=
    List.isPrefixOf_iff_prefix.mpr (List.prefix_append (first :: pattern) t)
  rw [List.cons_append, occurrences_cons, if_pos hprefix, occurrences_apart h]

end RouterLayer.Text
