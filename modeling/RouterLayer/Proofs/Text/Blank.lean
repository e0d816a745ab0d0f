import Mathlib.Data.List.TakeWhile
import RouterLayer.Text.Blank

set_option autoImplicit false

namespace RouterLayer.Text

theorem not_isLetter_of_isBlank {c : CodePoint} (h : isBlank c = true) :
    c.isLetter = false := by
  have hranges : ∀ r ∈ blankRanges, r.2 < 65 ∨ 122 < r.1 := by decide
  obtain ⟨r, hr, hc⟩ := List.any_eq_true.mp h
  simp only [Bool.and_eq_true, decide_eq_true_eq] at hc
  have hout : c.code < 65 ∨ 122 < c.code := by
    have := hranges r hr
    omega
  cases c with
  | char c =>
    rw [← Bool.not_eq_true]
    simp only [CodePoint.isLetter, Bool.or_eq_true, Bool.and_eq_true, decide_eq_true_eq,
      Char.le_def, UInt32.le_iff_toNat_le]
    simp only [CodePoint.code, Char.toNat] at hout
    have ha : 'a'.val.toNat = 97 := rfl
    have hz : 'z'.val.toNat = 122 := rfl
    have hA : 'A'.val.toNat = 65 := rfl
    have hZ : 'Z'.val.toNat = 90 := rfl
    omega
  | surrogate _ => rfl

theorem strip_eq_append (s : Text) : ∃ before after, s = before ++ (strip s ++ after) ∧
    (∀ c ∈ before, isBlank c = true) ∧ ∀ c ∈ after, isBlank c = true := by
  refine ⟨s.takeWhile isBlank, ((s.dropWhile isBlank).reverse.takeWhile isBlank).reverse, ?_,
    fun c hc => List.mem_takeWhile_imp hc,
    fun c hc => List.mem_takeWhile_imp (List.mem_reverse.mp hc)⟩
  rw [strip, trim, ← List.reverse_append, List.takeWhile_append_dropWhile, List.reverse_reverse,
    List.takeWhile_append_dropWhile]

structure Trimmed (drop : CodePoint → Bool) (s : Text) : Prop where
  head : ∀ c ∈ s.head?, drop c = false
  last : ∀ c ∈ s.getLast?, drop c = false

variable {drop : CodePoint → Bool} {s : Text}

theorem Trimmed.mono {weaker : CodePoint → Bool} (h : Trimmed drop s)
    (hweaker : ∀ c, drop c = false → weaker c = false) : Trimmed weaker s :=
  ⟨fun c hc => hweaker c (h.head c hc), fun c hc => hweaker c (h.last c hc)⟩

theorem trimmed_of_forall (h : ∀ c ∈ s, drop c = false) : Trimmed drop s :=
  ⟨fun c hc => h c (List.mem_of_head? hc), fun c hc => h c (List.mem_of_getLast? hc)⟩

theorem dropWhile_of_head (h : ∀ c ∈ s.head?, drop c = false) : s.dropWhile drop = s := by
  cases s with
  | nil => rfl
  | cons c s => exact List.dropWhile_cons_of_neg (by simp [h c rfl])

theorem trim_padded {before after : Text} (h : Trimmed drop s)
    (hbefore : ∀ c ∈ before, drop c = true) (hafter : ∀ c ∈ after, drop c = true) :
    trim drop (before ++ (s ++ after)) = s := by
  have hreverse : ∀ c ∈ after.reverse, drop c = true := fun c hc => hafter c (List.mem_reverse.mp hc)
  have hback : (after.reverse ++ s.reverse).dropWhile drop = s.reverse := by
    rw [List.dropWhile_append_of_pos hreverse, dropWhile_of_head]
    rw [List.head?_reverse]
    exact h.last
  rw [trim, List.dropWhile_append_of_pos hbefore]
  cases s with
  | nil =>
    rw [List.nil_append, List.dropWhile_eq_nil_iff.mpr hafter]
    rfl
  | cons c s =>
    have hfront : ((c :: s) ++ after).dropWhile drop = (c :: s) ++ after :=
      dropWhile_of_head h.head
    rw [hfront, List.reverse_append, hback, List.reverse_reverse]

end RouterLayer.Text
