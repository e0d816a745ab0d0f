import RouterLayer.Text.Plain
import RouterLayer.Text.Split

/-!
The end of a text from which control sequences are taken out and in which pairs of characters are
replaced. It is left as it is when no sequence and no pair reaches into it from the front
(`plain_append`, `replaceAll_append`). None reaches into a number that follows a blank and a
parenthesis (`controlLength_append_le`).
-/

set_option autoImplicit false

namespace RouterLayer.Text

section Plain

theorem takeWhile_append_cons {α : Type} {p : α → Bool} {a : α} (h : p a = false)
    (s rest : List α) : (s ++ a :: rest).takeWhile p = s.takeWhile p := by
  induction s with
  | nil => simp [h]
  | cons b s ih => simp only [List.cons_append, List.takeWhile_cons, ih]

theorem dropWhile_append_cons {α : Type} {p : α → Bool} {a : α} (h : p a = false)
    (s rest : List α) : (s ++ a :: rest).dropWhile p = s.dropWhile p ++ a :: rest := by
  induction s with
  | nil => simp [h]
  | cons b s ih =>
    rw [List.cons_append, List.dropWhile_cons, List.dropWhile_cons, ih]
    split <;> rfl

theorem length_intermediates {d : CodePoint} (hd : isControlIntermediate d = false)
    (s rest : Text) :
    let run := (s ++ .char ' ' :: .char '(' :: d :: rest).takeWhile isControlIntermediate
    run.length = s.length + 2 ∨ run.length < s.length := by
  dsimp only
  induction s with
  | nil =>
    refine .inl ?_
    rw [List.nil_append, List.takeWhile_cons_of_pos (by decide),
      List.takeWhile_cons_of_pos (by decide), List.takeWhile_cons_of_neg (by simp [hd])]
    rfl
  | cons c s ih =>
    rw [List.cons_append, List.takeWhile_cons, List.length_cons]
    split
    · rw [List.length_cons]
      omega
    · exact .inr (Nat.zero_lt_succ _)

theorem controlLength_append_le {s : Text} {d : CodePoint} (hs : s ≠ [])
    (hintermediate : isControlIntermediate d = false) (hfinal : isControlFinal d = false)
    (rest : Text) : controlLength (s ++ .char ' ' :: .char '(' :: d :: rest) ≤ s.length := by
  unfold controlLength
  split
  · next following hfollowing =>
    obtain ⟨c, bracket, r, rfl⟩ : ∃ c bracket r, s = c :: bracket :: r := by
      cases s with
      | nil => exact absurd rfl hs
      | cons c s =>
        cases s with
        | nil => cases hfollowing
        | cons bracket r => exact ⟨c, bracket, r, rfl⟩
    have hr : r ++ .char ' ' :: .char '(' :: d :: rest = following :=
      (List.cons.inj (List.cons.inj hfollowing).2).2
    rw [← hr]
    dsimp only
    rw [takeWhile_append_cons (by decide)]
    have hparameters := (r.takeWhile_sublist isControlParameter).length_le
    generalize (r.takeWhile isControlParameter).length = n at hparameters ⊢
    rw [List.drop_append_of_le_length hparameters]
    have hlength := length_intermediates hintermediate (r.drop n) rest
    dsimp only at hlength
    rw [List.length_drop] at hlength
    generalize ((r.drop n ++ _).takeWhile isControlIntermediate).length = m at hlength ⊢
    rcases hlength with hlength | hlength
    · rw [show n + m = r.length + 2 by omega, List.drop_length_add_append]
      simp [hfinal]
    · simp only [List.length_cons]
      split
      · split <;> omega
      · omega
  · exact Nat.zero_le _

/-- What no control sequence reaches into keeps its end. -/
theorem plain_append {tail : Text}
    (hreach : ∀ s : Text, s ≠ [] → controlLength (s ++ tail) ≤ s.length)
    (hescape : CodePoint.char '\x1b' ∉ tail) (s : Text) :
    ∃ front, plain (s ++ tail) = front ++ tail := by
  suffices hskip : ∀ skip ≤ s.length, ∃ front, plainFrom skip (s ++ tail) = front ++ tail from
    hskip 0 (Nat.zero_le _)
  induction s with
  | nil =>
    intro skip h
    rw [Nat.le_zero.mp h]
    exact ⟨[], plain_of_not_mem tail hescape⟩
  | cons c s ih =>
    intro skip h
    cases skip with
    | succ skip => exact ih skip (Nat.le_of_succ_le_succ h)
    | zero =>
      have hlength := hreach (c :: s) (List.cons_ne_nil c s)
      rw [List.cons_append] at hlength ⊢
      rw [plainFrom]
      split
      · obtain ⟨front, hfront⟩ := ih 0 (Nat.zero_le _)
        exact ⟨c :: front, congrArg (c :: ·) hfront⟩
      · next skip hskip =>
        rw [hskip] at hlength
        exact ih skip (Nat.le_of_succ_le_succ hlength)

end Plain

section Replace

variable {first second : CodePoint} {replacement : Text}

theorem replaceAll_of_not_mem {pattern s : Text} (h : first ∉ s) :
    replaceAll (first :: pattern) replacement s = s := by
  unfold replaceAll
  induction s with
  | nil => rfl
  | cons c s ih =>
    simp only [List.mem_cons, not_or] at h
    rw [replaceAllFrom, if_neg (by simp [h.1]), ih h.2]

/-- A pair of code points that cannot begin in a text, nor end at its front, leaves it as it is. -/
theorem replaceAll_append {tail : Text} (hfirst : first ∉ tail) (hsecond : tail.head? ≠ some second)
    (s : Text) :
    ∃ front, replaceAll [first, second] replacement (s ++ tail) = front ++ tail := by
  suffices hskip : ∀ skip ≤ s.length,
      ∃ front, replaceAllFrom [first, second] replacement skip (s ++ tail) = front ++ tail from
    hskip 0 (Nat.zero_le _)
  induction s with
  | nil =>
    intro skip h
    rw [Nat.le_zero.mp h]
    exact ⟨[], replaceAll_of_not_mem hfirst⟩
  | cons c s ih =>
    intro skip h
    cases skip with
    | succ skip => exact ih skip (Nat.le_of_succ_le_succ h)
    | zero =>
      rw [List.cons_append, replaceAllFrom]
      split
      · next hpair =>
        have hlength : 1 ≤ s.length := by
          cases s with
          | nil =>
            cases tail with
            | nil => simp at hpair
            | cons b tail => simp_all
          | cons c s => simp
        obtain ⟨front, hfront⟩ := ih 1 hlength
        refine ⟨replacement ++ front, ?_⟩
        rw [List.append_assoc, ← hfront]
        rfl
      · obtain ⟨front, hfront⟩ := ih 0 (Nat.zero_le _)
        exact ⟨c :: front, congrArg (c :: ·) hfront⟩

end Replace

end RouterLayer.Text
