import Mathlib.Data.List.Infix
import RouterLayer.Text.Basic

/-!
Texts that can be taken apart again. An identifier ends where something follows that cannot belong
to it (`IsIdentifier.peel`). What is written as a frame can be told from any text behind it, and so
can a list of frames in front of a text that none of them opens (`Framed.flatMap`).
-/

set_option autoImplicit false

namespace RouterLayer

namespace Text

/-- What an identifier can be made of: ASCII letters and digits, the underscore and the dollar sign,
and all that lies beyond ASCII, in whatever script. -/
def isIdentifierPoint (c : CodePoint) : Bool :=
  c.isLetter || (0x30 ≤ c.code && c.code ≤ 0x39) || c = '_' || c = '$' || 0x80 ≤ c.code

def IsIdentifier (s : Text) : Prop := s ≠ [] ∧ ∀ c ∈ s, isIdentifierPoint c = true

instance (s : Text) : Decidable s.IsIdentifier := inferInstanceAs (Decidable (_ ∧ _))

def cuts (s : Text) : Bool := s.head?.any fun c => !isIdentifierPoint c

variable {a b l s t x y : Text}

theorem cuts_append (h : l.cuts = true) (s : Text) : (l ++ s).cuts = true := by
  cases l with
  | nil => simp [cuts] at h
  | cons c l => exact h

theorem takeWhile_of_cuts (hx : ∀ c ∈ x, isIdentifierPoint c = true) (hs : s.cuts = true) :
    (x ++ s).takeWhile isIdentifierPoint = x := by
  cases s with
  | nil => simp [cuts] at hs
  | cons c s =>
    have hc : isIdentifierPoint c = false := by simpa [cuts] using hs
    rw [List.takeWhile_append_of_pos hx]
    simp [hc]

theorem eq_of_append_cuts (hx : ∀ c ∈ x, isIdentifierPoint c = true)
    (hy : ∀ c ∈ y, isIdentifierPoint c = true) (hs : s.cuts = true) (ht : t.cuts = true)
    (h : x ++ s = y ++ t) : x = y ∧ s = t := by
  have hxy : x = y := by
    rw [← takeWhile_of_cuts hx hs, h, takeWhile_of_cuts hy ht]
  subst hxy
  exact ⟨rfl, List.append_cancel_left h⟩

theorem IsIdentifier.peel (hx : x.IsIdentifier) (hy : y.IsIdentifier) (hl : l.cuts = true)
    (h : x ++ (l ++ s) = y ++ (l ++ t)) : x = y ∧ s = t := by
  obtain ⟨hxy, hrest⟩ := eq_of_append_cuts hx.2 hy.2 (cuts_append hl s) (cuts_append hl t) h
  exact ⟨hxy, List.append_cancel_left hrest⟩

/-- Two texts part where neither is the beginning of the other one. -/
theorem append_ne_append (h : a.isPrefixOf b = false ∧ b.isPrefixOf a = false) :
    a ++ s ≠ b ++ t := by
  intro heq
  rcases List.prefix_or_prefix_of_prefix ⟨s, heq⟩ (List.prefix_append b t) with hab | hba
  · simp [List.isPrefixOf_iff_prefix.mpr hab] at h
  · simp [List.isPrefixOf_iff_prefix.mpr hba] at h

theorem intercalate_cons (sep s : Text) (rest : List Text) :
    List.intercalate sep (s :: rest) = s ++ rest.flatMap (sep ++ ·) := by
  induction rest generalizing s with
  | nil => simp
  | cons t rest ih => simp [List.intercalate_cons_cons, ih]

end Text

section Framed

variable {α : Type} {valid : α → Prop} {write : α → Text}

/-- Whatever follows what is written, it tells what was written and where the rest begins. -/
def Framed (valid : α → Prop) (write : α → Text) : Prop :=
  ∀ ⦃a b⦄, valid a → valid b → ∀ s t, write a ++ s = write b ++ t → a = b ∧ s = t

def Unopened (valid : α → Prop) (write : α → Text) (s : Text) : Prop :=
  ∀ a, valid a → ∀ t, write a ++ t ≠ s

theorem Framed.flatMap (h : Framed valid write) {as bs : List α} (has : ∀ a ∈ as, valid a)
    (hbs : ∀ b ∈ bs, valid b) {s t : Text} (hs : Unopened valid write s)
    (ht : Unopened valid write t) (heq : as.flatMap write ++ s = bs.flatMap write ++ t) :
    as = bs ∧ s = t := by
  induction as generalizing bs with
  | nil =>
    cases bs with
    | nil => exact ⟨rfl, heq⟩
    | cons b bs =>
      rw [List.flatMap_cons, List.append_assoc] at heq
      exact absurd heq.symm (hs b (hbs b List.mem_cons_self) _)
  | cons a as ih =>
    rw [List.forall_mem_cons] at has
    rw [List.flatMap_cons, List.append_assoc] at heq
    cases bs with
    | nil => exact absurd heq (ht a has.1 _)
    | cons b bs =>
      rw [List.forall_mem_cons] at hbs
      rw [List.flatMap_cons, List.append_assoc] at heq
      obtain ⟨hab, hrest⟩ := h has.1 hbs.1 _ _ heq
      obtain ⟨hsame, hst⟩ := ih has.2 hbs.2 hrest
      exact ⟨by rw [hab, hsame], hst⟩

end Framed

end RouterLayer
