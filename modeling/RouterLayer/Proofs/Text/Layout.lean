import RouterLayer.Proofs.Text.Framed
import RouterLayer.Proofs.Text.ScriptLiteral
import RouterLayer.Text.Split

/-!
Brackets and lines. One scan follows both: it keeps the brackets that are still to be closed, and
whether the line it is in shows anything yet. A text that takes the scan from the beginning of a line
to the beginning of a line and closes its own brackets (`Rows`) is nested, and a list of lines none
of which is blank (`Keeps.lines`).
-/

set_option autoImplicit false

namespace RouterLayer.Text

section Spec

def closing? (c : CodePoint) : Option CodePoint :=
  if c = '(' then some (.char ')')
  else if c = '[' then some (.char ']')
  else if c = '{' then some (.char '}')
  else none

def isClosing (c : CodePoint) : Bool := c = ')' || c = ']' || c = '}'

/-- The brackets that are due, the next one first: an opening bracket makes its own due, a closing
one has to be the next. -/
def bracketStep (due : Text) (c : CodePoint) : Option Text :=
  match closing? c with
  | some close => some (close :: due)
  | none =>
    if isClosing c then (if due.head? = some c then some due.tail else none) else some due

def IsNested (s : Text) : Prop := s.foldlM bracketStep [] = some []

instance (s : Text) : Decidable s.IsNested := inferInstanceAs (Decidable (_ = _))

def IsShown (line : Text) : Prop := ∃ c ∈ line, c ≠ .char ' '

def ofLines (lines : List Text) : Text := lines.flatMap (· ++ "\n")

end Spec

inductive Row
  | start | blank | shown
  deriving DecidableEq, Repr

/-- A line that shows nothing may not end, and of the line breaks there is only one. -/
def Row.step (row : Row) (c : CodePoint) : Option Row :=
  if c = '\n' then (if row = shown then some start else none)
  else if Script.isLineBreak c then none
  else if c = ' ' then some (if row = shown then shown else blank)
  else some shown

def layoutStep (x : Text × Row) (c : CodePoint) : Option (Text × Row) :=
  (bracketStep x.1 c).bind fun due => (x.2.step c).map fun row => (due, row)

def layout (x : Text × Row) (s : Text) : Option (Text × Row) := s.foldlM layoutStep x

/-- The text closes its own brackets, and its last line ends as far as it began. -/
def Keeps (row : Row) (s : Text) : Prop := ∀ due, layout (due, row) s = some (due, row)

abbrev Span (s : Text) : Prop := Keeps .shown s

abbrev Rows (s : Text) : Prop := Keeps .start s

def isFlat (c : CodePoint) : Bool :=
  (closing? c).isNone && !isClosing c && !Script.isLineBreak c

def IsFlat (s : Text) : Prop := ∀ c ∈ s, isFlat c = true

instance (s : Text) : Decidable s.IsFlat := inferInstanceAs (Decidable (∀ c ∈ s, _))

section Scan

variable {s t : Text}

theorem layout_append (x : Text × Row) (s t : Text) :
    layout x (s ++ t) = (layout x s).bind fun y => layout y t := List.foldlM_append

theorem layout_cons (x : Text × Row) (c : CodePoint) (s : Text) :
    layout x (c :: s) = (layoutStep x c).bind fun y => layout y s := List.foldlM_cons

theorem layoutStep_flat {c : CodePoint} (h : isFlat c = true) (due : Text) (row : Row) :
    layoutStep (due, row) c =
      some (due, if c = ' ' then (if row = .shown then .shown else .blank) else .shown) := by
  simp only [isFlat, Bool.and_eq_true, Option.isNone_iff_eq_none, Bool.not_eq_true'] at h
  obtain ⟨⟨hopen, hclose⟩, hbreak⟩ := h
  have hline : c ≠ .char '\n' := by
    rintro rfl
    cases hbreak
  have hdue : bracketStep due c = some due := by simp [bracketStep, hopen, hclose]
  have hrow : row.step c =
      some (if c = ' ' then (if row = .shown then .shown else .blank) else .shown) := by
    rw [Row.step, if_neg hline, if_neg (by simp [hbreak])]
    split <;> rfl
  rw [layoutStep, hdue, Option.bind_some, hrow, Option.map_some]

theorem IsFlat.span (h : IsFlat s) : Span s := by
  intro due
  induction s with
  | nil => rfl
  | cons c s ih =>
    obtain ⟨hc, hs⟩ := List.forall_mem_cons.mp h
    simp only [layout_cons, layoutStep_flat hc, if_true, ite_self, Option.bind_some, ih hs]

theorem IsFlat.exists_layout (h : IsFlat s) (due : Text) (row : Row) :
    ∃ row', layout (due, row) s = some (due, row') := by
  induction s generalizing row with
  | nil => exact ⟨row, rfl⟩
  | cons c s ih =>
    obtain ⟨hc, hs⟩ := List.forall_mem_cons.mp h
    simp only [layout_cons, layoutStep_flat hc, Option.bind_some]
    exact ih hs _

theorem IsFlat.append (hs : IsFlat s) (ht : IsFlat t) : IsFlat (s ++ t) :=
  List.forall_mem_append.mpr ⟨hs, ht⟩

theorem IsFlat.flatMap {α : Type} {xs : List α} {f : α → Text} (h : ∀ x ∈ xs, IsFlat (f x)) :
    IsFlat (xs.flatMap f) := fun c hc => by
  obtain ⟨x, hx, hc⟩ := List.mem_flatMap.mp hc
  exact h x hx c hc

theorem IsFlat.intercalate {sep : Text} {pieces : List Text} (hsep : IsFlat sep)
    (h : ∀ piece ∈ pieces, IsFlat piece) : IsFlat (List.intercalate sep pieces) := by
  cases pieces with
  | nil => exact nofun
  | cons piece pieces =>
    obtain ⟨hpiece, hpieces⟩ := List.forall_mem_cons.mp h
    rw [intercalate_cons]
    exact hpiece.append (.flatMap fun other hother => hsep.append (hpieces other hother))

variable {row : Row}

theorem Keeps.skip (h : Keeps row s) (due t : Text) :
    layout (due, row) (s ++ t) = layout (due, row) t := by
  rw [layout_append, h, Option.bind_some]

theorem Keeps.append (hs : Keeps row s) (ht : Keeps row t) : Keeps row (s ++ t) :=
  fun due => by rw [hs.skip, ht]

theorem Keeps.flatMap {α : Type} {xs : List α} {f : α → Text} (h : ∀ x ∈ xs, Keeps row (f x)) :
    Keeps row (xs.flatMap f) := by
  induction xs with
  | nil => exact fun _ => rfl
  | cons x xs ih =>
    obtain ⟨hx, hxs⟩ := List.forall_mem_cons.mp h
    exact hx.append (ih hxs)

end Scan

section Lines

variable {x y : Text × Row} {s : Text}

theorem layout_cons_eq_some {c : CodePoint} (h : layout x (c :: s) = some y) :
    ∃ due row, bracketStep x.1 c = some due ∧ x.2.step c = some row ∧
      layout (due, row) s = some y := by
  obtain ⟨z, hz, h⟩ := Option.bind_eq_some_iff.mp (layout_cons x c s ▸ h)
  obtain ⟨due, hdue, hz⟩ := Option.bind_eq_some_iff.mp hz
  obtain ⟨row, hrow, rfl⟩ := Option.map_eq_some_iff.mp hz
  exact ⟨due, row, hdue, hrow, h⟩

theorem brackets_of_layout (h : layout x s = some y) : s.foldlM bracketStep x.1 = some y.1 := by
  induction s generalizing x with
  | nil =>
    cases h
    rfl
  | cons c s ih =>
    obtain ⟨due, row, hdue, -, h⟩ := layout_cons_eq_some h
    rw [List.foldlM_cons, hdue]
    exact ih h

def IsLine (line : Text) : Prop := line.IsShown ∧ ∀ c ∈ line, Script.isLineBreak c = false

@[simp] theorem ofLines_cons (line : Text) (lines : List Text) :
    ofLines (line :: lines) = line ++ "\n" ++ ofLines lines := rfl

/-- Behind the rest of the line that the scan is in there are whole lines. -/
theorem lines_of_layout (h : layout x s = some y) (hy : y.2 = .start) :
    (x.2 = .start ∧ s = []) ∨ ∃ line lines, s = ofLines (line :: lines) ∧
      (∀ c ∈ line, Script.isLineBreak c = false) ∧ (x.2 = .shown ∨ line.IsShown) ∧
      ∀ l ∈ lines, l.IsLine := by
  induction s generalizing x with
  | nil =>
    cases h
    exact .inl ⟨hy, rfl⟩
  | cons c s ih =>
    obtain ⟨due, row, -, hrow, h⟩ := layout_cons_eq_some h
    unfold Row.step at hrow
    split_ifs at hrow with hline hshown hbreak hspace hshown <;> cases hrow
    · -- a line break: the rest of the line is empty, and what follows are whole lines
      refine .inr ?_
      rcases ih h with ⟨-, rfl⟩ | ⟨line, lines, rfl, hflat, hfirst, hlines⟩
      · exact ⟨[], [], by rw [hline]; rfl, nofun, .inl hshown, nofun⟩
      · exact ⟨[], line :: lines, by rw [hline]; rfl, nofun, .inl hshown,
          List.forall_mem_cons.mpr ⟨⟨hfirst.resolve_left nofun, hflat⟩, hlines⟩⟩
    all_goals
      obtain ⟨line, lines, rfl, hflat, hfirst, hlines⟩ := (ih h).resolve_left nofun
      refine .inr ⟨c :: line, lines, rfl,
        List.forall_mem_cons.mpr ⟨by simpa using hbreak, hflat⟩, ?_, hlines⟩
    · exact .inl hshown
    · obtain ⟨d, hd, hne⟩ := hfirst.resolve_left nofun
      exact .inr ⟨d, List.mem_cons_of_mem _ hd, hne⟩
    · exact .inr ⟨c, List.mem_cons_self, hspace⟩

theorem Keeps.lines (h : Rows s) : ∃ lines, s = ofLines lines ∧ ∀ l ∈ lines, l.IsLine := by
  rcases lines_of_layout (h []) rfl with ⟨-, rfl⟩ | ⟨line, lines, hs, hflat, hfirst, hlines⟩
  · exact ⟨[], rfl, nofun⟩
  · exact ⟨line :: lines, hs,
      List.forall_mem_cons.mpr ⟨⟨hfirst.resolve_left nofun, hflat⟩, hlines⟩⟩

theorem Keeps.isNested (h : Rows s) : IsNested s := brackets_of_layout (h [])

theorem IsNested.append {t : Text} (hs : IsNested s) (ht : IsNested t) : IsNested (s ++ t) := by
  rw [IsNested, List.foldlM_append, hs]
  exact ht

theorem IsLine.newline_not_mem {line : Text} (h : line.IsLine) : CodePoint.char '\n' ∉ line :=
  fun hmem => nomatch h.2 _ hmem

theorem IsFlat.no_break {s : Text} (h : IsFlat s) : ∀ c ∈ s, Script.isLineBreak c = false := by
  intro c hc
  have hflat := h c hc
  simp only [isFlat, Bool.and_eq_true, Bool.not_eq_true'] at hflat
  exact hflat.2

theorem ofLines_append (lines more : List Text) :
    ofLines (lines ++ more) = ofLines lines ++ ofLines more := List.flatMap_append

theorem splitAll_ofLines {lines : List Text} (h : ∀ l ∈ lines, CodePoint.char '\n' ∉ l)
    (s : Text) : splitAll '\n' (ofLines lines ++ s) = lines ++ splitAll '\n' s := by
  induction lines with
  | nil => rfl
  | cons line lines ih =>
    obtain ⟨hline, hlines⟩ := List.forall_mem_cons.mp h
    have hsplit : ofLines (line :: lines) ++ s = line ++ .char '\n' :: (ofLines lines ++ s) := by
      rw [ofLines_cons, List.append_assoc, List.append_assoc]
      rfl
    rw [hsplit, splitAll_append_sep hline, ih hlines, List.cons_append]

end Lines

end RouterLayer.Text
