import Mathlib.Data.List.TakeWhile
import RouterLayer.Attribute

set_option autoImplicit false

namespace RouterLayer

namespace Attribute

/-- What an attribute can consist of: a name of letters, and a text that does not close it. -/
structure Proper (name inner : Text) : Prop where
  name_ne_nil : name ≠ []
  letters : ∀ c ∈ name, c.isLetter = true
  unclosed : CodePoint.char ')' ∉ inner

def opening (name : Text) : Text := marker ++ (name ++ [.char '('])

def written (name inner : Text) : Text := opening name ++ (inner ++ [.char ')'])

def Begins (s : Text) : Prop :=
  ∃ name inner rest, Proper name inner ∧ s = written name inner ++ rest

/-- The attributes of a text, each by its name and the text in its parentheses. -/
inductive Scans : Text → List (Text × Text) → Prop
  | nil : Scans [] []
  | skip {c : CodePoint} {s : Text} {found : List (Text × Text)} :
      ¬Begins (c :: s) → Scans s found → Scans (c :: s) found
  | take {name inner rest : Text} {found : List (Text × Text)} :
      Proper name inner → Scans rest found →
      Scans (written name inner ++ rest) ((name, inner) :: found)

def ofPair (pair : Text × Text) : Attribute :=
  ⟨pair.1, OrderedMap.ofEntries (argumentsFrom 0 pair.2)⟩

variable {name inner rest s : Text} {found : List (Text × Text)}

theorem takeWhile_name (h : ∀ c ∈ name, c.isLetter = true) (after : Text) :
    (name ++ .char '(' :: after).takeWhile (·.isLetter) = name := by
  rw [List.takeWhile_append_of_pos h, List.takeWhile_cons_of_neg (by decide), List.append_nil]

theorem dropWhile_name (h : ∀ c ∈ name, c.isLetter = true) (after : Text) :
    (name ++ .char '(' :: after).dropWhile (·.isLetter) = .char '(' :: after := by
  rw [List.dropWhile_append_of_pos h, List.dropWhile_cons_of_neg (by decide)]

theorem written_append (name inner rest : Text) :
    written name inner ++ rest = marker ++ (name ++ .char '(' :: (inner ++ .char ')' :: rest)) := by
  simp [written, opening]

theorem attributeAt?_written (h : Proper name inner) (rest : Text) :
    attributeAt? (written name inner ++ rest) =
      some (ofPair (name, inner), (written name inner).length) := by
  have hcut : Text.cut? ')' (inner ++ .char ')' :: rest) = some (inner, rest) :=
    Text.cut?_eq_some.mpr ⟨rfl, h.unclosed⟩
  have hprefix : marker.isPrefixOf (written name inner ++ rest) = true := by
    rw [written_append]
    exact List.isPrefixOf_iff_prefix.mpr (List.prefix_append _ _)
  have hdrop : (written name inner ++ rest).drop marker.length =
      name ++ .char '(' :: (inner ++ .char ')' :: rest) := by
    rw [written_append, List.drop_left]
  rw [attributeAt?, if_pos hprefix, hdrop]
  simp only [takeWhile_name h.letters, dropWhile_name h.letters, hcut,
    List.isEmpty_eq_false_iff.mpr h.name_ne_nil, List.length_append, Nat.add_sub_cancel]
  rfl

theorem begins_of_attributeAt? {a : Attribute} {length : Nat}
    (h : attributeAt? s = some (a, length)) : Begins s := by
  unfold attributeAt? at h
  split at h
  · next hprefix =>
    obtain ⟨after, rfl⟩ := List.isPrefixOf_iff_prefix.mp hprefix
    rw [List.drop_left] at h
    dsimp only at h
    split at h
    · cases h
    · next hname =>
      split at h
      · next tail htail =>
        split at h
        · next inner rest hcut =>
          obtain ⟨rfl, hinner⟩ := Text.cut?_eq_some.mp hcut
          refine ⟨after.takeWhile (·.isLetter), inner, rest,
            ⟨fun hnil => hname (List.isEmpty_iff.mpr hnil), fun c hc => ?_, hinner⟩, ?_⟩
          · exact List.mem_takeWhile_imp hc
          · rw [written_append, ← htail, List.takeWhile_append_dropWhile]
        · cases h
      · cases h
  · cases h

theorem attributeAt?_eq_none : attributeAt? s = none ↔ ¬Begins s := by
  constructor
  · rintro h ⟨name, inner, rest, hproper, rfl⟩
    rw [attributeAt?_written hproper] at h
    cases h
  · intro h
    cases hat : attributeAt? s with
    | none => rfl
    | some p => exact absurd (begins_of_attributeAt? hat) h

theorem attributesFrom_eq (n : Nat) (s : Text) :
    attributesFrom n s = attributesFrom 0 (s.drop n) := by
  induction s generalizing n with
  | nil => cases n <;> rfl
  | cons c s ih =>
    cases n with
    | zero => rfl
    | succ n => exact ih n

theorem readAll_written (h : Proper name inner) (rest : Text) :
    readAll (written name inner ++ rest) = ofPair (name, inner) :: readAll rest := by
  obtain ⟨c, tail, hcons⟩ : ∃ c tail, written name inner = c :: tail := ⟨_, _, rfl⟩
  have hat := attributeAt?_written h rest
  rw [hcons, List.cons_append] at hat
  rw [hcons, List.cons_append, readAll, attributesFrom, hat]
  dsimp only
  rw [attributesFrom_eq, List.length_cons, Nat.add_sub_cancel, List.drop_left]
  rfl

theorem readAll_skip {c : CodePoint} (h : ¬Begins (c :: s)) : readAll (c :: s) = readAll s := by
  rw [readAll, attributesFrom, attributeAt?_eq_none.mpr h]
  rfl

theorem readAll_of_scans (h : Scans s found) : readAll s = found.map ofPair := by
  induction h with
  | nil => rfl
  | skip hbegins _ ih => rw [readAll_skip hbegins, ih]
  | take hproper _ ih => rw [readAll_written hproper, ih, List.map_cons]

theorem exists_scans (s : Text) : ∃ found, Scans s found := by
  induction hn : s.length using Nat.strong_induction_on generalizing s with
  | _ n ih =>
    subst hn
    cases s with
    | nil => exact ⟨[], .nil⟩
    | cons c s =>
      by_cases hbegins : Begins (c :: s)
      · obtain ⟨name, inner, rest, hproper, hs⟩ := hbegins
        have hshorter : rest.length < (c :: s).length := by
          rw [hs, written_append]
          simp only [List.length_append, List.length_cons]
          omega
        obtain ⟨found, hfound⟩ := ih rest.length hshorter rest rfl
        rw [hs]
        exact ⟨_, .take hproper hfound⟩
      · obtain ⟨found, hfound⟩ := ih s.length (Nat.lt_succ_self _) s rfl
        exact ⟨found, .skip hbegins hfound⟩

theorem written_inj {name' inner' rest' : Text} (h : Proper name inner) (h' : Proper name' inner')
    (heq : written name inner ++ rest = written name' inner' ++ rest') :
    name = name' ∧ inner = inner' ∧ rest = rest' := by
  rw [written_append, written_append] at heq
  have hafter := List.append_cancel_left heq
  have hname : name = name' := by
    rw [← takeWhile_name h.letters, hafter, takeWhile_name h'.letters]
  subst hname
  have hinner := (List.cons.inj (List.append_cancel_left hafter)).2
  have hcut : Text.cut? ')' (inner ++ .char ')' :: rest) = some (inner, rest) :=
    Text.cut?_eq_some.mpr ⟨rfl, h.unclosed⟩
  rw [hinner, Text.cut?_eq_some.mpr ⟨rfl, h'.unclosed⟩] at hcut
  cases hcut
  exact ⟨rfl, rfl, rfl⟩

namespace Scans

theorem eq_nil (h : Scans [] found) : found = [] := by
  generalize hs : ([] : Text) = s at h
  cases h with
  | nil => rfl
  | skip => cases hs
  | take => exact absurd hs.symm (List.append_ne_nil_of_left_ne_nil (List.cons_ne_nil _ _) _)

theorem of_cons {c : CodePoint} (h : Scans (c :: s) found) (hbegins : ¬Begins (c :: s)) :
    Scans s found := by
  generalize hs : c :: s = t at h hbegins
  cases h with
  | nil => cases hs
  | skip _ h => cases hs; exact h
  | take hproper _ => exact absurd ⟨_, _, _, hproper, rfl⟩ hbegins

theorem of_written (h : Scans (written name inner ++ rest) found) (hproper : Proper name inner) :
    ∃ found', found = (name, inner) :: found' ∧ Scans rest found' := by
  generalize hs : written name inner ++ rest = s at h
  cases h with
  | nil => exact absurd hs (List.append_ne_nil_of_left_ne_nil (List.cons_ne_nil _ _) _)
  | skip hbegins _ => exact absurd ⟨_, _, _, hproper, hs.symm⟩ hbegins
  | take hproper' h =>
    obtain ⟨rfl, rfl, rfl⟩ := written_inj hproper hproper' hs
    exact ⟨_, rfl, h⟩

theorem unique {found' : List (Text × Text)} (h : Scans s found) (h' : Scans s found') :
    found = found' := by
  induction h generalizing found' with
  | nil => exact h'.eq_nil.symm
  | skip hbegins _ ih => exact ih (h'.of_cons hbegins)
  | take hproper _ ih =>
    obtain ⟨rest, rfl, hrest⟩ := h'.of_written hproper
    rw [ih hrest]

end Scans

/-- A text ends within an attribute that has been opened and not closed. -/
def Unfinished (s : Text) : Prop :=
  ∃ before name inner, Proper name inner ∧ s = before ++ (opening name ++ inner)

theorem Unfinished.append_left (h : Unfinished s) (front : Text) : Unfinished (front ++ s) := by
  obtain ⟨before, name, inner, hproper, rfl⟩ := h
  exact ⟨front ++ before, name, inner, hproper, (List.append_assoc ..).symm⟩

theorem opening_eq (name : Text) :
    opening name = .char '@' :: .char '@' :: (("Gen." : Text) ++ (name ++ [.char '('])) := rfl

theorem close_not_mem_opening (h : ∀ c ∈ name, c.isLetter = true) :
    CodePoint.char ')' ∉ opening name := by
  rw [opening, List.mem_append, List.mem_append]
  rintro (hclose | hclose | hclose)
  · exact absurd hclose (by decide)
  · exact absurd (h _ hclose) (by decide)
  · exact absurd hclose (by decide)

theorem Unfinished.first (h : Unfinished s) : ∃ before name inner, Proper name inner ∧
    s = before ++ (opening name ++ inner) ∧ ¬Unfinished before := by
  obtain ⟨before, name, inner, hproper, rfl⟩ := h
  induction hn : before.length using Nat.strong_induction_on generalizing before name inner with
  | _ n ih =>
    by_cases hbefore : Unfinished before
    · -- an attribute that was left open earlier takes in this one
      obtain ⟨earlier, name', inner', hproper', rfl⟩ := hbefore
      have hlonger : Proper name' (inner' ++ (opening name ++ inner)) := by
        refine ⟨hproper'.name_ne_nil, hproper'.letters, ?_⟩
        simp only [List.mem_append, not_or]
        exact ⟨hproper'.unclosed, close_not_mem_opening hproper.letters, hproper.unclosed⟩
      have hearlier : earlier.length < n := by
        rw [← hn, opening_eq]
        simp only [List.length_append, List.length_cons]
        omega
      simpa only [List.append_assoc] using ih _ hearlier earlier name' _ hlonger rfl
    · exact ⟨before, name, inner, hproper, rfl, hbefore⟩

theorem at_not_mem (h : ∀ c ∈ name, c.isLetter = true) :
    CodePoint.char '@' ∉ ("Gen." : Text) ++ (name ++ [.char '(']) := by
  rw [List.mem_append, List.mem_append]
  rintro (hat | hat | hat)
  · exact absurd hat (by decide)
  · exact absurd (h _ hat) (by decide)
  · exact absurd hat (by decide)

/-- What stands before an at sign within an attribute has opened it, unless the sign is one of the
two that mark it. -/
theorem unfinished_of_written {front after : Text} (hfront : front ≠ [])
    (hproper : Proper name inner) (h : written name inner = front ++ .char '@' :: after)
    (hafter : after.head? ≠ some (.char 'G')) : Unfinished front := by
  have hopened (part : Text) (hpart : front = opening name ++ part) (hinner : part <+: inner) :
      Unfinished front :=
    ⟨[], name, part, ⟨hproper.name_ne_nil, hproper.letters,
      fun hclose => hproper.unclosed (hinner.subset hclose)⟩, hpart⟩
  rcases List.append_eq_append_iff.mp h with ⟨part, hpart, hrest⟩ | ⟨part, hpart, hrest⟩
  · refine hopened part hpart ?_
    have hlength := congrArg List.length hrest
    simp only [List.length_append, List.length_cons, List.length_nil] at hlength
    exact List.prefix_of_prefix_length_le ⟨_, hrest.symm⟩ (List.prefix_append _ _) (by omega)
  · cases part with
    | nil => exact hopened [] (by simpa using hpart.symm) (List.nil_prefix)
    | cons c part =>
      obtain ⟨rfl, rfl⟩ := List.cons.inj hrest
      rw [opening_eq] at hpart
      match front, hfront, hpart with
      | [_], _, hpart =>
        obtain ⟨-, hpart⟩ := List.cons.inj hpart
        obtain ⟨-, rfl⟩ := List.cons.inj hpart
        exact absurd rfl hafter
      | _ :: _ :: front, _, hpart =>
        have hmem := (List.cons.inj (List.cons.inj hpart).2).2
        refine absurd ?_ (at_not_mem hproper.letters)
        exact hmem ▸ List.mem_append_right _ List.mem_cons_self

/-- Text before an attribute is read apart from it, unless it opens one that it does not close. -/
theorem begins_or_unfinished {front tail : Text} (hfront : front ≠ []) (htail : marker <+: tail)
    (h : Begins (front ++ tail)) : Begins front ∨ Unfinished front := by
  obtain ⟨name, inner, rest, hproper, heq⟩ := h
  rcases List.append_eq_append_iff.mp heq with ⟨part, hpart, hrest⟩ | ⟨part, hpart, hrest⟩
  · cases part with
    | nil => exact .inl ⟨name, inner, [], hproper, by rw [hpart, List.append_nil, List.append_nil]⟩
    | cons c part =>
      obtain ⟨after, rfl⟩ := htail
      obtain ⟨rfl, hafter⟩ := List.cons.inj hrest
      refine .inr (unfinished_of_written hfront hproper hpart ?_)
      intro hhead
      obtain ⟨tail, rfl⟩ := List.head?_eq_some_iff.mp hhead
      exact absurd (List.cons.inj hafter).1 (by decide)
  · exact .inl ⟨name, inner, part, hproper, hpart⟩

/-- Two texts are read apart from one another if no attribute begins in the first and ends in the
second. -/
theorem Scans.append_of_apart {tail : Text} {found' : List (Text × Text)} (h : Scans s found)
    (h' : Scans tail found')
    (apart : ∀ front, front ≠ [] → front <:+ s → Begins (front ++ tail) → Begins front) :
    Scans (s ++ tail) (found ++ found') := by
  induction h with
  | nil => exact h'
  | skip hbegins _ ih =>
    refine .skip (fun h => ?_) (ih fun front hne hsuffix => ?_)
    · exact hbegins (apart _ (List.cons_ne_nil _ _) List.suffix_rfl h)
    · exact apart front hne (hsuffix.trans (List.suffix_cons _ _))
  | take hproper _ ih =>
    rw [List.append_assoc, List.cons_append]
    refine .take hproper (ih fun front hne hsuffix => ?_)
    exact apart front hne (hsuffix.trans (List.suffix_append _ _))

theorem Scans.append {tail : Text} {found' : List (Text × Text)} (htail : marker <+: tail)
    (h : Scans s found) (h' : Scans tail found') (hs : ¬Unfinished s) :
    Scans (s ++ tail) (found ++ found') := by
  refine h.append_of_apart h' fun front hne hsuffix hbegins => ?_
  refine (begins_or_unfinished hne htail hbegins).resolve_right fun hfront => ?_
  obtain ⟨before, rfl⟩ := hsuffix
  exact hs (hfront.append_left before)

end Attribute

end RouterLayer
