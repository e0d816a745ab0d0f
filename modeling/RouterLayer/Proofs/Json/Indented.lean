import Mathlib.Data.List.Forall2
import RouterLayer.Proofs.Json.Literal

set_option autoImplicit false

namespace RouterLayer.Json

def ReadsAs (read : List Char → Read Json) (s : Text) (value : Json) : Prop :=
  ∃ c ∈ ['"', '\x7b'], ∃ cs, s = Text.ofChars (c :: cs) ∧
    ∀ rest, read (c :: cs ++ rest) = .ok (value, rest)

/-- Member by member: the key as a literal is read, the value by the reader of values. -/
def MembersReadAs (read : List Char → Read Json) (level : Nat) :
    (members members' : List (Text × Json)) → Prop :=
  List.Forall₂ fun m m' => m'.1 = joined m.1 ∧ ReadsAs read (indented level m.2) m'.2

variable {read : List Char → Read Json} {level outer depth : Nat} {key : Text} {value value' : Json}
  {members members' : List (Text × Json)}

section Blanks

def lineStart (level : Nat) : List Char := '\n' :: List.replicate (2 * level) ' '

theorem newLine_eq (level : Nat) : newLine level = Text.ofChars (lineStart level) := by
  simp [newLine, lineStart, Text.ofChars]

theorem skipSpace_lineStart (level : Nat) (cs : List Char) :
    skipSpace (lineStart level ++ cs) = skipSpace cs := by
  refine List.dropWhile_append_of_pos fun c hc => ?_
  rcases List.mem_cons.mp hc with rfl | hc
  · decide
  · rw [List.eq_of_mem_replicate hc]
    decide

theorem skipSpace_cons {c : Char} (h : isSpace c = false) (cs : List Char) :
    skipSpace (c :: cs) = c :: cs := by
  rw [skipSpace, List.dropWhile_cons, h]
  rfl

theorem not_blank_of_opening {c : Char} (h : c ∈ ['"', '\x7b']) : isSpace c = false ∧ c ≠ '\uFEFF' := by
  simp only [List.mem_cons, List.not_mem_nil, or_false] at h
  rcases h with rfl | rfl <;> decide

end Blanks

theorem readsAs_literal (depth : Nat) (s : Text) :
    ReadsAs (readValue depth) (stringLiteral s) (.str (joined s)) := by
  obtain ⟨cs, hcs, hread⟩ := readString_literal s
  refine ⟨'"', List.mem_cons_self, cs, hcs, fun rest => ?_⟩
  cases depth <;> simp [readValue, readScalar, hread, Except.map]

theorem readMember_written (h : ReadsAs read (indented level value) value') (key : Text) :
    ∃ cs, stringLiteral key ++ ": " ++ indented level value = Text.ofChars ('"' :: cs) ∧
      ∀ rest, readMember read ('"' :: cs ++ rest) = .ok ((joined key, value'), rest) := by
  obtain ⟨cs, hcs, hkey⟩ := readString_literal key
  obtain ⟨c, hc, ds, hds, hvalue⟩ := h
  have hspace := (not_blank_of_opening hc).1
  refine ⟨cs ++ ':' :: ' ' :: c :: ds, ?_, fun rest => ?_⟩
  · rw [hcs, hds, ← List.cons_append, Text.ofChars_append]
    simp [Text.ofString, Text.ofChars]
  · have hcolon (rest : List Char) : skipSpace (':' :: rest) = ':' :: rest :=
      skipSpace_cons (by decide) rest
    have hblank : skipSpace (' ' :: c :: (ds ++ rest)) = c :: (ds ++ rest) :=
      skipSpace_cons hspace _
    simp only [List.cons_append, List.append_assoc] at hvalue ⊢
    rw [readMember, hkey]
    simp only [bind, Except.bind, hcolon, hblank, hvalue]
    rfl

theorem readMembers_written (h : MembersReadAs read level ((key, value) :: members) members')
    (outer : Nat) :
    ∃ cs, stringLiteral key ++ ": " ++ indented level value ++ indentedMembers level members ++
        newLine outer ++ "\x7d" = Text.ofChars ('"' :: cs) ∧
      ∀ bound rest, cs.length < bound →
        readMembers read bound ('"' :: cs ++ rest) = .ok (members', rest) := by
  induction members generalizing key value members' with
  | nil =>
    cases h with
    | cons hfirst hrest =>
      next m' _ =>
      cases hrest
      obtain ⟨k, v⟩ := m'
      obtain ⟨rfl, hvalue⟩ := hfirst
      obtain ⟨cs, hcs, hmember⟩ := readMember_written hvalue key
      refine ⟨cs ++ lineStart outer ++ ['\x7d'], ?_, fun bound rest hbound => ?_⟩
      · rw [hcs, indentedMembers, newLine_eq]
        simp [Text.ofString, Text.ofChars]
      · obtain ⟨bound, rfl⟩ := Nat.exists_eq_succ_of_ne_zero (Nat.ne_zero_of_lt hbound)
        have hclose : skipSpace (lineStart outer ++ '\x7d' :: rest) = '\x7d' :: rest := by
          rw [skipSpace_lineStart, skipSpace_cons (by decide)]
        simp only [List.cons_append, List.append_assoc, List.nil_append] at hmember ⊢
        rw [readMembers, hmember]
        simp only [bind, Except.bind, hclose]
        rfl
  | cons next members ih =>
    obtain ⟨nextKey, nextValue⟩ := next
    cases h with
    | cons hfirst hrest =>
      next m' members' =>
      obtain ⟨k, v⟩ := m'
      obtain ⟨rfl, hvalue⟩ := hfirst
      obtain ⟨cs, hcs, hmember⟩ := readMember_written hvalue key
      obtain ⟨ds, hds, hmembers⟩ := ih hrest
      refine ⟨cs ++ ',' :: lineStart level ++ '"' :: ds, ?_, fun bound rest hbound => ?_⟩
      · rw [hcs, indentedMembers, newLine_eq level]
        simp only [List.append_assoc] at hds ⊢
        rw [hds]
        simp [Text.ofString, Text.ofChars]
      · obtain ⟨bound, rfl⟩ := Nat.exists_eq_succ_of_ne_zero (Nat.ne_zero_of_lt hbound)
        have hcomma (rest : List Char) : skipSpace (',' :: rest) = ',' :: rest :=
          skipSpace_cons (by decide) rest
        have hquote : skipSpace (lineStart level ++ '"' :: (ds ++ rest)) = '"' :: (ds ++ rest) := by
          rw [skipSpace_lineStart, skipSpace_cons (by decide)]
        have hlater := hmembers bound rest (by simp at hbound; omega)
        simp only [List.cons_append, List.append_assoc] at hmember hlater ⊢
        rw [readMembers, hmember]
        simp only [bind, Except.bind, hcomma, hquote, hlater]
        rfl

/-- Of keys that are read as one, the last counts. -/
theorem readsAs_object (h : MembersReadAs (readValue depth) (level + 1) members members') :
    ReadsAs (readValue (depth + 1)) (indented level (.object members))
      (.object (OrderedMap.ofEntries members')) := by
  cases members with
  | nil =>
    cases h
    exact ⟨'\x7b', by simp, ['\x7d'], rfl, fun _ => rfl⟩
  | cons m members =>
    obtain ⟨key, value⟩ := m
    obtain ⟨cs, hcs, hmembers⟩ := readMembers_written h level
    refine ⟨'\x7b', by simp, lineStart (level + 1) ++ '"' :: cs, ?_, fun rest => ?_⟩
    · rw [indented, newLine_eq (level + 1)]
      simp only [List.append_assoc] at hcs ⊢
      rw [hcs]
      simp [Text.ofString, Text.ofChars]
    · have hopen : skipSpace (lineStart (level + 1) ++ '"' :: (cs ++ rest)) =
          '"' :: (cs ++ rest) := by
        rw [skipSpace_lineStart, skipSpace_cons (by decide)]
      have hread := hmembers (('"' :: (cs ++ rest)).length + 1) rest (by simp; omega)
      simp only [List.cons_append, List.append_assoc] at hread ⊢
      rw [readValue, readObject, hopen]
      exact congrArg (Except.map fun r => (object (OrderedMap.ofEntries r.1), r.2)) hread

theorem read_of_readsAs {s : Text} (h : ReadsAs (readValue deepestNesting) s value) :
    ∃ text : String, s = Text.ofString text ∧ Json.read text = .ok value := by
  obtain ⟨c, hc, cs, rfl, hread⟩ := h
  obtain ⟨hspace, hmark⟩ := not_blank_of_opening hc
  have hall := hread []
  rw [List.append_nil] at hall
  refine ⟨String.ofList (c :: cs), by rw [Text.ofString, String.toList_ofList], ?_⟩
  have hdocument : readDocument (c :: cs) = .ok value := by
    unfold readDocument
    split
    · next heq => exact absurd (List.cons.inj heq).1 hmark
    · rw [skipSpace_cons hspace, hall]
      rfl
  rw [Json.read, String.toList_ofList, hdocument]

end RouterLayer.Json
