import Mathlib.Data.List.TakeWhile
import RouterLayer.Attribute
import RouterLayer.Proofs.OrderedMap
import RouterLayer.Proofs.Text.Blank
import RouterLayer.Proofs.Text.Plain

/-!
The arguments of an attribute. They are read part by part, a part being what lies between two
commas (`argumentsFrom_eq_flatMap`). In a part the first colon counts that letters stand before,
blanks aside: these letters are the key and everything behind the colon is the value, however much
text the part has before the key (`Reads`, `arguments_of_part`).
-/

set_option autoImplicit false

namespace RouterLayer

namespace Attribute

def Keyed (s key rest : Text) : Prop :=
  key ≠ [] ∧ (∀ c ∈ key, c.isLetter = true) ∧
    ∃ blanks, (∀ c ∈ blanks, Text.isBlank c = true) ∧ s = key ++ (blanks ++ .char ':' :: rest)

variable {key rest part value s : Text}

theorem Keyed.takeWhile (h : Keyed s key rest) : s.takeWhile (·.isLetter) = key := by
  obtain ⟨-, hkey, blanks, hblanks, rfl⟩ := h
  rw [List.takeWhile_append_of_pos hkey]
  cases blanks with
  | nil => simp [CodePoint.isLetter]
  | cons b blanks =>
    have hb := Text.not_isLetter_of_isBlank (hblanks b List.mem_cons_self)
    rw [List.cons_append, List.takeWhile_cons_of_neg (by simp [hb]), List.append_nil]

theorem Keyed.dropWhile (h : Keyed s key rest) :
    (s.dropWhile (·.isLetter)).dropWhile Text.isBlank = .char ':' :: rest := by
  have hkey := h.takeWhile
  obtain ⟨-, -, blanks, hblanks, rfl⟩ := h
  have hdrop := List.takeWhile_append_dropWhile (p := (·.isLetter))
    (l := key ++ (blanks ++ CodePoint.char ':' :: rest))
  rw [hkey] at hdrop
  rw [List.append_cancel_left hdrop, List.dropWhile_append_of_pos hblanks,
    List.dropWhile_cons_of_neg (by decide)]

theorem keyed_of_dropWhile (hkey : s.takeWhile (·.isLetter) ≠ [])
    (h : (s.dropWhile (·.isLetter)).dropWhile Text.isBlank = .char ':' :: rest) :
    Keyed s (s.takeWhile (·.isLetter)) rest := by
  refine ⟨hkey, fun c hc => List.mem_takeWhile_imp hc,
    (s.dropWhile (·.isLetter)).takeWhile Text.isBlank, fun c hc => List.mem_takeWhile_imp hc, ?_⟩
  rw [← h, List.takeWhile_append_dropWhile, List.takeWhile_append_dropWhile]

def valueIn (rest : Text) : Text := rest.takeWhile fun c => c ≠ CodePoint.char ','

theorem argumentAt?_of_keyed (h : Keyed s key rest) (hvalue : valueIn rest ≠ []) :
    argumentAt? s =
      some ((key, readValue (valueIn rest)), s.length - rest.length + (valueIn rest).length) := by
  have hne := h.1
  unfold argumentAt?
  simp only [h.takeWhile, h.dropWhile, List.isEmpty_eq_false_iff.mpr hne]
  have hval : (List.takeWhile (fun c => decide (c ≠ CodePoint.char ',')) rest).isEmpty = false :=
    List.isEmpty_eq_false_iff.mpr hvalue
  rw [hval]
  rfl

theorem keyed_of_argumentAt? {argument : Text × ArgumentValue} {length : Nat}
    (h : argumentAt? s = some (argument, length)) :
    ∃ key rest, Keyed s key rest ∧ valueIn rest ≠ [] := by
  unfold argumentAt? at h
  dsimp only at h
  split at h
  · cases h
  · next hkey =>
    split at h
    · next rest hdrop =>
      split at h
      · cases h
      · next hvalue =>
        exact ⟨_, rest, keyed_of_dropWhile (fun hnil => hkey (List.isEmpty_iff.mpr hnil)) hdrop,
          fun hnil => hvalue (List.isEmpty_iff.mpr hnil)⟩
    · cases h

theorem argumentAt?_eq_none : argumentAt? s = none ↔
    ∀ key rest, Keyed s key rest → valueIn rest = [] := by
  constructor
  · intro h key rest hkeyed
    by_contra hvalue
    rw [argumentAt?_of_keyed hkeyed hvalue] at h
    cases h
  · intro h
    cases hat : argumentAt? s with
    | none => rfl
    | some p =>
      obtain ⟨key, rest, hkeyed, hvalue⟩ := keyed_of_argumentAt? hat
      exact absurd (h key rest hkeyed) hvalue

theorem valueIn_of_not_mem (h : CodePoint.char ',' ∉ rest) : valueIn rest = rest := by
  refine List.takeWhile_eq_self_iff.mpr fun c hc => ?_
  rw [decide_eq_true_eq]
  rintro rfl
  exact h hc

/-! ### Part by part -/

theorem argumentAt?_append (part rest : Text) :
    argumentAt? (part ++ .char ',' :: rest) = argumentAt? part := by
  unfold argumentAt?
  rw [Text.takeWhile_append_cons (by decide), Text.dropWhile_append_cons (by decide),
    Text.dropWhile_append_cons (by decide)]
  cases (part.dropWhile (·.isLetter)).dropWhile Text.isBlank with
  | nil => rfl
  | cons c tail =>
    by_cases hc : c = .char ':'
    · subst hc
      simp only [List.cons_append]
      rw [Text.takeWhile_append_cons (by decide), List.length_append, List.length_append,
        Nat.add_sub_add_right]
    · simp only [List.cons_append]
      split
      · rfl
      · split
        · next heq => exact absurd (List.cons.inj heq).1 hc
        · split
          · next heq => exact absurd (List.cons.inj heq).1 hc
          · rfl

theorem argumentsFrom_eq (n : Nat) (s : Text) :
    argumentsFrom n s = argumentsFrom 0 (s.drop n) := by
  induction s generalizing n with
  | nil => cases n <;> rfl
  | cons c s ih =>
    cases n with
    | zero => rfl
    | succ n => exact ih n

/-- An argument takes in all of its part. -/
theorem argumentsFrom_cons {c : CodePoint} {argument : Text × ArgumentValue} {length : Nat}
    (hat : argumentAt? (c :: s) = some (argument, length)) (h : CodePoint.char ',' ∉ c :: s)
    (rest : Text) : argumentsFrom (length - 1) (s ++ rest) = argumentsFrom 0 rest := by
  obtain ⟨key, tail, hkeyed, hvalue⟩ := keyed_of_argumentAt? hat
  rw [argumentAt?_of_keyed hkeyed hvalue] at hat
  obtain ⟨-, -, blanks, -, hs⟩ := hkeyed
  have htail : CodePoint.char ',' ∉ tail := fun hmem => h (by rw [hs]; simp [hmem])
  rw [valueIn_of_not_mem htail] at hat
  cases hat
  have hlength : (c :: s).length - tail.length + tail.length - 1 = s.length := by
    have := congrArg List.length hs
    simp only [List.length_append, List.length_cons] at this ⊢
    omega
  rw [hlength, argumentsFrom_eq, List.drop_left]

theorem argumentsFrom_append (h : CodePoint.char ',' ∉ part) (rest : Text) :
    argumentsFrom 0 (part ++ .char ',' :: rest) = argumentsFrom 0 part ++ argumentsFrom 0 rest := by
  induction part with
  | nil => rfl
  | cons c s ih =>
    have hat := argumentAt?_append (c :: s) rest
    rw [List.cons_append] at hat ⊢
    rw [argumentsFrom, argumentsFrom, hat]
    cases hfound : argumentAt? (c :: s) with
    | none => exact ih fun hmem => h (List.mem_cons_of_mem c hmem)
    | some p =>
      have hself := argumentsFrom_cons hfound h []
      rw [List.append_nil] at hself
      dsimp only
      rw [argumentsFrom_cons hfound h, hself]
      rfl

theorem argumentsFrom_eq_flatMap (inner : Text) :
    argumentsFrom 0 inner = (Text.splitAll ',' inner).flatMap (argumentsFrom 0) := by
  have hparts (parts : List Text) (hne : parts ≠ [])
      (h : ∀ part ∈ parts, CodePoint.char ',' ∉ part) :
      argumentsFrom 0 (Text.joinWith ',' parts) = parts.flatMap (argumentsFrom 0) := by
    induction parts with
    | nil => exact absurd rfl hne
    | cons part parts ih =>
      obtain ⟨hpart, hrest⟩ := List.forall_mem_cons.mp h
      cases parts with
      | nil => simp [Text.joinWith]
      | cons next parts =>
        rw [Text.joinWith, argumentsFrom_append hpart, ih (List.cons_ne_nil _ _) hrest,
          ← List.flatMap_cons]
        exact List.cons_ne_nil _ _
  have h := hparts _ (Text.splitAll_ne_nil ',' inner) fun _ => Text.not_mem_of_mem_splitAll
  rwa [Text.joinWith_splitAll] at h

/-! ### One part -/

/-- The letters that a text ends in, blanks aside. -/
def keyBefore (front : Text) : Text :=
  ((front.reverse.dropWhile Text.isBlank).takeWhile (·.isLetter)).reverse

/-- A part of an attribute's text gives a key and a value at the first colon with a key before it;
nothing is given if nothing follows that colon. -/
structure Reads (part key value : Text) : Prop where
  key_ne_nil : key ≠ []
  value_ne_nil : value ≠ []
  at_colon : ∃ front, part = front ++ .char ':' :: value ∧ keyBefore front = key ∧
    ∀ earlier between, front = earlier ++ .char ':' :: between → keyBefore earlier = []

theorem isLetter_of_mem_keyBefore {front : Text} {c : CodePoint} (h : c ∈ keyBefore front) :
    c.isLetter = true :=
  List.mem_takeWhile_imp (List.mem_reverse.mp h)

/-- One more code point in front makes a difference only if it is a letter of the key. -/
theorem keyBefore_cons (c : CodePoint) (front : Text) :
    keyBefore (c :: front) = keyBefore front ∨
      c.isLetter = true ∧ ∃ blanks, (∀ b ∈ blanks, Text.isBlank b = true) ∧
        front = keyBefore front ++ blanks := by
  have hparts := List.takeWhile_append_dropWhile (p := Text.isBlank) (l := front.reverse)
  have hblanks : ∀ b ∈ front.reverse.takeWhile Text.isBlank, Text.isBlank b = true :=
    fun b hb => List.mem_takeWhile_imp hb
  unfold keyBefore
  rw [List.reverse_cons, List.dropWhile_append]
  generalize front.reverse.dropWhile Text.isBlank = core at hparts
  generalize front.reverse.takeWhile Text.isBlank = blanks at hparts hblanks
  have hfront : front = core.reverse ++ blanks.reverse := by
    rw [← List.reverse_append, hparts, List.reverse_reverse]
  cases hc : c.isLetter with
  | false =>
    refine .inl (congrArg List.reverse ?_)
    split
    · next hcore =>
      rw [List.isEmpty_iff.mp hcore, List.dropWhile_cons]
      split <;> simp [hc]
    · exact Text.takeWhile_append_cons hc core []
  | true =>
    by_cases hall : core.takeWhile (·.isLetter) = core
    · refine .inr ⟨rfl, blanks.reverse, fun b hb => hblanks b (List.mem_reverse.mp hb), ?_⟩
      rw [hall, ← hfront]
    · have hcore : core.isEmpty = false := by
        cases core with
        | nil => exact absurd rfl hall
        | cons d core => rfl
      have hlength : (core.takeWhile (·.isLetter)).length ≠ core.length := fun h =>
        hall ((List.takeWhile_prefix _).eq_of_length h)
      refine .inl (congrArg List.reverse ?_)
      rw [hcore, if_neg Bool.false_ne_true, List.takeWhile_append, if_neg hlength]

theorem keyBefore_append {blanks : Text} (hkey : ∀ c ∈ key, c.isLetter = true)
    (hblanks : ∀ c ∈ blanks, Text.isBlank c = true) : keyBefore (key ++ blanks) = key := by
  have hletters : ∀ c ∈ key.reverse, c.isLetter = true :=
    fun c hc => hkey c (List.mem_reverse.mp hc)
  have hdrop : key.reverse.dropWhile Text.isBlank = key.reverse := by
    cases hreverse : key.reverse with
    | nil => rfl
    | cons c rest =>
      refine List.dropWhile_cons_of_neg fun hblank => ?_
      have hc := hletters c (hreverse ▸ List.mem_cons_self)
      rw [Text.not_isLetter_of_isBlank hblank] at hc
      cases hc
  rw [keyBefore, List.reverse_append,
    List.dropWhile_append_of_pos fun b hb => hblanks b (List.mem_reverse.mp hb), hdrop,
    List.takeWhile_eq_self_iff.mpr hletters, List.reverse_reverse]

theorem keyBefore_cons_of_none {c : CodePoint} {front : Text}
    (hat : argumentAt? (c :: (front ++ .char ':' :: rest)) = none) (hrest : rest ≠ [])
    (hcomma : CodePoint.char ',' ∉ rest) : keyBefore (c :: front) = keyBefore front := by
  rcases keyBefore_cons c front with h | ⟨hc, blanks, hblanks, hfront⟩
  · exact h
  · have hkeyed : Keyed (c :: (front ++ .char ':' :: rest)) (c :: keyBefore front) rest := by
      refine ⟨List.cons_ne_nil _ _, ?_, blanks, hblanks, ?_⟩
      · exact List.forall_mem_cons.mpr ⟨hc, fun d hd => isLetter_of_mem_keyBefore hd⟩
      · rw [List.cons_append, ← List.append_assoc, ← hfront]
    have hvalue := argumentAt?_eq_none.mp hat _ _ hkeyed
    rw [valueIn_of_not_mem hcomma] at hvalue
    exact absurd hvalue hrest

theorem reads_cons {c : CodePoint} (hat : argumentAt? (c :: s) = none)
    (hcomma : CodePoint.char ',' ∉ s) : Reads (c :: s) key value ↔ Reads s key value := by
  have hsame (front rest : Text) (hs : s = front ++ .char ':' :: rest) (hrest : rest ≠ []) :
      keyBefore (c :: front) = keyBefore front := by
    subst hs
    refine keyBefore_cons_of_none hat hrest fun hmem => hcomma ?_
    exact List.mem_append_right _ (List.mem_cons_of_mem _ hmem)
  constructor
  · rintro ⟨hkey, hvalue, front, hs, hfront, hfirst⟩
    cases front with
    | nil => exact absurd hfront.symm hkey
    | cons d front =>
      obtain ⟨rfl, htail⟩ := List.cons.inj hs
      refine ⟨hkey, hvalue, front, htail, ?_, fun earlier between hbetween => ?_⟩
      · rw [← hsame front value htail hvalue, hfront]
      · rw [← hsame earlier (between ++ .char ':' :: value) (by simp [htail, hbetween]) (by simp)]
        exact hfirst (c :: earlier) between (congrArg (c :: ·) hbetween)
  · rintro ⟨hkey, hvalue, front, hs, hfront, hfirst⟩
    refine ⟨hkey, hvalue, c :: front, congrArg (c :: ·) hs, ?_, fun earlier between hbetween => ?_⟩
    · rw [hsame front value hs hvalue, hfront]
    · cases earlier with
      | nil => rfl
      | cons d earlier =>
        obtain ⟨rfl, htail⟩ := List.cons.inj hbetween
        rw [hsame earlier (between ++ .char ':' :: value) (by simp [hs, htail]) (by simp)]
        exact hfirst earlier between htail

/-- A part gives at most one argument, which is the one that it reads. -/
theorem arguments_of_part (hcomma : CodePoint.char ',' ∉ part) :
    (∃ key value, Reads part key value ∧ argumentsFrom 0 part = [(key, readValue value)]) ∨
      (∀ key value, ¬Reads part key value) ∧ argumentsFrom 0 part = [] := by
  induction part with
  | nil =>
    refine .inr ⟨fun key value h => ?_, rfl⟩
    obtain ⟨front, hfront, -⟩ := h.at_colon
    simp at hfront
  | cons c s ih =>
    cases hat : argumentAt? (c :: s) with
    | none =>
      have hs : CodePoint.char ',' ∉ s := fun hmem => hcomma (List.mem_cons_of_mem c hmem)
      have hstep : argumentsFrom 0 (c :: s) = argumentsFrom 0 s := by
        rw [argumentsFrom, hat]
      rw [hstep]
      simpa only [reads_cons hat hs] using ih hs
    | some p =>
      -- an argument that begins here leaves nothing of the part
      obtain ⟨key, rest, hkeyed, hvalue⟩ := keyed_of_argumentAt? hat
      have hat' := hat
      rw [argumentAt?_of_keyed hkeyed hvalue] at hat'
      cases hat'
      obtain ⟨hkey, hletters, blanks, hblanks, hs⟩ := hkeyed
      have hrest : CodePoint.char ',' ∉ rest := fun hmem => hcomma (by rw [hs]; simp [hmem])
      rw [valueIn_of_not_mem hrest] at hvalue hat
      refine .inl ⟨key, rest, ⟨hkey, hvalue, key ++ blanks, ?_, ?_, ?_⟩, ?_⟩
      · rw [hs, List.append_assoc]
      · exact keyBefore_append hletters hblanks
      · intro earlier between hbetween
        have hcolon : CodePoint.char ':' ∈ key ++ blanks := by simp [hbetween]
        rcases List.mem_append.mp hcolon with hcolon | hcolon
        · exact absurd (hletters _ hcolon) (by decide)
        · exact absurd (hblanks _ hcolon) (by decide)
      · have hself := argumentsFrom_cons hat hcomma []
        rw [List.append_nil] at hself
        rw [argumentsFrom, hat]
        dsimp only
        rw [hself]
        rfl

example : argumentsFrom 0 "not for all: no-hide: true" =
    [(("all" : Text), ArgumentValue.text "no-hide: true")] := by decide

theorem Reads.unique {key' value' : Text} (h : Reads part key value)
    (h' : Reads part key' value') : key = key' ∧ value = value' := by
  obtain ⟨hkey, -, front, hpart, rfl, hfirst⟩ := h
  obtain ⟨hkey', -, front', hpart', rfl, hfirst'⟩ := h'
  rw [hpart] at hpart'
  rcases List.append_eq_append_iff.mp hpart' with
    ⟨between, hfront, hrest⟩ | ⟨between, hfront, hrest⟩
  · cases between with
    | nil =>
      rw [List.append_nil] at hfront
      exact ⟨hfront ▸ rfl, (List.cons.inj hrest).2⟩
    | cons c between =>
      obtain ⟨rfl, -⟩ := List.cons.inj hrest
      exact absurd (hfirst' front between hfront) hkey
  · cases between with
    | nil =>
      rw [List.append_nil] at hfront
      exact ⟨hfront ▸ rfl, (List.cons.inj hrest).2.symm⟩
    | cons c between =>
      obtain ⟨rfl, -⟩ := List.cons.inj hrest
      exact absurd (hfirst front' between hfront) hkey'

theorem latest?_part (hcomma : CodePoint.char ',' ∉ part) (key : Text) {x : ArgumentValue} :
    OrderedMap.latest? (argumentsFrom 0 part) key = some x ↔
      ∃ value, Reads part key value ∧ x = readValue value := by
  rcases arguments_of_part hcomma with ⟨key', value', hreads, hfound⟩ | ⟨hnone, hfound⟩
  · rw [hfound]
    constructor
    · intro h
      have hkey := (Option.ite_none_right_eq_some.mp h).1
      have hx := (Option.ite_none_right_eq_some.mp h).2
      exact ⟨value', hkey ▸ hreads, (Option.some.inj hx).symm⟩
    · rintro ⟨value, h, rfl⟩
      obtain ⟨rfl, rfl⟩ := h.unique hreads
      simp [OrderedMap.latest?, OrderedMap.find?]
  · rw [hfound]
    constructor
    · intro h
      cases h
    · rintro ⟨value, h, -⟩
      exact absurd h (hnone key value)

theorem latest?_part_eq_none (hcomma : CodePoint.char ',' ∉ part) (key : Text) :
    OrderedMap.latest? (argumentsFrom 0 part) key = none ↔ ∀ value, ¬Reads part key value := by
  rw [Option.eq_none_iff_forall_ne_some]
  constructor
  · intro h value hreads
    exact h _ ((latest?_part hcomma key).mpr ⟨value, hreads, rfl⟩)
  · intro h x hx
    obtain ⟨value, hreads, -⟩ := (latest?_part hcomma key).mp hx
    exact h value hreads

end Attribute

end RouterLayer
