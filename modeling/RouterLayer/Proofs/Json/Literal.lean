import Mathlib.Data.List.Chain
import RouterLayer.Json.Indented
import RouterLayer.Json.Reader
import RouterLayer.Proofs.Text.Case

/-!
String literals and what they are read as. The literal of a text gives the text back, except that
two halves of a pair that stand side by side become one character (`readString_literal`). A text
without such a pair is whole. The whole texts are the ones that come back (`joined_eq_self_iff`), and
they are all that a string can stand for (`spelled_iff`).
-/

set_option autoImplicit false

namespace RouterLayer

/-- No two halves that make a pair stand side by side. -/
def Text.Whole (s : Text) : Prop :=
  s.IsChain fun a b => ¬(Json.isHighUnit a.code = true ∧ Json.isLowUnit b.code = true)

instance (s : Text) : Decidable s.Whole := inferInstanceAs (Decidable (List.IsChain _ _))

@[simp] theorem Text.ofChars_append (cs ds : List Char) :
    Text.ofChars (cs ++ ds) = Text.ofChars cs ++ Text.ofChars ds := List.map_append

theorem CodePoint.toNat_lt (c : Char) : c.toNat < 0x110000 := by
  have hvalid := c.valid
  simp only [UInt32.isValidChar, Nat.isValidChar] at hvalid
  simp only [Char.toNat]
  omega

theorem CodePoint.isUnit_char (c : Char) :
    Json.isHighUnit (CodePoint.char c).code = false ∧
      Json.isLowUnit (CodePoint.char c).code = false := by
  have hvalid := c.valid
  simp only [UInt32.isValidChar, Nat.isValidChar] at hvalid
  simp only [Json.isHighUnit, Json.isLowUnit, CodePoint.code, Char.toNat]
  grind

namespace Json

section Digits

theorem hexValue?_hexDigit : ∀ k < 16, (Text.hexDigit k).char?.bind hexValue? = some k := by decide

theorem exists_hexDigit {k : Nat} (h : k < 16) :
    ∃ c, Text.hexDigit k = .char c ∧ hexValue? c = some k := by
  obtain ⟨c, hc, hvalue⟩ := Option.bind_eq_some_iff.mp (hexValue?_hexDigit k h)
  cases hdigit : Text.hexDigit k with
  | char d =>
    rw [hdigit] at hc
    exact ⟨d, rfl, Option.some.inj hc ▸ hvalue⟩
  | surrogate index =>
    rw [hdigit] at hc
    cases hc

theorem hexValue?_lt {c : Char} {n : Nat} (h : hexValue? c = some n) : n < 16 := by
  have hcode : c.toNat = c.val.toNat := rfl
  have hlast : '9'.val.toNat = 57 ∧ 'f'.val.toNat = 102 ∧ 'F'.val.toNat = 70 := by decide
  unfold hexValue? isDigit at h
  simp only [Char.le_def, UInt32.le_iff_toNat_le, Bool.and_eq_true, decide_eq_true_eq, hlast] at h
  split_ifs at h <;> cases h <;> omega

theorem codeUnit?_lt {a b c d : Char} {n : Nat} (h : codeUnit? a b c d = some n) :
    n < 0x10000 := by
  unfold codeUnit? at h
  split at h
  · next ha hb hc hd =>
    cases h
    have ha' := hexValue?_lt ha
    have hb' := hexValue?_lt hb
    have hc' := hexValue?_lt hc
    have hd' := hexValue?_lt hd
    omega
  · cases h

theorem codeUnit?_hexDigits {n : Nat} (h : n < 0x10000) :
    ∃ a b c d, Text.hexDigits 4 n = Text.ofChars [a, b, c, d] ∧ codeUnit? a b c d = some n := by
  have hdigit (k : Nat) := exists_hexDigit (Nat.mod_lt k (by decide : 0 < 16))
  obtain ⟨a, ha, ha'⟩ := hdigit (n / 16 / 16 / 16)
  obtain ⟨b, hb, hb'⟩ := hdigit (n / 16 / 16)
  obtain ⟨c, hc, hc'⟩ := hdigit (n / 16)
  obtain ⟨d, hd, hd'⟩ := hdigit n
  refine ⟨a, b, c, d, ?_, ?_⟩
  · simp [Text.hexDigits, ha, hb, hc, hd, Text.ofChars]
  · simp only [codeUnit?, ha', hb', hc', hd', Option.some.injEq]
    omega

end Digits

section Progress

variable {p : Progress}

/-- A half that may get its partner is kept back. -/
def Progress.add (p : Progress) (c : CodePoint) : Progress := p.pushUnit c.code

def joined (s : Text) : Text := (s.foldl Progress.add ⟨[], none⟩).points.reverse

theorem add_char (p : Progress) (c : Char) : p.add (.char c) = p.push c := by
  obtain ⟨hhigh, hlow⟩ := CodePoint.isUnit_char c
  unfold Progress.add Progress.pushUnit
  split <;> simp [hhigh, hlow, CodePoint.ofCode_code]

theorem pushUnit_pushUnit (p : Progress) {c : Char} (h : 0x10000 ≤ c.toNat) :
    (p.pushUnit (0xD800 + (c.toNat - 0x10000) / 0x400)).pushUnit
      (0xDC00 + (c.toNat - 0x10000) % 0x400) = p.push c := by
  have hlimit := CodePoint.toNat_lt c
  generalize hhigh : 0xD800 + (c.toNat - 0x10000) / 0x400 = high
  generalize hlow : 0xDC00 + (c.toNat - 0x10000) % 0x400 = low
  have hisHigh : isHighUnit high = true := by simp [isHighUnit]; omega
  have hnotLow : isLowUnit high = false := by simp [isLowUnit]; omega
  have hisLow : isLowUnit low = true := by simp [isLowUnit]; omega
  have hfirst : p.pushUnit high = ⟨p.points, some high⟩ := by
    obtain ⟨done, half⟩ := p
    cases half <;> simp [Progress.pushUnit, Progress.points, hisHigh, hnotLow]
  have hchar : pairedChar high low = c := by
    have hcode : 0x10000 + (high - 0xD800) * 0x400 + (low - 0xDC00) = c.toNat := by omega
    rw [pairedChar, hcode, Char.ofNat_toNat]
  rw [hfirst]
  simp [Progress.pushUnit, Progress.push, hisLow, hchar]

/-- A low half joins a high one that is kept back; everything else is put behind what was read. -/
theorem add_cases (p : Progress) (c : CodePoint) :
    (∃ unit, p.half = some unit ∧ isLowUnit c.code = true ∧
      p.add c = ⟨.char (pairedChar unit c.code) :: p.done, none⟩) ∨
    ((p.half = none ∨ isLowUnit c.code = false) ∧ (p.add c).points = c :: p.points ∧
      (p.add c).half = if isHighUnit c.code then some c.code else none) := by
  unfold Progress.add Progress.pushUnit
  rw [CodePoint.ofCode_code]
  cases hhalf : p.half with
  | none =>
    refine .inr ⟨.inl rfl, ?_⟩
    cases hhigh : isHighUnit c.code <;>
      simp [Progress.push, Progress.points, hhalf, CodePoint.ofCode_code]
  | some unit =>
    cases hlow : isLowUnit c.code with
    | true => exact .inl ⟨unit, rfl, rfl, rfl⟩
    | false =>
      refine .inr ⟨.inr rfl, ?_⟩
      cases hhigh : isHighUnit c.code <;>
        simp [Progress.push, Progress.points, CodePoint.ofCode_code]

structure Progress.Sound (p : Progress) : Prop where
  whole : Text.Whole p.points.reverse
  half : ∀ unit ∈ p.half, isHighUnit unit = true
  kept : p.half = none → ∀ c ∈ p.points.head?, isHighUnit c.code = false

theorem whole_reverse_cons {c : CodePoint} {s : Text} : Text.Whole (c :: s).reverse ↔
    (∀ d ∈ s.head?, ¬(isHighUnit d.code = true ∧ isLowUnit c.code = true)) ∧
      Text.Whole s.reverse := by
  unfold Text.Whole
  rw [List.isChain_reverse, List.isChain_reverse]
  cases s <;> simp [List.isChain_cons_cons]

theorem points_of_half {unit : Nat} (hhalf : p.half = some unit) :
    p.points = CodePoint.ofCode unit :: p.done := by
  rw [Progress.points, hhalf]

theorem Progress.Sound.add (h : p.Sound) (c : CodePoint) : (p.add c).Sound := by
  rcases add_cases p c with ⟨unit, hhalf, -, hadd⟩ | ⟨happen, hpoints, hhalf⟩
  · have hwhole := h.whole
    rw [points_of_half hhalf, whole_reverse_cons] at hwhole
    obtain ⟨hhigh, hlow⟩ := CodePoint.isUnit_char (pairedChar unit c.code)
    rw [hadd]
    refine ⟨whole_reverse_cons.mpr ⟨fun d _ hpair => ?_, hwhole.2⟩, nofun, fun _ d hd => ?_⟩
    · rw [hlow] at hpair
      cases hpair.2
    · cases hd
      exact hhigh
  · refine ⟨?_, fun unit hunit => ?_, fun hnone d hd => ?_⟩
    · rw [hpoints]
      refine whole_reverse_cons.mpr ⟨fun d hd ⟨hhigh, hlow⟩ => ?_, h.whole⟩
      rcases happen with hnone | hnotLow
      · rw [h.kept hnone d hd] at hhigh
        cases hhigh
      · rw [hlow] at hnotLow
        cases hnotLow
    · rw [hhalf] at hunit
      split at hunit
      · next hhigh => exact Option.some.inj hunit ▸ hhigh
      · cases hunit
    · rw [hpoints] at hd
      cases hd
      rw [hhalf] at hnone
      simpa using hnone

theorem sound_empty : Progress.Sound ⟨[], none⟩ := ⟨List.isChain_nil, nofun, nofun⟩

theorem whole_joined (s : Text) : (joined s).Whole := by
  suffices hfold : ∀ p : Progress, p.Sound → (s.foldl Progress.add p).Sound from
    (hfold _ sound_empty).whole
  induction s with
  | nil => exact fun p h => h
  | cons c s ih => exact fun p h => ih (p.add c) (h.add c)

/-- A whole text is read as it stands: nothing in it joins what was read before. -/
theorem points_foldl_add {s : Text} (h : p.Sound) (hwhole : Text.Whole (p.points.reverse ++ s)) :
    (s.foldl Progress.add p).points.reverse = p.points.reverse ++ s := by
  induction s generalizing p with
  | nil => exact (List.append_nil _).symm
  | cons c s ih =>
    rcases add_cases p c with ⟨unit, hhalf, hlow, -⟩ | ⟨-, hpoints, -⟩
    · have hhigh := h.half unit hhalf
      have hcode : (CodePoint.ofCode unit).code = unit := by
        refine CodePoint.code_ofCode ?_
        simp only [isHighUnit, Bool.and_eq_true, decide_eq_true_eq] at hhigh
        omega
      obtain ⟨-, -, hpair⟩ := List.isChain_append.mp hwhole
      rw [points_of_half hhalf] at hpair
      exact absurd ⟨hcode.symm ▸ hhigh, hlow⟩ (hpair _ (by simp) c rfl)
    · have hnext : (p.add c).points.reverse ++ s = p.points.reverse ++ c :: s := by
        rw [hpoints, List.reverse_cons, List.append_assoc]
        rfl
      rw [List.foldl_cons, ih (h.add c) (hnext ▸ hwhole), hnext]

theorem joined_eq_self_iff {s : Text} : joined s = s ↔ s.Whole :=
  ⟨fun h => h ▸ whole_joined s, fun h => points_foldl_add sound_empty h⟩

example : joined [.surrogate 0, .surrogate 0x400, .surrogate 0] =
    [.char (Char.ofNat 0x10000), .surrogate 0] := by decide

end Progress

section Read

variable {opening rest : List Char} {p : Progress}

theorem whole_of_readChars (hp : p.Sound) {cs : List Char} {s : Text}
    (h : readChars opening p cs = .ok (s, rest)) : s.Whole := by
  fun_induction readChars opening p cs with
  | case2 p tail =>
    cases h
    exact hp.whole
  | case4 p a b c d tail unit _ hunit ih =>
    have hcode : (CodePoint.ofCode unit).code = unit :=
      CodePoint.code_ofCode ((codeUnit?_lt hunit).trans (by decide))
    refine ih ?_ h
    rw [← hcode]
    exact hp.add _
  | case7 p c tail _ _ e _ ih => exact ih (add_char p e ▸ hp.add _) h
  | case10 p c tail _ _ _ _ _ _ ih => exact ih (add_char p c ▸ hp.add _) h
  | _ => cases h

def Advances (s : Text) (step : Progress → Progress) : Prop :=
  ∃ cs, s = Text.ofChars cs ∧ ∀ opening p rest, rest ≠ [] →
    readChars opening p (cs ++ rest) = readChars opening (step p) rest

theorem Advances.append {s t : Text} {f g : Progress → Progress} (hs : Advances s f)
    (ht : Advances t g) : Advances (s ++ t) fun p => g (f p) := by
  obtain ⟨cs, rfl, hfirst⟩ := hs
  obtain ⟨ds, rfl, hsecond⟩ := ht
  refine ⟨cs ++ ds, (Text.ofChars_append cs ds).symm, fun opening p rest hrest => ?_⟩
  rw [List.append_assoc, hfirst _ _ _ (List.append_ne_nil_of_right_ne_nil ds hrest),
    hsecond _ _ _ hrest]

theorem advances_unit {n : Nat} (h : n < 0x10000) :
    Advances ("\\u" ++ Text.hexDigits 4 n) fun p => p.pushUnit n := by
  obtain ⟨a, b, c, d, hdigits, hunit⟩ := codeUnit?_hexDigits h
  refine ⟨['\\', 'u', a, b, c, d], by rw [hdigits]; rfl, fun opening p rest hrest => ?_⟩
  have hempty : rest.isEmpty = false := by simpa using hrest
  simp only [List.cons_append, List.nil_append]
  rw [readChars, hunit, hempty]

theorem advances_codeEscape (c : CodePoint) : Advances (codeEscape c) fun p => p.add c := by
  unfold codeEscape
  split
  · next hplane => exact advances_unit hplane
  · next hplane =>
    cases c with
    | surrogate index =>
      simp only [CodePoint.code] at hplane
      omega
    | char c =>
      have hlimit := CodePoint.toNat_lt c
      have hcode : (CodePoint.char c).code = c.toNat := rfl
      rw [hcode] at hplane ⊢
      have hpair := (advances_unit (n := 0xD800 + (c.toNat - 0x10000) / 0x400) (by omega)).append
        (advances_unit (n := 0xDC00 + (c.toNat - 0x10000) % 0x400) (by omega))
      simp only [pushUnit_pushUnit _ (Nat.le_of_not_lt hplane), ← add_char] at hpair
      rwa [← List.append_assoc] at hpair

theorem advances_stringPoint (c : CodePoint) : Advances (stringPoint c) fun p => p.add c := by
  have hescape {c e : Char} (h : simpleEscape? e = some c) (hu : e ≠ 'u') :
      Advances (Text.ofChars ['\\', e]) fun p => p.add (.char c) := by
    refine ⟨_, rfl, fun opening p rest _ => ?_⟩
    simp only [List.cons_append, List.nil_append]
    rw [readChars, h, add_char]
    · exact fun _ _ _ _ _ he => absurd he hu
    · exact hu
  unfold stringPoint
  iterate 7
    split
    · next hc =>
      subst hc
      exact hescape rfl (by decide)
  split
  · next hquote hslash _ _ _ _ _ hprint =>
    obtain ⟨hfirst, hlast⟩ : 0x20 ≤ c.code ∧ c.code < 0x7F := by simpa using hprint
    cases c with
    | surrogate index =>
      simp only [CodePoint.code] at hlast
      omega
    | char c =>
      refine ⟨[c], rfl, fun opening p rest _ => ?_⟩
      have hq : c ≠ '"' := fun h => hquote (congrArg CodePoint.char h)
      have hs : c ≠ '\\' := fun h => hslash (congrArg CodePoint.char h)
      have hcontrol : ¬c.toNat ≤ 0x1F := Nat.not_le_of_gt hfirst
      rw [List.singleton_append, readChars, if_neg hcontrol, ← add_char]
      · exact hq
      all_goals grind
  · exact advances_codeEscape c

theorem advances_flatMap (s : Text) :
    Advances (s.flatMap stringPoint) fun p => s.foldl Progress.add p := by
  induction s with
  | nil => exact ⟨[], rfl, fun _ _ _ _ => rfl⟩
  | cons c s ih => exact (advances_stringPoint c).append ih

theorem readString_literal (s : Text) :
    ∃ cs, stringLiteral s = Text.ofChars ('"' :: cs) ∧
      ∀ rest, readString (cs ++ rest) = .ok (joined s, rest) := by
  obtain ⟨cs, hcs, hread⟩ := advances_flatMap s
  refine ⟨cs ++ ['"'], ?_, fun rest => ?_⟩
  · rw [stringLiteral, hcs, ← List.cons_append, Text.ofChars_append]
    rfl
  · rw [List.append_assoc, readString, hread _ _ _ (by simp)]
    rfl

def Spelled (s : Text) : Prop := ∃ cs rest, readString cs = .ok (s, rest)

theorem spelled_iff {s : Text} : Spelled s ↔ s.Whole := by
  constructor
  · rintro ⟨cs, rest, h⟩
    exact whole_of_readChars sound_empty h
  · intro h
    obtain ⟨cs, -, hread⟩ := readString_literal s
    exact ⟨cs ++ [], [], joined_eq_self_iff.mpr h ▸ hread []⟩

end Read

end Json

end RouterLayer
