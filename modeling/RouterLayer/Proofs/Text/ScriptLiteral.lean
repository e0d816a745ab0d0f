import Mathlib.Tactic.SplitIfs
import RouterLayer.Json.Reader

/-!
String literals of the generated language, in single quotes and strict mode, and the code units that
they stand for. An escape takes more units than it stands for, so a text between quotes is what its
literal stands for just when it has nothing that a literal treats as special (`readLiteral?_iff`).
-/

set_option autoImplicit false

namespace RouterLayer

def Script.unitsOf (n : Nat) : List Nat :=
  if n < 0x10000 then [n]
  else [0xD800 + (n - 0x10000) / 0x400, 0xDC00 + (n - 0x10000) % 0x400]

def CodePoint.units (c : CodePoint) : List Nat := Script.unitsOf c.code

def Text.units (s : Text) : List Nat := s.flatMap CodePoint.units

namespace Script

def hexDigit? (c : CodePoint) : Option Nat := c.char?.bind Json.hexValue?

def hexNumber? (digits : Text) : Option Nat :=
  digits.foldlM (fun n c => (hexDigit? c).map fun d => n * 16 + d) 0

def isDigit (c : CodePoint) : Bool := c.char?.any Json.isDigit

def isLineBreak (c : CodePoint) : Bool :=
  c = '\n' || c = '\r' || c.code = 0x2028 || c.code = 0x2029

def fixedEscape? (width : Nat) (s : Text) : Option (List Nat × Nat) :=
  if s.length < width then none else (hexNumber? (s.take width)).map fun n => ([n], width)

def bracedEscape? (s : Text) : Option (List Nat × Nat) :=
  let digits := s.takeWhile fun c => (hexDigit? c).isSome
  if digits = [] || s[digits.length]? ≠ some (.char '}') then none
  else (hexNumber? digits).bind fun n =>
    if n < 0x110000 then some (unitsOf n, digits.length + 1) else none

def controls : List (CodePoint × Nat) :=
  [('b', 0x08), ('t', 0x09), ('n', 0x0A), ('v', 0x0B), ('f', 0x0C), ('r', 0x0D)]

/-- What a backslash in front of `c` and `s` stands for, and how many points of `s` belong to it. A
line break behind a backslash stands for nothing. -/
def escape? (c : CodePoint) (s : Text) : Option (List Nat × Nat) :=
  if c = 'x' then fixedEscape? 2 s
  else if c = 'u' then
    match s with
    | .char '{' :: rest => (bracedEscape? rest).map fun e => (e.1, e.2 + 1)
    | _ => fixedEscape? 4 s
  else if c = '0' then if s.head?.any isDigit then none else some ([0], 0)
  else if isDigit c then none
  else if c = '\r' then some ([], if s.head? = some (.char '\n') then 1 else 0)
  else if isLineBreak c then some ([], 0)
  else
    match controls.lookup c with
    | some n => some ([n], 0)
    | none => some (c.units, 0)

def readBody : Nat → Text → Option (List Nat × Text)
  | _, [] => none
  | skip + 1, _ :: s => readBody skip s
  | 0, c :: s =>
    if c = '\'' then some ([], s)
    else if c = '\n' || c = '\r' then none
    else if c = '\\' then do
      let next ← s.head?
      let (units, taken) ← escape? next s.tail
      let (value, rest) ← readBody (taken + 1) s
      pure (units ++ value, rest)
    else do
      let (value, rest) ← readBody 0 s
      pure (c.units ++ value, rest)

def readLiteral? (s : Text) : Option (List Nat × Text) :=
  if s.head? = some (.char '\'') then readBody 0 s.tail else none

/-- What a literal treats as special: its quote, the backslash, and the line breaks that it must not
hold. -/
def isSpecial (c : CodePoint) : Bool := c = '\'' || c = '\\' || c = '\n' || c = '\r'

def IsPlain (s : Text) : Prop := ∀ c ∈ s, isSpecial c = false

instance (s : Text) : Decidable (IsPlain s) := inferInstanceAs (Decidable (∀ c ∈ s, _))

section Length

theorem length_unitsOf (n : Nat) : 1 ≤ (unitsOf n).length ∧ (unitsOf n).length ≤ 2 := by
  unfold unitsOf
  split <;> simp

theorem length_units_cons (c : CodePoint) (s : Text) :
    (Text.units (c :: s)).length = c.units.length + s.units.length := by
  simp [Text.units]

theorem length_units_append (s t : Text) :
    (Text.units (s ++ t)).length = s.units.length + t.units.length := by
  simp [Text.units]

theorem length_fixedEscape? {width : Nat} {s : Text} {units : List Nat} {taken : Nat}
    (h : fixedEscape? width s = some (units, taken)) : units.length = 1 := by
  unfold fixedEscape? at h
  split at h
  · cases h
  · obtain ⟨n, -, h⟩ := Option.map_eq_some_iff.mp h
    cases h
    rfl

theorem length_bracedEscape? {s : Text} {units : List Nat} {taken : Nat}
    (h : bracedEscape? s = some (units, taken)) : units.length ≤ 2 := by
  simp only [bracedEscape?] at h
  split_ifs at h
  obtain ⟨n, -, h⟩ := Option.bind_eq_some_iff.mp h
  split_ifs at h
  cases h
  exact (length_unitsOf n).2

theorem length_escape? {c : CodePoint} {s : Text} {units : List Nat} {taken : Nat}
    (h : escape? c s = some (units, taken)) :
    units.length ≤ c.units.length + (Text.units (s.take taken)).length := by
  have hone := (length_unitsOf c.code).1
  change 1 ≤ c.units.length at hone
  unfold escape? at h
  split_ifs at h with hx hu hzero hnumber
  · have hlength := length_fixedEscape? h
    omega
  · split at h
    · next rest =>
      obtain ⟨⟨found, behind⟩, hbraced, h⟩ := Option.map_eq_some_iff.mp h
      simp only [Prod.mk.injEq] at h
      obtain ⟨rfl, rfl⟩ := h
      have hlength := length_bracedEscape? hbraced
      have hbrace : (CodePoint.char '{').units.length = 1 := rfl
      rw [List.take_succ_cons, length_units_cons]
      omega
    · have hlength := length_fixedEscape? h
      omega
  · cases h
    simp only [List.length_cons, List.length_nil]
    omega
  · cases h
    exact Nat.zero_le _
  · cases h
    exact Nat.zero_le _
  · cases h
    exact Nat.zero_le _
  · split at h
    · cases h
      simp only [List.length_cons, List.length_nil]
      omega
    · cases h
      exact Nat.le_add_right _ _

end Length

/-- What was read is the text up to a quote. It has no fewer units than it stands for, and as many
only if nothing in it is special. -/
theorem readBody_spec {skip : Nat} {s rest : Text} {value : List Nat}
    (h : readBody skip s = some (value, rest)) :
    ∃ body, s.drop skip = body ++ .char '\'' :: rest ∧ value.length ≤ (Text.units body).length ∧
      (value.length = (Text.units body).length → IsPlain body) := by
  induction s generalizing skip value with
  | nil => simp [readBody] at h
  | cons c s ih =>
    cases skip with
    | succ skip =>
      rw [List.drop_succ_cons]
      exact ih h
    | zero =>
      rw [List.drop_zero]
      rw [readBody] at h
      split_ifs at h with hquote hbreak hslash
      · cases h
        exact ⟨[], by rw [hquote, List.nil_append], Nat.le_refl _, fun _ => nofun⟩
      · obtain ⟨next, hnext, h⟩ := Option.bind_eq_some_iff.mp h
        obtain ⟨⟨units, taken⟩, hescape, h⟩ := Option.bind_eq_some_iff.mp h
        obtain ⟨⟨value', rest'⟩, hread, h⟩ := Option.bind_eq_some_iff.mp h
        cases h
        -- with its backslash the escape is longer than what it stands for, which is strict
        obtain ⟨body, hbody, hlength, -⟩ := ih hread
        obtain ⟨rest', rfl⟩ := List.head?_eq_some_iff.mp hnext
        rw [List.drop_succ_cons] at hbody
        have hunits := length_escape? hescape
        have hone : (CodePoint.char '\\').units.length = 1 := rfl
        refine ⟨.char '\\' :: next :: (rest'.take taken ++ body), ?_, ?_, ?_⟩
        · rw [hslash, List.cons_append, List.cons_append, List.append_assoc, ← hbody,
            List.take_append_drop]
        all_goals
          simp only [List.tail_cons] at hunits
          rw [List.length_append, length_units_cons, length_units_cons, length_units_append]
          omega
      · obtain ⟨⟨value', rest'⟩, hread, h⟩ := Option.bind_eq_some_iff.mp h
        cases h
        obtain ⟨body, hbody, hlength, hplain⟩ := ih hread
        rw [List.drop_zero] at hbody
        refine ⟨c :: body, by rw [hbody, List.cons_append], ?_, fun hsame => ?_⟩
        · rw [List.length_append, length_units_cons]
          omega
        · rw [List.length_append, length_units_cons, Nat.add_left_cancel_iff] at hsame
          have hc : isSpecial c = false := by
            simp_all [isSpecial]
          exact List.forall_mem_cons.mpr ⟨hc, hplain hsame⟩

theorem readBody_plain {body : Text} (h : IsPlain body) (rest : Text) :
    readBody 0 (body ++ .char '\'' :: rest) = some (body.units, rest) := by
  induction body with
  | nil => simp [readBody, Text.units]
  | cons c body ih =>
    obtain ⟨hc, hbody⟩ := List.forall_mem_cons.mp h
    have hordinary : c ≠ .char '\'' ∧ c ≠ .char '\\' ∧ c ≠ .char '\n' ∧ c ≠ .char '\r' := by
      simpa [isSpecial, and_assoc] using hc
    obtain ⟨hquote, hslash, hline, hreturn⟩ := hordinary
    rw [List.cons_append, readBody, ih hbody]
    simp [hquote, hslash, hline, hreturn, Text.units]

/-- A text between quotes is read as itself if nothing in it is special, and only then. -/
theorem readLiteral?_iff (s rest : Text) :
    readLiteral? ("'" ++ (s ++ ("'" ++ rest))) = some (s.units, rest) ↔ IsPlain s := by
  have hquotes : readLiteral? ("'" ++ (s ++ ("'" ++ rest))) =
      readBody 0 (s ++ .char '\'' :: rest) := rfl
  rw [hquotes]
  constructor
  · intro h
    obtain ⟨body, hbody, -, hplain⟩ := readBody_spec h
    rw [List.drop_zero] at hbody
    rw [List.append_cancel_right hbody]
    exact hplain (by rw [List.append_cancel_right hbody])
  · intro h
    exact readBody_plain h rest

example : readLiteral? "'it\\'s \\x61 \\u0063at';" =
    some (Text.units "it's a cat", (";" : Text)) := by decide

end Script

end RouterLayer
