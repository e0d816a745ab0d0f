import RouterLayer.Text.Case.Table

/-!
Lower and upper case of whole texts. A capital sigma at the end of a word becomes the final form
of the letter, so the lower case of a character can depend on its neighbours.
-/

set_option autoImplicit false

namespace RouterLayer.Text

def CaseRun.contains (r : CaseRun) (n : Nat) : Bool :=
  r.first ≤ n && n ≤ r.last && (n - r.first) % r.step == 0

/-- Looks a code point up among the expansions first, then among the runs; it stands for itself
when neither names it. -/
def caseMap (runs : List CaseRun) (expansions : List (Nat × List Nat)) (c : CodePoint) : Text :=
  match expansions.lookup c.code with
  | some codes => codes.map CodePoint.ofCode
  | none =>
    match runs.find? (·.contains c.code) with
    | some r => [CodePoint.ofCode (c.code + r.shift).toNat]
    | none => [c]

def lowerPoint (c : CodePoint) : Text := caseMap lowerRuns lowerExpansions c

def upperPoint (c : CodePoint) : Text := caseMap upperRuns upperExpansions c

def meetsCased (s : Text) : Bool :=
  match s.dropWhile (inRanges caseIgnorableRanges) with
  | [] => false
  | c :: _ => inRanges casedRanges c

/-- The lower case of a code point between two texts, the nearest code point of each first. -/
def lowerBetween (before rest : Text) (c : CodePoint) : Text :=
  if c = 'Σ' then (if meetsCased before && !meetsCased rest then ['ς'] else ['σ'])
  else lowerPoint c

def lowerAfter (before : Text) : Text → Text
  | [] => []
  | c :: rest => lowerBetween before rest c ++ lowerAfter (c :: before) rest

def lower (s : Text) : Text := lowerAfter [] s

def upper (s : Text) : Text := s.flatMap upperPoint

/-- The ASCII letters alone, for words of a fixed vocabulary. -/
def asciiLower (s : Text) : Text :=
  s.map fun
    | .char c => .char c.toLower
    | .surrogate index => .surrogate index

end RouterLayer.Text
