import RouterLayer.Text.Basic

/-!
Plain text: what is left of a text when the sequences that control a terminal are taken out. Such a
sequence is an escape character, an opening bracket, parameters, intermediate characters, and one
final character. The three classes are disjoint ranges of ASCII, so a sequence can be read in one way
only.
-/

set_option autoImplicit false

namespace RouterLayer.Text

def isControlParameter (c : CodePoint) : Bool := 0x30 ≤ c.code && c.code ≤ 0x3F

def isControlIntermediate (c : CodePoint) : Bool := 0x20 ≤ c.code && c.code ≤ 0x2F

def isControlFinal (c : CodePoint) : Bool := 0x40 ≤ c.code && c.code ≤ 0x7E

/-- The length of the control sequence at the front of a text; zero when there is none. -/
def controlLength (s : Text) : Nat :=
  match s with
  | .char '\x1b' :: .char '[' :: rest =>
    let parameters := rest.takeWhile isControlParameter
    let intermediates := (rest.drop parameters.length).takeWhile isControlIntermediate
    match rest.drop (parameters.length + intermediates.length) with
    | c :: _ => if isControlFinal c then parameters.length + intermediates.length + 3 else 0
    | [] => 0
  | _ => 0

/-- Reads from left to right; `skip` code points belong to a sequence that was found already. -/
def plainFrom : (skip : Nat) → Text → Text
  | _, [] => []
  | skip + 1, _ :: rest => plainFrom skip rest
  | 0, c :: rest =>
    match controlLength (c :: rest) with
    | 0 => c :: plainFrom 0 rest
    | skip + 1 => plainFrom skip rest

def plain (s : Text) : Text := plainFrom 0 s

theorem controlLength_cons_of_ne (c : CodePoint) (rest : Text) (h : c ≠ '\x1b') :
    controlLength (c :: rest) = 0 := by
  unfold controlLength
  split
  · simp_all
  · rfl

theorem plain_of_not_mem (s : Text) (h : CodePoint.char '\x1b' ∉ s) : s.plain = s := by
  induction s with
  | nil => rfl
  | cons c rest ih =>
    simp only [List.mem_cons, not_or] at h
    have hc : controlLength (c :: rest) = 0 := controlLength_cons_of_ne c rest (Ne.symm h.1)
    have hr : plainFrom 0 rest = rest := ih h.2
    simp only [plain, plainFrom, hc, hr]

end RouterLayer.Text
