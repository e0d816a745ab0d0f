/-!
Texts. A text is a list of code points. Nearly all of them are characters, but an escape in a JSON
document can name one half of a surrogate pair alone; such a half is a code point and no character,
and a text that holds one cannot be encoded.
-/

set_option autoImplicit false

namespace RouterLayer

/-- A character, or a surrogate that stands without its partner, counted from the first one. -/
inductive CodePoint
  | char (c : Char)
  | surrogate (index : Fin 0x800)
  deriving DecidableEq, Repr

namespace CodePoint

instance : Coe Char CodePoint := ⟨.char⟩

instance : Inhabited CodePoint := ⟨'a'⟩

/-- The place in the code space. The surrogates fill the gap that the characters leave. -/
def code : CodePoint → Nat
  | .char c => c.toNat
  | .surrogate index => 0xD800 + index

def ofCode (n : Nat) : CodePoint :=
  if h : 0xD800 ≤ n ∧ n < 0xE000 then .surrogate ⟨n - 0xD800, by omega⟩ else .char (Char.ofNat n)

instance : LT CodePoint := ⟨fun a b => a.code < b.code⟩

instance (a b : CodePoint) : Decidable (a < b) := inferInstanceAs (Decidable (a.code < b.code))

def char? : CodePoint → Option Char
  | .char c => some c
  | .surrogate _ => none

def isLetter : CodePoint → Bool
  | .char c => ('a' ≤ c && c ≤ 'z') || ('A' ≤ c && c ≤ 'Z')
  | .surrogate _ => false

theorem ofCode_code (c : CodePoint) : ofCode c.code = c := by
  cases c with
  | char c =>
    have h : ¬(0xD800 ≤ c.toNat ∧ c.toNat < 0xE000) := by
      have := c.valid
      simp only [UInt32.isValidChar, Nat.isValidChar] at this
      simp only [Char.toNat]
      omega
    simp [ofCode, code, h]
  | surrogate index =>
    have h := index.isLt
    simp [ofCode, code]
    omega

end CodePoint

abbrev Text := List CodePoint

namespace Text

def ofChars (cs : List Char) : Text := cs.map .char

def ofString (s : String) : Text := ofChars s.toList

instance : Coe String Text := ⟨ofString⟩

def chars? (s : Text) : Option (List Char) := s.mapM (·.char?)

def toString? (s : Text) : Option String := s.chars?.map String.ofList

def isEncodable (s : Text) : Bool := s.all fun c => c.char?.isSome

theorem chars?_ofChars (cs : List Char) : (ofChars cs).chars? = some cs := by
  induction cs with
  | nil => rfl
  | cons c cs ih => simp_all [chars?, ofChars, CodePoint.char?]

end Text

end RouterLayer
