import RouterLayer.Text.Basic

/-!
Texts as strings of bytes. A character has the bytes of its encoded form. A byte that belongs to no
character has a surrogate of its own, so every string of bytes is the form of some text; the other
surrogates have no form.
-/

set_option autoImplicit false

namespace RouterLayer.Text

/-- The surrogates at these distances from the first one stand for the bytes above the ASCII ones. -/
def byteSurrogates : Nat × Nat := (0x480, 0x4FF)

def byteSurrogate (b : UInt8) : CodePoint := .surrogate (Fin.ofNat 0x800 (0x400 + b.toNat))

def pointBytes? : CodePoint → Option (List UInt8)
  | .char c => some (String.utf8EncodeChar c)
  | .surrogate index =>
    if byteSurrogates.1 ≤ index.val && index.val ≤ byteSurrogates.2 then
      some [UInt8.ofNat (index.val - 0x400)]
    else none

def bytes? (s : Text) : Option (List UInt8) := (s.mapM pointBytes?).map List.flatten

structure Continuation where
  count : Nat
  least : Nat
  greatest : Nat
  deriving DecidableEq, Repr

/-- What has to follow a byte that begins a character of several bytes. The bounds leave out longer
forms of characters that have a shorter one, the surrogates, and what lies beyond the code space. -/
def continuation? (b : UInt8) : Option Continuation :=
  let n := b.toNat
  if 0xC2 ≤ n && n ≤ 0xDF then some ⟨1, 0x80, 0xBF⟩
  else if n = 0xE0 then some ⟨2, 0xA0, 0xBF⟩
  else if n = 0xED then some ⟨2, 0x80, 0x9F⟩
  else if 0xE1 ≤ n && n ≤ 0xEF then some ⟨2, 0x80, 0xBF⟩
  else if n = 0xF0 then some ⟨3, 0x90, 0xBF⟩
  else if 0xF1 ≤ n && n ≤ 0xF3 then some ⟨3, 0x80, 0xBF⟩
  else if n = 0xF4 then some ⟨3, 0x80, 0x8F⟩
  else none

def isContinuation (b : UInt8) : Bool := 0x80 ≤ b.toNat && b.toNat ≤ 0xBF

def continuing (c : Continuation) : List UInt8 → List UInt8
  | [] => []
  | b :: rest =>
    if c.least ≤ b.toNat && b.toNat ≤ c.greatest then
      b :: (rest.take (c.count - 1)).takeWhile isContinuation
    else []

def charCode (first : UInt8) (following : List UInt8) : Nat :=
  following.foldl (fun n b => n * 0x40 + b.toNat % 0x40)
    (first.toNat % Nat.pow 2 (6 - following.length))

/-- The character at the front of a string of bytes, or none, and the number of bytes up to where
the next one can begin. -/
def charAt (first : UInt8) (rest : List UInt8) : Option Char × Nat :=
  if first.toNat < 0x80 then (some (Char.ofNat first.toNat), 1)
  else
    match continuation? first with
    | none => (none, 1)
    | some c =>
      let following := continuing c rest
      (if following.length = c.count then some (Char.ofNat (charCode first following)) else none,
        following.length + 1)

-- a longer form, a surrogate and a code beyond the last one are refused; the last one is not
example : charAt 0xC1 [0x81] = (none, 1) ∧ charAt 0xED [0xA0, 0x80] = (none, 1) ∧
    charAt 0xF4 [0x90, 0x80, 0x80] = (none, 1) ∧
    charAt 0xF4 [0x8F, 0xBF, 0xBF] = (some (Char.ofNat 0x10FFFF), 4) := by
  decide

/-- Reads bytes from left to right; `broken` is told of those that make up no character, and `skip`
bytes were read already. -/
def readBytes (broken : List UInt8 → Text) : (skip : Nat) → List UInt8 → Text
  | _, [] => []
  | skip + 1, _ :: rest => readBytes broken skip rest
  | 0, b :: rest =>
    match charAt b rest with
    | (some c, length) => .char c :: readBytes broken (length - 1) rest
    | (none, length) => broken ((b :: rest).take length) ++ readBytes broken (length - 1) rest

def ofBytes (bytes : List UInt8) : Text := readBytes (·.map byteSurrogate) 0 bytes

/-- Of the texts with the same bytes, the one that has a character where one can be read. -/
def canonical (s : Text) : Text := if s.isEncodable then s else (s.bytes?.map ofBytes).getD s

/-- The text with a mark in the place of bytes that make up no character. -/
def legible (s : Text) : Text :=
  if s.isEncodable then s
  else (s.bytes?.map (readBytes (fun _ => [.char '\uFFFD']) 0)).getD s

theorem canonical_of_isEncodable (s : Text) (h : s.isEncodable = true) : s.canonical = s := by
  simp [canonical, h]

end RouterLayer.Text
