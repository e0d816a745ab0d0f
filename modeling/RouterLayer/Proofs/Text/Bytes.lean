import RouterLayer.Text.Bytes
import Mathlib.Data.List.Basic

set_option autoImplicit false

namespace RouterLayer.Text

abbrev Continues (b : UInt8) : Prop := 0x80 ≤ b.toNat ∧ b.toNat ≤ 0xBF

theorem continuing_cons {c : Continuation} {b : UInt8} {rest : List UInt8} :
    continuing c (b :: rest) =
      if c.least ≤ b.toNat && b.toNat ≤ c.greatest then
        b :: (rest.take (c.count - 1)).takeWhile isContinuation
      else [] := rfl

theorem continuing_isPrefix (c : Continuation) (bytes : List UInt8) :
    continuing c bytes <+: bytes := by
  cases bytes with
  | nil => exact List.nil_prefix
  | cons b rest =>
    rw [continuing_cons]
    split
    · refine List.cons_prefix_cons.mpr ⟨rfl, ?_⟩
      exact (List.takeWhile_prefix _).trans (List.take_prefix _ _)
    · exact List.nil_prefix

theorem continuing_eq_cons {c : Continuation} {bytes following : List UInt8} {b : UInt8}
    (h : continuing c bytes = b :: following) :
    (c.least ≤ b.toNat ∧ b.toNat ≤ c.greatest) ∧ ∀ x ∈ following, Continues x := by
  cases bytes with
  | nil => cases h
  | cons first rest =>
    rw [continuing_cons] at h
    split at h
    · next hbounds =>
      cases h
      refine ⟨by simpa using hbounds, fun x hx => ?_⟩
      simpa [isContinuation] using List.all_eq_true.mp List.all_takeWhile x hx
    · cases h

section Encode

variable {b x y z : UInt8}

theorem toNat_ofNat_char {n : Nat} (h : n.isValidChar) : (Char.ofNat n).val.toNat = n := by
  rw [Char.ofNat, dif_pos h]
  rfl

theorem byte_eq {n : Nat} (h : n = b.toNat) : UInt8.ofNat n = b := by
  rw [h, UInt8.ofNat_toNat]

theorem encode_one (hb : b.toNat < 0x80) :
    String.utf8EncodeChar (Char.ofNat b.toNat) = [b] := by
  have hn : (Char.ofNat b.toNat).val.toNat = b.toNat := toNat_ofNat_char (.inl (by omega))
  rw [String.utf8EncodeChar, hn, if_pos (by omega), UInt8.ofNat_toNat]

theorem encode_two (hb : 0xC2 ≤ b.toNat ∧ b.toNat ≤ 0xDF) (hx : Continues x) :
    String.utf8EncodeChar (Char.ofNat (charCode b [x])) = [b, x] := by
  have hn : charCode b [x] = b.toNat % 32 * 64 + x.toNat % 64 := rfl
  rw [String.utf8EncodeChar, toNat_ofNat_char (.inl (by omega)), hn, if_neg (by omega),
    if_pos (by omega), byte_eq (b := b) (by omega), byte_eq (b := x) (by omega)]

theorem encode_three (hb : 0xE0 ≤ b.toNat ∧ b.toNat ≤ 0xEF) (hx : Continues x) (hy : Continues y)
    (hleast : b.toNat = 0xE0 → 0xA0 ≤ x.toNat) (hgreatest : b.toNat = 0xED → x.toNat ≤ 0x9F) :
    String.utf8EncodeChar (Char.ofNat (charCode b [x, y])) = [b, x, y] := by
  have hn : charCode b [x, y] = (b.toNat % 16 * 64 + x.toNat % 64) * 64 + y.toNat % 64 := rfl
  rw [String.utf8EncodeChar, toNat_ofNat_char (by rw [hn, Nat.isValidChar]; omega), hn,
    if_neg (by omega), if_neg (by omega), if_pos (by omega), byte_eq (b := b) (by omega),
    byte_eq (b := x) (by omega), byte_eq (b := y) (by omega)]

theorem encode_four (hb : 0xF0 ≤ b.toNat ∧ b.toNat ≤ 0xF4) (hx : Continues x) (hy : Continues y)
    (hz : Continues z) (hleast : b.toNat = 0xF0 → 0x90 ≤ x.toNat)
    (hgreatest : b.toNat = 0xF4 → x.toNat ≤ 0x8F) :
    String.utf8EncodeChar (Char.ofNat (charCode b [x, y, z])) = [b, x, y, z] := by
  have hn : charCode b [x, y, z] =
      ((b.toNat % 8 * 64 + x.toNat % 64) * 64 + y.toNat % 64) * 64 + z.toNat % 64 := rfl
  rw [String.utf8EncodeChar, toNat_ofNat_char (by rw [hn, Nat.isValidChar]; omega), hn,
    if_neg (by omega), if_neg (by omega), if_neg (by omega), byte_eq (b := b) (by omega),
    byte_eq (b := x) (by omega), byte_eq (b := y) (by omega), byte_eq (b := z) (by omega)]

end Encode

inductive Begins (b : UInt8) : Continuation → Prop
  | two (h : 0xC2 ≤ b.toNat ∧ b.toNat ≤ 0xDF) : Begins b ⟨1, 0x80, 0xBF⟩
  | three (least greatest : Nat) (h : 0xE0 ≤ b.toNat ∧ b.toNat ≤ 0xEF)
      (bounds : 0x80 ≤ least ∧ greatest ≤ 0xBF) (hleast : b.toNat = 0xE0 → 0xA0 ≤ least)
      (hgreatest : b.toNat = 0xED → greatest ≤ 0x9F) : Begins b ⟨2, least, greatest⟩
  | four (least greatest : Nat) (h : 0xF0 ≤ b.toNat ∧ b.toNat ≤ 0xF4)
      (bounds : 0x80 ≤ least ∧ greatest ≤ 0xBF) (hleast : b.toNat = 0xF0 → 0x90 ≤ least)
      (hgreatest : b.toNat = 0xF4 → greatest ≤ 0x8F) : Begins b ⟨3, least, greatest⟩

theorem Begins.least_le {b : UInt8} {c : Continuation} (h : Begins b c) : 0x80 ≤ c.least := by
  cases h with
  | two _ => exact Nat.le_refl _
  | three _ _ _ bounds _ _ => exact bounds.1
  | four _ _ _ bounds _ _ => exact bounds.1

theorem begins_of_continuation {b : UInt8} {c : Continuation} (h : continuation? b = some c) :
    Begins b c := by
  unfold continuation? at h
  dsimp only at h
  repeat' split at h
  all_goals simp only [Bool.and_eq_true, decide_eq_true_eq] at *
  all_goals cases h
  · exact .two ‹_›
  all_goals first
    | exact .three _ _ (by omega) (by omega) (by omega) (by omega)
    | exact .four _ _ (by omega) (by omega) (by omega) (by omega)

theorem encode_charCode {b : UInt8} {c : Continuation} {bytes : List UInt8} (h : Begins b c)
    (hlength : (continuing c bytes).length = c.count) :
    String.utf8EncodeChar (Char.ofNat (charCode b (continuing c bytes))) =
      b :: continuing c bytes := by
  cases h with
  | two hb =>
    obtain ⟨x, hx⟩ := List.length_eq_one_iff.mp hlength
    rw [hx]
    exact encode_two hb (continuing_eq_cons hx).1
  | three least greatest hb bounds hleast hgreatest =>
    obtain ⟨x, y, hxy⟩ := List.length_eq_two.mp hlength
    obtain ⟨hx, hrest⟩ := continuing_eq_cons hxy
    replace hx : least ≤ x.toNat ∧ x.toNat ≤ greatest := hx
    rw [hxy]
    exact encode_three hb ⟨by omega, by omega⟩ (hrest y (by simp)) (by omega) (by omega)
  | four least greatest hb bounds hleast hgreatest =>
    obtain ⟨x, y, z, hxyz⟩ := List.length_eq_three.mp hlength
    obtain ⟨hx, hrest⟩ := continuing_eq_cons hxyz
    replace hx : least ≤ x.toNat ∧ x.toNat ≤ greatest := hx
    rw [hxyz]
    exact encode_four hb ⟨by omega, by omega⟩ (hrest y (by simp)) (hrest z (by simp)) (by omega)
      (by omega)

theorem take_continuing (b : UInt8) (c : Continuation) (bytes : List UInt8) :
    (b :: bytes).take ((continuing c bytes).length + 1) = b :: continuing c bytes := by
  rw [List.take_succ_cons, ← List.prefix_iff_eq_take.mp (continuing_isPrefix c bytes)]

/-- Reading one character takes at least one byte: those of the character, or bytes that only a
surrogate can stand for. -/
theorem charAt_spec (b : UInt8) (bytes : List UInt8) :
    0 < (charAt b bytes).2 ∧
      match (charAt b bytes).1 with
      | some c => String.utf8EncodeChar c = (b :: bytes).take (charAt b bytes).2
      | none => ∀ x ∈ (b :: bytes).take (charAt b bytes).2, 0x80 ≤ x.toNat := by
  unfold charAt
  split
  · next hb => exact ⟨Nat.one_pos, encode_one hb⟩
  · next hb =>
    split
    · exact ⟨Nat.one_pos, by simpa using Nat.le_of_not_lt hb⟩
    · next c hc =>
      have hbegins := begins_of_continuation hc
      refine ⟨Nat.succ_pos _, ?_⟩
      dsimp only
      rw [take_continuing]
      by_cases hlength : (continuing c bytes).length = c.count
      · rw [if_pos hlength]
        exact encode_charCode hbegins hlength
      · rw [if_neg hlength]
        refine List.forall_mem_cons.mpr ⟨Nat.le_of_not_lt hb, fun x hx => ?_⟩
        cases hcontinuing : continuing c bytes with
        | nil => rw [hcontinuing] at hx; cases hx
        | cons first following =>
          obtain ⟨hfirst, hrest⟩ := continuing_eq_cons hcontinuing
          rw [hcontinuing] at hx
          rcases List.mem_cons.mp hx with rfl | hx
          · exact Nat.le_trans hbegins.least_le hfirst.1
          · exact (hrest x hx).1

theorem readBytes_eq_drop (broken : List UInt8 → Text) (skip : Nat) (bytes : List UInt8) :
    readBytes broken skip bytes = readBytes broken 0 (bytes.drop skip) := by
  induction skip generalizing bytes with
  | zero => rfl
  | succ skip ih =>
    cases bytes with
    | nil => cases skip <;> rfl
    | cons b rest => rw [readBytes, ih, List.drop_succ_cons]

@[simp] theorem bytes?_nil : bytes? [] = some [] := rfl

theorem bytes?_cons (c : CodePoint) (s : Text) :
    bytes? (c :: s) = (pointBytes? c).bind fun point => (bytes? s).map (point ++ ·) := by
  unfold bytes?
  rw [List.mapM_cons]
  cases pointBytes? c <;> cases s.mapM pointBytes? <;> rfl

theorem bytes?_append (s t : Text) :
    bytes? (s ++ t) = (bytes? s).bind fun front => (bytes? t).map (front ++ ·) := by
  induction s with
  | nil => cases h : bytes? t <;> simp [h]
  | cons c s ih =>
    rw [List.cons_append, bytes?_cons, bytes?_cons, ih]
    cases pointBytes? c <;> cases bytes? s <;> cases bytes? t <;> simp

theorem pointBytes?_byteSurrogate {b : UInt8} (h : 0x80 ≤ b.toNat) :
    pointBytes? (byteSurrogate b) = some [b] := by
  have hlt := b.toNat_lt
  have hval : (Fin.ofNat 0x800 (0x400 + b.toNat)).val = 0x400 + b.toNat := by
    rw [Fin.val_ofNat]
    exact Nat.mod_eq_of_lt (by omega)
  have hrange : (decide (0x480 ≤ 0x400 + b.toNat) && decide (0x400 + b.toNat ≤ 0x4FF)) = true := by
    simp only [Bool.and_eq_true, decide_eq_true_eq]
    omega
  simp only [byteSurrogate, pointBytes?, byteSurrogates, hval, hrange, if_true,
    Nat.add_sub_cancel_left, UInt8.ofNat_toNat]

theorem bytes?_map_byteSurrogate {bytes : List UInt8} (h : ∀ b ∈ bytes, 0x80 ≤ b.toNat) :
    bytes? (bytes.map byteSurrogate) = some bytes := by
  induction bytes with
  | nil => rfl
  | cons b rest ih =>
    obtain ⟨hb, hrest⟩ := List.forall_mem_cons.mp h
    rw [List.map_cons, bytes?_cons, pointBytes?_byteSurrogate hb, ih hrest]
    rfl

/-- The text that is read from bytes has these bytes. The induction is on a bound of their number,
since a step of the reader takes several of them. -/
theorem bytes?_ofBytes (bytes : List UInt8) : (ofBytes bytes).bytes? = some bytes := by
  suffices h : ∀ n, ∀ bytes : List UInt8, bytes.length ≤ n →
      (readBytes (·.map byteSurrogate) 0 bytes).bytes? = some bytes from h _ bytes (Nat.le_refl _)
  intro n
  induction n with
  | zero =>
    intro bytes h
    rw [List.eq_nil_of_length_eq_zero (Nat.le_zero.mp h)]
    rfl
  | succ n ih =>
    intro bytes h
    cases bytes with
    | nil => rfl
    | cons b rest =>
      obtain ⟨hpos, hspec⟩ := charAt_spec b rest
      have hdrop : rest.drop ((charAt b rest).2 - 1) = (b :: rest).drop (charAt b rest).2 := by
        obtain ⟨k, hk⟩ := Nat.exists_eq_add_one.mpr hpos
        rw [hk, List.drop_succ_cons, Nat.add_sub_cancel]
      have hrest := ih ((b :: rest).drop (charAt b rest).2) (by
        rw [List.length_drop]
        omega)
      have hsplit := List.take_append_drop (charAt b rest).2 (b :: rest)
      rw [readBytes]
      cases hc : charAt b rest with
      | mk found length =>
        rw [hc] at hspec hdrop hrest hsplit
        cases found with
        | some c =>
          dsimp only at hspec hdrop hrest hsplit ⊢
          rw [bytes?_cons, readBytes_eq_drop, hdrop, hrest, pointBytes?, hspec]
          simp [hsplit]
        | none =>
          dsimp only at hspec hdrop hrest hsplit ⊢
          rw [bytes?_append, bytes?_map_byteSurrogate hspec, readBytes_eq_drop, hdrop, hrest]
          simp [hsplit]

theorem bytes?_canonical (s : Text) : s.canonical.bytes? = s.bytes? := by
  unfold canonical
  split
  · rfl
  · cases h : s.bytes? with
    | none => exact h
    | some bytes => exact bytes?_ofBytes bytes

@[simp] theorem canonical_canonical (s : Text) : s.canonical.canonical = s.canonical := by
  by_cases hencodable : s.canonical.isEncodable
  · exact canonical_of_isEncodable _ hencodable
  · rw [canonical, if_neg hencodable, bytes?_canonical]
    rw [canonical]
    split
    · next h =>
      rw [canonical_of_isEncodable s h] at hencodable
      exact absurd h hencodable
    · cases s.bytes? <;> rfl

theorem ascii_mem_pointBytes? {a : Char} (ha : a.val.toNat < 0x80) {c : CodePoint}
    {point : List UInt8} (h : pointBytes? c = some point) :
    UInt8.ofNat a.val.toNat ∈ point ↔ c = CodePoint.char a := by
  have hbyte (n : Nat) (hn : n < 256) :
      UInt8.ofNat a.val.toNat = UInt8.ofNat n ↔ n = a.val.toNat := by
    have htoNat {m : Nat} (hm : m < 256) : (UInt8.ofNat m).toNat = m := by
      rw [UInt8.toNat_ofNat']
      exact Nat.mod_eq_of_lt hm
    rw [← UInt8.toNat_inj, htoNat (by omega), htoNat hn]
    exact eq_comm
  cases c with
  | char c =>
    cases h
    have hchar : CodePoint.char c = CodePoint.char a ↔ c.val.toNat = a.val.toNat := by
      rw [CodePoint.char.injEq, Char.ext_iff, ← UInt32.toNat_inj]
    have hbound := c.valid
    simp only [UInt32.isValidChar, Nat.isValidChar] at hbound
    rw [hchar, String.utf8EncodeChar]
    have hne (n : Nat) (hn : 0x80 ≤ n ∧ n < 256) : UInt8.ofNat a.val.toNat ≠ UInt8.ofNat n :=
      (hbyte n hn.2).not.mpr (by omega)
    split
    · rw [List.mem_singleton, hbyte _ (by omega)]
    · refine iff_of_false ?_ (by omega)
      repeat' split
      all_goals simp only [List.mem_cons, List.not_mem_nil, or_false, not_or]
      · exact ⟨hne _ (by omega), hne _ (by omega)⟩
      · exact ⟨hne _ (by omega), hne _ (by omega), hne _ (by omega)⟩
      · exact ⟨hne _ (by omega), hne _ (by omega), hne _ (by omega), hne _ (by omega)⟩
  | surrogate index =>
    rw [pointBytes?] at h
    split at h
    · next hrange =>
      cases h
      rw [Bool.and_eq_true, decide_eq_true_eq, decide_eq_true_eq] at hrange
      change 0x480 ≤ index.val ∧ index.val ≤ 0x4FF at hrange
      rw [List.mem_singleton, hbyte _ (by omega)]
      exact iff_of_false (by omega) nofun
    · cases h

theorem slash_mem_pointBytes? {c : CodePoint} {point : List UInt8}
    (h : pointBytes? c = some point) : 0x2F ∈ point ↔ c = CodePoint.char '/' :=
  ascii_mem_pointBytes? (a := '/') (by decide) h

theorem pointBytes?_ne_nil (c : CodePoint) : pointBytes? c ≠ some [] := by
  cases c with
  | char c =>
    have hlength : 0 < (String.utf8EncodeChar c).length := by
      rw [String.length_utf8EncodeChar]
      exact c.utf8Size_pos
    intro h
    rw [Option.some.inj h] at hlength
    cases hlength
  | surrogate index =>
    rw [pointBytes?]
    split <;> nofun

theorem slash_mem_bytes? {s : Text} {bytes : List UInt8} (h : s.bytes? = some bytes) :
    0x2F ∈ bytes ↔ CodePoint.char '/' ∈ s := by
  induction s generalizing bytes with
  | nil =>
    cases h
    exact iff_of_false List.not_mem_nil List.not_mem_nil
  | cons c rest ih =>
    rw [bytes?_cons] at h
    obtain ⟨point, hpoint, h⟩ := Option.bind_eq_some_iff.mp h
    obtain ⟨bytes, hbytes, rfl⟩ := Option.map_eq_some_iff.mp h
    rw [List.mem_append, List.mem_cons, slash_mem_pointBytes? hpoint, ih hbytes, eq_comm]

theorem slash_mem_canonical {s : Text} :
    CodePoint.char '/' ∈ s.canonical ↔ CodePoint.char '/' ∈ s := by
  cases h : s.bytes? with
  | none => rw [canonical, h, Option.map_none, Option.getD_none, ite_self]
  | some bytes =>
    rw [← slash_mem_bytes? h, ← slash_mem_bytes? (s.bytes?_canonical.trans h)]

theorem eq_dots_of_bytes? {s : Text} {n : Nat}
    (h : s.bytes? = bytes? (List.replicate n (CodePoint.char '.'))) :
    s = List.replicate n (CodePoint.char '.') := by
  have hdots (n : Nat) :
      bytes? (List.replicate n (CodePoint.char '.')) = some (List.replicate n 0x2E) := by
    induction n with
    | zero => rfl
    | succ n ih =>
      rw [List.replicate_succ, bytes?_cons, ih]
      rfl
  rw [hdots] at h
  induction s generalizing n with
  | nil =>
    cases n with
    | zero => rfl
    | succ n => cases h
  | cons c rest ih =>
    rw [bytes?_cons] at h
    obtain ⟨point, hpoint, h⟩ := Option.bind_eq_some_iff.mp h
    obtain ⟨bytes, hbytes, happend⟩ := Option.map_eq_some_iff.mp h
    obtain ⟨b, point, rfl⟩ :=
      List.exists_cons_of_ne_nil fun hnil => pointBytes?_ne_nil c (hnil ▸ hpoint)
    have hb : b = 0x2E :=
      List.eq_of_mem_replicate (happend ▸ List.mem_append_left bytes List.mem_cons_self)
    have hc : c = CodePoint.char '.' :=
      (ascii_mem_pointBytes? (a := '.') (by decide) hpoint).mp (hb ▸ List.mem_cons_self)
    subst hc
    cases hpoint
    cases n with
    | zero => cases happend
    | succ n =>
      rw [List.replicate_succ] at happend ⊢
      rw [ih (hbytes.trans (congrArg some (List.cons.inj happend).2))]

theorem canonical_eq_dots {s : Text} {n : Nat} :
    s.canonical = List.replicate n (CodePoint.char '.') ↔
      s = List.replicate n (CodePoint.char '.') := by
  constructor
  · intro h
    exact eq_dots_of_bytes? (s.bytes?_canonical.symm.trans (congrArg bytes? h))
  · rintro rfl
    refine canonical_of_isEncodable _ (List.all_eq_true.mpr fun c hc => ?_)
    rw [List.eq_of_mem_replicate hc]
    rfl

theorem canonical_eq_nil {s : Text} : s.canonical = [] ↔ s = [] :=
  canonical_eq_dots (n := 0)

theorem chars?_eq_some {s : Text} {cs : List Char} : s.chars? = some cs ↔ s = ofChars cs := by
  refine ⟨fun h => ?_, fun h => h ▸ chars?_ofChars cs⟩
  unfold chars? at h
  induction s generalizing cs with
  | nil => cases h; rfl
  | cons c rest ih =>
    rw [List.mapM_cons] at h
    obtain ⟨first, hfirst, h⟩ := Option.bind_eq_some_iff.mp h
    obtain ⟨others, hothers, h⟩ := Option.bind_eq_some_iff.mp h
    cases h
    cases c with
    | char c =>
      cases hfirst
      exact congrArg (_ :: ·) (ih hothers)
    | surrogate index => cases hfirst

theorem toString?_eq_some {s : Text} {content : String} (h : s.toString? = some content) :
    s = ofString content := by
  obtain ⟨cs, hcs, rfl⟩ := Option.map_eq_some_iff.mp h
  rw [ofString, String.toList_ofList]
  exact chars?_eq_some.mp hcs

theorem isEncodable_of_toString? {s : Text} {content : String} (h : s.toString? = some content) :
    s.isEncodable = true := by
  rw [toString?_eq_some h, isEncodable, List.all_eq_true]
  intro c hc
  obtain ⟨char, -, rfl⟩ := List.mem_map.mp hc
  rfl

theorem exists_toString? {s : Text} (h : s.isEncodable = true) :
    ∃ content, s.toString? = some content := by
  have hchars : ∃ cs, s.chars? = some cs := by
    induction s with
    | nil => exact ⟨[], rfl⟩
    | cons c rest ih =>
      obtain ⟨hc, hrest⟩ := Bool.and_eq_true_iff.mp h
      obtain ⟨char, hchar⟩ := Option.isSome_iff_exists.mp hc
      obtain ⟨cs, hcs⟩ := ih hrest
      unfold chars? at hcs ⊢
      rw [List.mapM_cons, hchar, hcs]
      exact ⟨char :: cs, rfl⟩
  obtain ⟨cs, hcs⟩ := hchars
  exact ⟨String.ofList cs, by rw [toString?, hcs]; rfl⟩

theorem isEncodable_of_subset {s t : Text} (hsub : s ⊆ t) (h : t.isEncodable = true) :
    s.isEncodable = true :=
  List.all_eq_true.mpr fun c hc => List.all_eq_true.mp h c (hsub hc)

end RouterLayer.Text
