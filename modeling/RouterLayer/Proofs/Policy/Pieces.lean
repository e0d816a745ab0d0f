import Mathlib.Data.List.Forall2
import RouterLayer.Policy
import RouterLayer.Proofs.Json.Literal
import RouterLayer.Proofs.Text.Replace
import RouterLayer.SourceFile.Render

set_option autoImplicit false

namespace RouterLayer

inductive Piece
  | layout (s : Text)
  | key (name : Text)
  | rule
  deriving DecidableEq, Repr

def Piece.text (word : Text) : Piece → Text
  | .layout s => s
  | .key name => Json.stringLiteral name ++ ": "
  | .rule => word

def piecesText (word : Text) (pieces : List Piece) : Text := pieces.flatMap (·.text word)

section Object

open Json (newLine indented indentedMembers)

def memberPieces (level : Nat) : List (Text × List Piece) → List Piece
  | [] => []
  | (key, value) :: members =>
    .layout ("," ++ newLine level) :: .key key :: value ++ memberPieces level members

def objectPieces (level : Nat) : List (Text × List Piece) → List Piece
  | [] => [.layout "\x7b\x7d"]
  | (key, value) :: members =>
    .layout ("\x7b" ++ newLine (level + 1)) :: .key key :: value ++
      memberPieces (level + 1) members ++ [.layout (newLine level ++ "\x7d")]

variable {word : Text} {level : Nat} {members : List (Text × Json)}
  {parts : List (Text × List Piece)}

@[simp] theorem piecesText_nil (word : Text) : piecesText word [] = [] := rfl

@[simp] theorem piecesText_cons (word : Text) (piece : Piece) (pieces : List Piece) :
    piecesText word (piece :: pieces) = piece.text word ++ piecesText word pieces := rfl

@[simp] theorem piecesText_append (word : Text) (pieces pieces' : List Piece) :
    piecesText word (pieces ++ pieces') = piecesText word pieces ++ piecesText word pieces' :=
  List.flatMap_append

def PartsOf (word : Text) (level : Nat) : List (Text × Json) → List (Text × List Piece) → Prop :=
  List.Forall₂ fun m part => part.1 = m.1 ∧ piecesText word part.2 = indented level m.2

theorem piecesText_memberPieces (h : PartsOf word level members parts) :
    piecesText word (memberPieces level parts) = indentedMembers level members := by
  induction h with
  | nil => rfl
  | @cons m part members parts hpart _ ih =>
    obtain ⟨hkey, hvalue⟩ := hpart
    simp [memberPieces, indentedMembers, Piece.text, hkey, hvalue, ih]

theorem piecesText_objectPieces (h : PartsOf word (level + 1) members parts) :
    piecesText word (objectPieces level parts) = indented level (.object members) := by
  cases h with
  | nil => rfl
  | @cons m part members parts hpart hrest =>
    obtain ⟨hkey, hvalue⟩ := hpart
    simp [objectPieces, indented, Piece.text, hkey, hvalue, piecesText_memberPieces hrest]

end Object

def quotedAllow : Text := .char '"' :: (Policy.allow ++ [.char '"'])

theorem allow_eq : Policy.allow = .char 'a' :: ("llow" : Text) := rfl

theorem quotedAllow_prefix_iff {t : Text} : quotedAllow <+: .char '"' :: t ↔
    Policy.allow ++ [.char '"'] <+: t := List.prefix_cons_inj _

/-- No piece but a rule can be taken for one. -/
def Piece.Plain : Piece → Prop
  | .layout s => CodePoint.char '"' ∉ s ∧ CodePoint.char 'a' ∉ s
  | .key name => CodePoint.char '"' ∉ name ∧ name.flatMap Json.stringPoint ≠ Policy.allow
  | .rule => True

variable {pieces : List Piece} {name s t : Text}

section Plain

variable {level : Nat} {parts : List (Text × List Piece)}

def PlainParts (parts : List (Text × List Piece)) : Prop :=
  ∀ part ∈ parts, (Piece.key part.1).Plain ∧ ∀ piece ∈ part.2, piece.Plain

theorem plain_layout (h : CodePoint.char '"' ∉ s ∧ CodePoint.char 'a' ∉ s) (level : Nat) :
    (Piece.layout (s ++ Json.newLine level)).Plain ∧
      (Piece.layout (Json.newLine level ++ s)).Plain := by
  simp [Piece.Plain, Json.newLine, h]

theorem plain_memberPieces (h : PlainParts parts) :
    ∀ piece ∈ memberPieces level parts, piece.Plain := by
  induction parts with
  | nil => nofun
  | cons part parts ih =>
    obtain ⟨⟨hkey, hvalue⟩, hparts⟩ := List.forall_mem_cons.mp h
    simp only [memberPieces, List.cons_append, List.forall_mem_cons, List.forall_mem_append]
    exact ⟨(plain_layout (by decide) level).1, hkey, hvalue, ih hparts⟩

theorem plain_objectPieces (h : PlainParts parts) :
    ∀ piece ∈ objectPieces level parts, piece.Plain := by
  cases parts with
  | nil => exact List.forall_mem_singleton.mpr ⟨by decide, by decide⟩
  | cons part parts =>
    obtain ⟨⟨hkey, hvalue⟩, hparts⟩ := List.forall_mem_cons.mp h
    simp only [objectPieces, List.cons_append, List.append_assoc, List.forall_mem_cons,
      List.forall_mem_append]
    exact ⟨(plain_layout (by decide) (level + 1)).1, hkey, hvalue, plain_memberPieces hparts,
      (plain_layout (by decide) level).2, nofun⟩

theorem count_objectPieces (level : Nat) (parts : List (Text × List Piece)) :
    (objectPieces level parts).count .rule = (parts.flatMap (·.2)).count .rule := by
  have hmembers (level : Nat) (parts : List (Text × List Piece)) :
      (memberPieces level parts).count .rule = (parts.flatMap (·.2)).count .rule := by
    induction parts with
    | nil => rfl
    | cons part parts ih => simp [memberPieces, ih]
  cases parts with
  | nil => rfl
  | cons part parts => simp [objectPieces, hmembers]

end Plain

section Escape

theorem quote_not_mem_hexDigits (width n : Nat) :
    CodePoint.char '"' ∉ Text.hexDigits width n ∧ CodePoint.char '\\' ∉ Text.hexDigits width n := by
  have hdigit : ∀ k < 16, Text.hexDigit k ≠ .char '"' ∧ Text.hexDigit k ≠ .char '\\' := by decide
  induction width generalizing n with
  | zero => exact ⟨List.not_mem_nil, List.not_mem_nil⟩
  | succ width ih =>
    have hlast := hdigit (n % 16) (Nat.mod_lt n (by decide))
    simp [Text.hexDigits, ih (n / 16), Ne.symm hlast.1, Ne.symm hlast.2]

theorem quote_not_mem_stringPoint {c : CodePoint} (h : c ≠ .char '"') :
    CodePoint.char '"' ∉ Json.stringPoint c := by
  have hdigits (n : Nat) := (quote_not_mem_hexDigits 4 n).1
  unfold Json.stringPoint Json.codeEscape
  split_ifs <;> simp_all [Text.ofString, Text.ofChars, Ne.symm h]

theorem quote_not_mem_flatMap (h : CodePoint.char '"' ∉ name) :
    CodePoint.char '"' ∉ name.flatMap Json.stringPoint := by
  intro hmem
  obtain ⟨c, hc, hpoint⟩ := List.mem_flatMap.mp hmem
  exact quote_not_mem_stringPoint (fun heq => h (heq ▸ hc)) hpoint

end Escape

section Replace

open Text (Apart)

theorem eq_of_append_quote {a b : Text} (ha : CodePoint.char '"' ∉ a)
    (hb : CodePoint.char '"' ∉ b) (h : a ++ .char '"' :: s = b ++ .char '"' :: t) : a = b := by
  induction a generalizing b with
  | nil =>
    cases b with
    | nil => rfl
    | cons c b =>
      obtain ⟨rfl, -⟩ := List.cons.inj h
      exact absurd List.mem_cons_self hb
  | cons c a ih =>
    simp only [List.mem_cons, not_or] at ha
    cases b with
    | nil =>
      obtain ⟨rfl, -⟩ := List.cons.inj h
      exact absurd rfl ha.1
    | cons d b =>
      obtain ⟨rfl, htail⟩ := List.cons.inj h
      simp only [List.mem_cons, not_or] at hb
      rw [ih ha.2 hb.2 htail]

/-- Neither a quote of a key nor anything between its quotes begins a rule, also when the key ends
in the name of the rule. -/
theorem apart_key (h : (Piece.key name).Plain) (word t : Text) :
    Apart quotedAllow ((Piece.key name).text word) t := by
  obtain ⟨hname, hne⟩ := h
  have hquote := quote_not_mem_flatMap hname
  have htext : (Piece.key name).text word = .char '"' ::
      (name.flatMap Json.stringPoint ++ .char '"' :: .char ':' :: [.char ' ']) := by
    simp [Piece.text, Json.stringLiteral, Text.ofString, Text.ofChars]
  rw [htext, Text.apart_cons, quotedAllow_prefix_iff]
  constructor
  · rintro ⟨rest, hrest⟩
    refine hne (eq_of_append_quote (s := .char ':' :: .char ' ' :: t) (t := rest) hquote
      (by decide) ?_)
    simpa using hrest.symm
  · have hinner (t : Text) : Apart quotedAllow (name.flatMap Json.stringPoint) t :=
      Text.apart_of_not_mem hquote
    refine (hinner _).append ?_
    rw [Text.apart_cons, quotedAllow_prefix_iff, allow_eq]
    exact ⟨by simp, Text.apart_of_not_mem (by decide)⟩

theorem replaceAll_pieces (h : ∀ piece ∈ pieces, piece.Plain) :
    Text.replaceAll quotedAllow Policy.allow (piecesText quotedAllow pieces) =
      piecesText Policy.allow pieces := by
  induction pieces with
  | nil => rfl
  | cons piece pieces ih =>
    obtain ⟨hpiece, hpieces⟩ := List.forall_mem_cons.mp h
    rw [piecesText_cons, piecesText_cons, ← ih hpieces]
    cases piece with
    | layout s => exact Text.replaceAll_apart (Text.apart_of_not_mem hpiece.1)
    | key name => exact Text.replaceAll_apart (apart_key hpiece _ _)
    | rule => exact Text.replaceAll_self _

theorem head_piecesText (h : ∀ piece ∈ pieces, piece.Plain) :
    (piecesText quotedAllow pieces).head? ≠ some (.char 'a') := by
  induction pieces with
  | nil => nofun
  | cons piece pieces ih =>
    obtain ⟨hpiece, hpieces⟩ := List.forall_mem_cons.mp h
    cases piece with
    | layout s =>
      cases s with
      | nil => exact ih hpieces
      | cons c s => exact fun hc => hpiece.2 (Option.some.inj hc ▸ List.mem_cons_self)
    | key name => nofun
    | rule => nofun

theorem occurrences_pieces (h : ∀ piece ∈ pieces, piece.Plain) :
    Text.occurrences quotedAllow (piecesText quotedAllow pieces) = pieces.count .rule := by
  induction pieces with
  | nil => rfl
  | cons piece pieces ih =>
    obtain ⟨hpiece, hpieces⟩ := List.forall_mem_cons.mp h
    rw [piecesText_cons, List.count_cons, ← ih hpieces]
    cases piece with
    | layout s => exact Text.occurrences_apart (Text.apart_of_not_mem hpiece.1)
    | key name => exact Text.occurrences_apart (apart_key hpiece _ _)
    | rule =>
      refine Text.occurrences_self ((Text.apart_of_not_mem (by decide)).append ?_)
      refine Text.apart_cons.mpr ⟨fun hclose => head_piecesText hpieces ?_, trivial⟩
      obtain ⟨rest, hrest⟩ := quotedAllow_prefix_iff.mp hclose
      have hhead := congrArg List.head? hrest
      rw [allow_eq] at hhead
      exact hhead.symm

end Replace

section Quote

/-- Where a scan stands: in code, with some code points of a word that was quoted already to come;
in a string; or behind the sign in a string that takes its meaning from the next one. -/
inductive Scan
  | code (skip : Nat)
  | string
  | escape

def quoteRulesFrom : Scan → Text → Text
  | _, [] => []
  | .code (skip + 1), _ :: cs => quoteRulesFrom (.code skip) cs
  | .code 0, c :: cs =>
    if c = '"' then c :: quoteRulesFrom .string cs
    else if Policy.allow.isPrefixOf (c :: cs) then
      quotedAllow ++ quoteRulesFrom (.code (Policy.allow.length - 1)) cs
    else c :: quoteRulesFrom (.code 0) cs
  | .string, c :: cs =>
    c :: quoteRulesFrom (if c = '"' then .code 0 else if c = '\\' then .escape else .string) cs
  | .escape, c :: cs => c :: quoteRulesFrom .string cs

/-- Puts quotes around the rules that stand outside of strings. -/
def quoteRules (s : Text) : Text := quoteRulesFrom (.code 0) s

theorem quoteRulesFrom_skip (s t : Text) :
    quoteRulesFrom (.code s.length) (s ++ t) = quoteRulesFrom (.code 0) t := by
  induction s with
  | nil => rfl
  | cons c s ih => exact ih

def StaysInString (s : Text) : Prop :=
  ∀ t, quoteRulesFrom .string (s ++ t) = s ++ quoteRulesFrom .string t

theorem StaysInString.append (hs : StaysInString s) (ht : StaysInString t) :
    StaysInString (s ++ t) := fun rest => by
  rw [List.append_assoc, hs, ht, List.append_assoc]

theorem staysInString_of_not_mem (hquote : CodePoint.char '"' ∉ s)
    (hescape : CodePoint.char '\\' ∉ s) : StaysInString s := by
  induction s with
  | nil => exact fun _ => rfl
  | cons c s ih =>
    simp only [List.mem_cons, not_or] at hquote hescape
    intro t
    rw [List.cons_append, quoteRulesFrom, if_neg (Ne.symm hquote.1), if_neg (Ne.symm hescape.1),
      ih hquote.2 hescape.2, List.cons_append]

theorem staysInString_escape (c : CodePoint) : StaysInString [.char '\\', c] := fun _ => rfl

theorem staysInString_unit (n : Nat) : StaysInString ("\\u" ++ Text.hexDigits 4 n) :=
  (staysInString_escape (.char 'u')).append
    (staysInString_of_not_mem (quote_not_mem_hexDigits 4 n).1 (quote_not_mem_hexDigits 4 n).2)

theorem staysInString_stringPoint (c : CodePoint) : StaysInString (Json.stringPoint c) := by
  unfold Json.stringPoint
  iterate 7
    split
    · exact staysInString_escape _
  split
  · next hquote hescape _ _ _ _ _ _ =>
    exact staysInString_of_not_mem (by simpa using Ne.symm hquote) (by simpa using Ne.symm hescape)
  · unfold Json.codeEscape
    split
    · exact staysInString_unit _
    · have hpair := (staysInString_unit (0xD800 + (c.code - 0x10000) / 0x400)).append
        (staysInString_unit (0xDC00 + (c.code - 0x10000) % 0x400))
      rwa [← List.append_assoc] at hpair

/-- A key is a string of its own, whatever is in its name. -/
theorem quoteRules_key (name word t : Text) :
    quoteRules ((Piece.key name).text word ++ t) =
      (Piece.key name).text word ++ quoteRules t := by
  have hstays : StaysInString (name.flatMap Json.stringPoint) := by
    induction name with
    | nil => exact fun _ => rfl
    | cons c name ih => exact (staysInString_stringPoint c).append ih
  have htext (t : Text) : (Piece.key name).text word ++ t = .char '"' ::
      (name.flatMap Json.stringPoint ++ .char '"' :: .char ':' :: .char ' ' :: t) := by
    simp [Piece.text, Json.stringLiteral, Text.ofString, Text.ofChars]
  rw [htext, htext, quoteRules, quoteRulesFrom, if_pos rfl, hstays]
  rfl

theorem quoteRules_layout {s : Text} (h : (Piece.layout s).Plain) (t : Text) :
    quoteRules (s ++ t) = s ++ quoteRules t := by
  obtain ⟨hquote, hrule⟩ := h
  unfold quoteRules
  induction s with
  | nil => rfl
  | cons c s ih =>
    simp only [List.mem_cons, not_or] at hquote hrule
    have hallow : ¬Policy.allow.isPrefixOf (c :: (s ++ t)) = true := by
      rw [allow_eq]
      simp [hrule.1]
    rw [List.cons_append, quoteRulesFrom, if_neg (Ne.symm hquote.1), if_neg hallow,
      ih hquote.2 hrule.2, List.cons_append]

theorem quoteRules_allow (t : Text) :
    quoteRules (Policy.allow ++ t) = quotedAllow ++ quoteRules t := by
  have htext : Policy.allow ++ t = .char 'a' :: (("llow" : Text) ++ t) := rfl
  have hprefix : Policy.allow.isPrefixOf (.char 'a' :: (("llow" : Text) ++ t)) = true :=
    List.isPrefixOf_iff_prefix.mpr (List.prefix_append Policy.allow t)
  rw [htext, quoteRules, quoteRulesFrom, if_neg (by decide), if_pos hprefix]
  exact congrArg (quotedAllow ++ ·) (quoteRulesFrom_skip "llow" t)

theorem quoteRules_pieces (h : ∀ piece ∈ pieces, piece.Plain) :
    quoteRules (piecesText Policy.allow pieces) = piecesText quotedAllow pieces := by
  induction pieces with
  | nil => rfl
  | cons piece pieces ih =>
    obtain ⟨hpiece, hpieces⟩ := List.forall_mem_cons.mp h
    rw [piecesText_cons, piecesText_cons, ← ih hpieces]
    cases piece with
    | layout s => exact quoteRules_layout hpiece _
    | key name => exact quoteRules_key name _ _
    | rule => exact quoteRules_allow _

end Quote

end RouterLayer
