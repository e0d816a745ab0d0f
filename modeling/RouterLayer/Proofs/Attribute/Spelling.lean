import RouterLayer.Proofs.Attribute.Finished
import RouterLayer.Proofs.Text.Case

set_option autoImplicit false

namespace RouterLayer

namespace Attribute

/-- An argument with the blanks that are written in front of its key and around its colon. Its value
can hold anything that ends neither the argument nor the attribute. -/
structure Argument where
  key : Text
  value : Text
  quoted : Bool
  lead : Text
  before : Text
  after : Text
  key_ne_nil : key ≠ []
  letters : ∀ c ∈ key, c.isLetter = true
  value_ne_nil : value ≠ []
  trimmed : Text.Trimmed (fun c => Text.isBlank c || isQuote c) value
  comma_not_mem : CodePoint.char ',' ∉ value
  close_not_mem : CodePoint.char ')' ∉ value
  lead_blank : ∀ c ∈ lead, Text.isBlank c = true
  before_blank : ∀ c ∈ before, Text.isBlank c = true
  after_blank : ∀ c ∈ after, Text.isBlank c = true

namespace Argument

def shown (a : Argument) : Text :=
  if a.quoted then .char '"' :: (a.value ++ [.char '"']) else a.value

def spelling (a : Argument) : Text :=
  a.lead ++ (a.key ++ (a.before ++ .char ':' :: (a.after ++ a.shown)))

/-- The words for the truth values count in upper and lower case. -/
def meaning (a : Argument) : ArgumentValue :=
  if Text.asciiLower a.value = "true" then .bool true
  else if Text.asciiLower a.value = "false" then .bool false
  else .text a.value

variable (a : Argument)

theorem shown_ne_nil : a.shown ≠ [] := by
  unfold shown
  split
  · exact List.cons_ne_nil _ _
  · exact a.value_ne_nil

theorem trimmed_shown : Text.Trimmed Text.isBlank a.shown := by
  unfold shown
  split
  · refine ⟨fun c hc => ?_, fun c hc => ?_⟩
    · cases hc
      decide
    · rw [← List.cons_append, List.getLast?_concat] at hc
      cases hc
      decide
  · exact a.trimmed.mono fun c hc => (Bool.or_eq_false_iff.mp hc).1

theorem trim_shown : Text.trim isQuote a.shown = a.value := by
  have hvalue : Text.Trimmed isQuote a.value :=
    a.trimmed.mono fun c hc => (Bool.or_eq_false_iff.mp hc).2
  have hquote : ∀ c ∈ [CodePoint.char '"'], isQuote c = true := by decide
  unfold shown
  split
  · exact Text.trim_padded hvalue hquote hquote
  · have hbare : Text.trim isQuote ([] ++ (a.value ++ [])) = a.value :=
      Text.trim_padded hvalue nofun nofun
    rwa [List.nil_append, List.append_nil] at hbare

theorem strip_value : Text.strip (a.after ++ a.shown) = a.shown := by
  have hpadded : Text.strip (a.after ++ (a.shown ++ [])) = a.shown :=
    Text.trim_padded a.trimmed_shown a.after_blank nofun
  rwa [List.append_nil] at hpadded

theorem readValue_spelling : readValue (a.after ++ a.shown) = a.meaning := by
  have htrue : ∀ d ∈ ("true" : Text), d.code < 128 ∧ d ≠ .char 'k' := by decide
  have hfalse : ∀ d ∈ ("false" : Text), d.code < 128 ∧ d ≠ .char 'k' := by decide
  unfold readValue meaning
  simp only [a.strip_value, a.trim_shown, Text.lower_eq_iff htrue, Text.lower_eq_iff hfalse]

theorem strip_front : Text.strip (a.lead ++ (a.key ++ a.before)) = a.key := by
  refine Text.trim_padded (Text.trimmed_of_forall fun c hc => ?_) a.lead_blank a.before_blank
  rw [← Bool.not_eq_true]
  intro hblank
  have hletter := a.letters c hc
  rw [Text.not_isLetter_of_isBlank hblank] at hletter
  cases hletter

theorem not_mem_front {c : CodePoint} (hletter : c.isLetter = false)
    (hblank : Text.isBlank c = false) : c ∉ a.lead ++ (a.key ++ a.before) := by
  simp only [List.mem_append, not_or]
  refine ⟨fun hc => ?_, fun hc => ?_, fun hc => ?_⟩
  · rw [a.lead_blank c hc] at hblank
    cases hblank
  · rw [a.letters c hc] at hletter
    cases hletter
  · rw [a.before_blank c hc] at hblank
    cases hblank

theorem spelling_eq :
    a.spelling = a.lead ++ (a.key ++ a.before) ++ .char ':' :: (a.after ++ a.shown) := by
  simp only [spelling, List.append_assoc]

theorem not_mem_spelling {c : CodePoint} (hletter : c.isLetter = false)
    (hblank : Text.isBlank c = false) (hcolon : c ≠ .char ':') (hquote : c ≠ .char '"')
    (hvalue : c ∉ a.value) : c ∉ a.spelling := by
  have hshown : c ∉ a.shown := by
    unfold shown
    split
    · simp [hquote, hvalue]
    · exact hvalue
  have hafter : c ∉ a.after := fun hc => by
    rw [a.after_blank c hc] at hblank
    cases hblank
  have hvalues : c ∉ a.after ++ a.shown := fun hc =>
    (List.mem_append.mp hc).elim hafter hshown
  intro hc
  rw [spelling_eq] at hc
  rcases List.mem_append.mp hc with hc | hc
  · exact a.not_mem_front hletter hblank hc
  · exact (List.mem_cons.mp hc).elim hcolon hvalues

theorem reads_spelling : Reads a.spelling a.key (a.after ++ a.shown) := by
  refine ⟨a.key_ne_nil, List.append_ne_nil_of_right_ne_nil _ a.shown_ne_nil,
    a.lead ++ (a.key ++ a.before), a.spelling_eq, ?_, fun earlier between hbetween => ?_⟩
  · rw [keyBefore_of_strip (by rw [a.strip_front]; exact a.letters), a.strip_front]
  · -- there is no colon in front of the key's own
    have hcolon : CodePoint.char ':' ∉ a.lead ++ (a.key ++ a.before) :=
      a.not_mem_front (by decide) (by decide)
    rw [hbetween] at hcolon
    exact absurd (List.mem_append_right _ List.mem_cons_self) hcolon

theorem argumentsFrom_spelling : argumentsFrom 0 a.spelling = [(a.key, a.meaning)] := by
  have hcomma : CodePoint.char ',' ∉ a.spelling :=
    a.not_mem_spelling (by decide) (by decide) (by decide) (by decide) a.comma_not_mem
  rcases arguments_of_part hcomma with ⟨key, value, hreads, hfound⟩ | ⟨hnone, -⟩
  · obtain ⟨rfl, rfl⟩ := hreads.unique a.reads_spelling
    rw [hfound, a.readValue_spelling]
  · exact absurd a.reads_spelling (hnone _ _)

end Argument

def spell (arguments : List Argument) : Text := Text.joinWith ',' (arguments.map (·.spelling))

def meanings (arguments : List Argument) : OrderedMap ArgumentValue :=
  arguments.map fun a => (a.key, a.meaning)

variable {name : Text} {arguments : List Argument}

theorem argumentsFrom_spell : argumentsFrom 0 (spell arguments) = meanings arguments := by
  cases arguments with
  | nil => rfl
  | cons a rest =>
    have hcomma : ∀ part ∈ (a :: rest).map (·.spelling), CodePoint.char ',' ∉ part := by
      refine List.forall_mem_map.mpr fun b _ => ?_
      exact b.not_mem_spelling (by decide) (by decide) (by decide) (by decide) b.comma_not_mem
    rw [argumentsFrom_eq_flatMap, spell, Text.splitAll_joinWith (by simp) hcomma, List.flatMap_map]
    simp only [Argument.argumentsFrom_spelling]
    rw [← List.map_eq_flatMap]
    rfl

theorem close_not_mem_spell : CodePoint.char ')' ∉ spell arguments := by
  intro hclose
  rcases Text.mem_joinWith hclose with hcomma | ⟨part, hpart, hclose⟩
  · exact absurd hcomma (by decide)
  · obtain ⟨a, -, rfl⟩ := List.mem_map.mp hpart
    refine a.not_mem_spelling ?_ ?_ ?_ ?_ a.close_not_mem hclose <;> decide

theorem ofPair_spell (hkeys : (arguments.map (·.key)).Nodup) :
    ofPair (name, spell arguments) = ⟨name, meanings arguments⟩ := by
  have hnodup : (OrderedMap.keys (meanings arguments)).Nodup := by
    rwa [OrderedMap.keys, meanings, List.map_map]
  have hentries : OrderedMap.ofEntries (meanings arguments) = meanings arguments :=
    OrderedMap.merge_of_nodup hnodup
  rw [ofPair, argumentsFrom_spell, hentries]

end Attribute

open Attribute

namespace Model

/-- An attribute that is written into the documentation of a model is read as it was written. -/
theorem attributes_spelled (m : Model) {name : Text} (hname : name ≠ [])
    (hletters : ∀ c ∈ name, c.isLetter = true) {arguments : List Argument}
    (hkeys : (arguments.map (·.key)).Nodup) :
    (m.documented (written name (spell arguments))).attributes =
      .ok [⟨name, meanings arguments⟩] := by
  have hproper : Proper name (spell arguments) := ⟨hname, hletters, close_not_mem_spell⟩
  have hread := readAll_written hproper []
  rw [List.append_nil, ofPair_spell hkeys] at hread
  rw [attributes_documented, hread]
  rfl

/-- A value with a colon and an attribute of its own in it, and a truth value in capitals. -/
theorem attributes_spelled_nested :
    ((⟨.str "User", [], .null⟩ : Model).documented
      "@@Gen.model(label : \"see: @@Gen.field(hide: true\",  hide:TRUE)").attributes =
      .ok [⟨"model", [("label", .text "see: @@Gen.field(hide: true"), ("hide", .bool true)]⟩] := by
  let label : Argument := {
    key := "label", value := "see: @@Gen.field(hide: true", quoted := true
    lead := [], before := " ", after := " "
    key_ne_nil := by decide, letters := by decide, value_ne_nil := by decide
    trimmed := ⟨by decide, by decide⟩, comma_not_mem := by decide, close_not_mem := by decide
    lead_blank := by decide, before_blank := by decide, after_blank := by decide }
  let hide : Argument := {
    key := "hide", value := "TRUE", quoted := false, lead := "  ", before := [], after := []
    key_ne_nil := by decide, letters := by decide, value_ne_nil := by decide
    trimmed := ⟨by decide, by decide⟩, comma_not_mem := by decide, close_not_mem := by decide
    lead_blank := by decide, before_blank := by decide, after_blank := by decide }
  have hname : ("model" : Text) ≠ [] := by decide
  have hletters : ∀ c ∈ ("model" : Text), c.isLetter = true := by decide
  have hkeys : ([label, hide].map (·.key)).Nodup := by decide
  exact attributes_spelled ⟨.str "User", [], .null⟩ hname hletters hkeys

end Model

end RouterLayer
