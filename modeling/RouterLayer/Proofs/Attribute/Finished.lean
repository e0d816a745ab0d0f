import RouterLayer.Proofs.Attribute.Hiding

/-!
Finished text: text that is empty or closes a parenthesis at its end. An attribute goes no further
than the first parenthesis that closes it, so none begins in finished text and ends behind it, and
the attributes of finished text and of what follows can be read apart (`attributes_append`).
-/

set_option autoImplicit false

namespace RouterLayer

namespace Attribute

def Finished (s : Text) : Prop := s = [] ∨ s.getLast? = some (.char ')')

variable {name inner p s : Text}

theorem Finished.of_suffix {front : Text} (h : Finished s) (hsuffix : front <:+ s) :
    Finished front := by
  obtain ⟨before, rfl⟩ := hsuffix
  by_cases hfront : front = []
  · exact .inl hfront
  · rcases h with h | h
    · exact absurd (List.append_eq_nil_iff.mp h).2 hfront
    · rw [List.getLast?_append_of_ne_nil _ hfront] at h
      exact .inr h

/-- The parenthesis at the end of an attribute is the only one that closes anything in it. -/
theorem eq_written_of_prefix {front part : Text} (h : Proper name inner)
    (hfront : front.getLast? = some (.char ')')) (heq : written name inner = front ++ part) :
    part = [] := by
  by_contra hpart
  have hlast : written name inner = (opening name ++ inner) ++ [.char ')'] :=
    (List.append_assoc ..).symm
  have hbody : front ++ part.dropLast = opening name ++ inner := by
    rw [← List.dropLast_append_of_ne_nil hpart, ← heq, hlast, List.dropLast_concat]
  have hclose : CodePoint.char ')' ∈ opening name ++ inner := by
    rw [← hbody]
    exact List.mem_append_left _ (List.mem_of_getLast? hfront)
  rcases List.mem_append.mp hclose with hclose | hclose
  · exact close_not_mem_opening h.letters hclose
  · exact h.unclosed hclose

theorem Finished.begins {front tail : Text} (h : Finished front) (hne : front ≠ [])
    (hbegins : Begins (front ++ tail)) : Begins front := by
  obtain ⟨name, inner, rest, hproper, heq⟩ := hbegins
  rcases List.append_eq_append_iff.mp heq with ⟨part, hpart, -⟩ | ⟨part, hpart, -⟩
  · have hnil := eq_written_of_prefix hproper (h.resolve_left hne) hpart
    exact ⟨name, inner, [], hproper, by rw [hpart, hnil, List.append_nil, List.append_nil]⟩
  · exact ⟨name, inner, part, hproper, hpart⟩

theorem Finished.scans_append {found found' : List (Text × Text)} (hp : Finished p)
    (h : Scans p found) (h' : Scans s found') : Scans (p ++ s) (found ++ found') :=
  h.append_of_apart h' fun _ hne hsuffix => (hp.of_suffix hsuffix).begins hne

theorem Finished.readAll_append (hp : Finished p) (s : Text) :
    readAll (p ++ s) = readAll p ++ readAll s := by
  obtain ⟨found, hfound⟩ := exists_scans p
  obtain ⟨found', hfound'⟩ := exists_scans s
  rw [readAll_of_scans (hp.scans_append hfound hfound'), readAll_of_scans hfound,
    readAll_of_scans hfound', List.map_append]

end Attribute

open Attribute

namespace Model

/-- Finished text and what follows it have the attributes of either, one after the other, and hide a
model together just when one of them does. -/
theorem attributes_append {p : Text} (hp : Finished p) (s : Text) (first second whole : Model) :
    (∃ earlier later, (first.documented p).attributes = .ok earlier ∧
      (second.documented s).attributes = .ok later ∧
      (whole.documented (p ++ s)).attributes = .ok (earlier ++ later)) ∧
    ∃ earlier later, (first.documented p).isHidden = .ok earlier ∧
      (second.documented s).isHidden = .ok later ∧
      (whole.documented (p ++ s)).isHidden = .ok (earlier || later) := by
  have hwhole : (whole.documented (p ++ s)).attributes = .ok (readAll p ++ readAll s) := by
    rw [attributes_documented, hp.readAll_append]
  refine ⟨⟨_, _, attributes_documented first p, attributes_documented second s, hwhole⟩,
    (readAll p).any (·.hides), (readAll s).any (·.hides), ?_, ?_, ?_⟩
  · rw [isHidden, attributes_documented, Except.map]
  · rw [isHidden, attributes_documented, Except.map]
  · rw [isHidden, hwhole, Except.map, List.any_append]

/-- An attribute that has taken in a marker ends with it, and a marker that follows is read as one.
-/
theorem attributes_append_nested :
    Finished "@@Gen.field(@@Gen.model(hide: true)" ∧
    ((⟨.str "User", [], .null⟩ : Model).documented
      ("@@Gen.field(@@Gen.model(hide: true)" ++ ") @@Gen.model(hide: true)")).isHidden =
      .ok true := by
  have hfinished : Finished "@@Gen.field(@@Gen.model(hide: true)" := .inr (by decide)
  refine ⟨hfinished, ?_⟩
  obtain ⟨-, earlier, later, hearlier, hlater, hwhole⟩ :=
    attributes_append hfinished ") @@Gen.model(hide: true)" ⟨.str "User", [], .null⟩
      ⟨.str "User", [], .null⟩ ⟨.str "User", [], .null⟩
  have hshown : earlier = false := (Except.ok.inj hearlier).symm
  have hhidden : later = true := (Except.ok.inj hlater).symm
  rw [hwhole, hshown, hhidden]
  rfl

end Model

end RouterLayer
