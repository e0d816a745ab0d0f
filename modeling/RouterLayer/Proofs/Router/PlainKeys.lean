import RouterLayer.Proofs.Router.Keys

/-!
Keys that do not show the name of the model. It is taken out of the client's name for an operation
where it occurs first, and that may be before the place where the client put it. The operation's
own name is left exactly if what lies between the two places can change places with the model's
name, so that the two texts come out the same (`procedureKey_eq_name_iff`).
-/

set_option autoImplicit false

namespace RouterLayer

/-- If a text changes places with a word, so does each of its endings over which the word can be
read. -/
theorem Text.append_comm_of_prefix {front rest word : Text}
    (hcomm : (front ++ rest) ++ word = word ++ (front ++ rest)) (hread : word <+: rest ++ word) :
    rest ++ word = word ++ rest := by
  obtain ⟨y, hy⟩ := hread
  have hlong : (front ++ word) ++ y = (word ++ front) ++ rest := by
    rw [List.append_assoc, hy, ← List.append_assoc, hcomm, List.append_assoc]
  have hrest : y = rest := (List.append_inj hlong (by simp [Nat.add_comm])).2
  rw [← hy, hrest]

namespace Naming

/-- The key is the operation's own name exactly if every ending of the text before the model's name,
over which that name can be read earlier, changes places with it. -/
theorem procedureKey_eq_name_iff (o : Operation) (model : Text) :
    procedureKey (o.conventionalName model) model false = o.name ↔
      ∀ rest, rest <:+ o.base.name → model <+: rest ++ model → rest ++ model = model ++ rest := by
  obtain ⟨front, back, hname, hdrop, hfirst⟩ :=
    Text.dropFirst_eq (o.infix_conventionalName model)
  -- the first occurrence begins no later than the client's own, which follows the base name
  obtain ⟨last, hlast⟩ : front <+: o.base.name :=
    List.prefix_of_prefix_length_le ⟨model ++ back, hname.symm⟩ (List.prefix_append _ _)
      (hfirst _ _ rfl)
  have hback : model ++ back = last ++ (model ++ o.ending) := by
    rw [Operation.conventionalName, ← hlast, List.append_assoc] at hname
    exact (List.append_cancel_left hname).symm
  have hleft : front ++ back = o.name ↔ last ++ model = model ++ last := by
    have hmoved : back = last ++ o.ending ↔
        model ++ last ++ o.ending = last ++ model ++ o.ending := by
      rw [List.append_assoc last, ← hback, List.append_assoc, List.append_cancel_left_eq, eq_comm]
    rw [o.name_eq, ← hlast, List.append_assoc, List.append_cancel_left_eq, hmoved,
      List.append_cancel_right_eq, eq_comm]
  rw [procedureKey_conventionalName, hdrop, hleft]
  constructor
  · intro hcomm rest hrest hread
    obtain ⟨other, hother⟩ := hrest
    obtain ⟨y, hy⟩ := hread
    have hlater : front.length ≤ other.length := by
      refine hfirst other (y ++ o.ending) ?_
      rw [Operation.conventionalName, ← hother, ← List.append_assoc model, hy]
      simp only [List.append_assoc]
    have hshort : rest.length ≤ last.length := by
      have hlengths := congrArg List.length (hother.trans hlast.symm)
      simp only [List.length_append] at hlengths
      omega
    obtain ⟨between, rfl⟩ : rest <:+ last :=
      List.suffix_of_suffix_length_le ⟨other, hother⟩ ⟨front, hlast⟩ hshort
    exact Text.append_comm_of_prefix hcomm ⟨y, hy⟩
  · intro h
    refine h last ⟨front, hlast⟩ ?_
    refine List.prefix_of_prefix_length_le ⟨back, hback⟩ ?_ (by simp)
    exact ⟨o.ending, List.append_assoc ..⟩

/-- The name of the model "M" is taken out of the word "Many". -/
theorem not_procedureKey_eq_name : ¬∀ (o : Operation) (model : Text), model ≠ [] →
    procedureKey (o.conventionalName model) model false = o.name := by
  intro h
  have hkey : procedureKey (Operation.findMany.conventionalName "M") "M" false = "findanyM" := by
    decide
  exact absurd (hkey.symm.trans (h .findMany "M" (by decide))) (by decide)

end Naming

end RouterLayer
