import RouterLayer.Json.Reader
import RouterLayer.Proofs.Outcome
import RouterLayer.Proofs.OrderedMap

/-!
Objects without repeated keys. The type of JSON values does not exclude that an object has a key
twice, but the reader never gives such a value (`keyed_of_read`): of members with one name it keeps
the last.
-/

set_option autoImplicit false

namespace RouterLayer

namespace OrderedMap

variable {α : Type} {m entries : OrderedMap α} {e : Text × α}

theorem mem_of_mem_put {key : Text} {value : α} (h : e ∈ m.put key value) :
    e = (key, value) ∨ e ∈ m := by
  induction m with
  | nil => exact .inl (List.mem_singleton.mp h)
  | cons d rest ih =>
    obtain ⟨k, v⟩ := d
    rw [put] at h
    split at h
    · next hk =>
      subst hk
      exact (List.mem_cons.mp h).imp_right (List.mem_cons_of_mem _)
    · rcases List.mem_cons.mp h with rfl | h
      · exact .inr List.mem_cons_self
      · exact (ih h).imp_right (List.mem_cons_of_mem _)

theorem mem_of_mem_merge (h : e ∈ m.merge entries) : e ∈ m ∨ e ∈ entries := by
  induction entries generalizing m with
  | nil => exact .inl h
  | cons d entries ih =>
    have hstep : e ∈ (m.put d.1 d.2).merge entries := h
    rcases ih hstep with h | h
    · rcases mem_of_mem_put h with rfl | h
      · exact .inr List.mem_cons_self
      · exact .inl h
    · exact .inr (List.mem_cons_of_mem _ h)

theorem nodup_keys_merge (h : m.keys.Nodup) (entries : OrderedMap α) :
    (m.merge entries).keys.Nodup := by
  induction entries generalizing m with
  | nil => exact h
  | cons d entries ih => exact ih (nodup_keys_put h d.1 d.2)

theorem nodup_keys_ofEntries (entries : List (Text × α)) : (ofEntries entries).keys.Nodup := by
  have hempty : (keys ([] : OrderedMap α)).Nodup := List.nodup_nil
  exact nodup_keys_merge hempty entries

theorem mem_of_mem_ofEntries {entries : List (Text × α)} (h : e ∈ ofEntries entries) :
    e ∈ entries :=
  (mem_of_mem_merge h).resolve_left List.not_mem_nil

end OrderedMap

namespace Json

inductive Keyed : Json → Prop
  | null : Keyed .null
  | bool (value : Bool) : Keyed (.bool value)
  | int (value : Int) : Keyed (.int value)
  | float (value : Binary64) : Keyed (.float value)
  | str (value : Text) : Keyed (.str value)
  | list {items : List Json} (each : ∀ item ∈ items, Keyed item) : Keyed (.list items)
  | object {members : List (Text × Json)} (nodup : (OrderedMap.keys members).Nodup)
      (each : ∀ m ∈ members, Keyed m.2) : Keyed (.object members)

def ReadsKeyed (read : List Char → Read Json) : Prop :=
  ∀ cs value rest, read cs = .ok (value, rest) → value.Keyed

theorem keyed_words {w : String × Json} (h : w ∈ words) : w.2.Keyed := by
  have hwords : w.2 = .null ∨ (∃ b, w.2 = .bool b) ∨ ∃ x, w.2 = .float x := by
    simp only [words, List.mem_cons, List.not_mem_nil, or_false] at h
    rcases h with rfl | rfl | rfl | rfl | rfl | rfl <;> simp
  rcases hwords with h | ⟨b, h⟩ | ⟨x, h⟩ <;> rw [h]
  · exact .null
  · exact .bool b
  · exact .float x

theorem readsKeyed_number : ReadsKeyed readNumber := by
  intro cs value rest h
  unfold readNumber at h
  dsimp only at h
  split at h
  · cases h
  · split at h
    · split at h
      · cases h
      · cases h
        exact .int _
    · cases h
      exact .float _

theorem readsKeyed_scalar : ReadsKeyed readScalar := by
  intro cs value rest h
  unfold readScalar at h
  split at h
  · obtain ⟨⟨s, tail⟩, -, h⟩ := map_eq_ok.mp h
    cases h
    exact .str s
  · split at h
    · next found hfound =>
      obtain ⟨w, hw, hfound⟩ := List.exists_of_findSome?_eq_some hfound
      cases h
      split at hfound
      · cases hfound
        exact keyed_words hw
      · cases hfound
    · exact readsKeyed_number _ _ _ h

variable {read : List Char → Read Json}

theorem keyed_of_readItems (hread : ReadsKeyed read) (bound : Nat) (cs : List Char)
    {items : List Json} {rest : List Char} (h : readItems read bound cs = .ok (items, rest)) :
    ∀ item ∈ items, item.Keyed := by
  induction bound generalizing cs items rest with
  | zero => cases h
  | succ bound ih =>
    obtain ⟨⟨item, tail⟩, hitem, h⟩ := bind_eq_ok.mp h
    have hkeyed := hread _ _ _ hitem
    dsimp only at h
    split at h
    · cases h
      exact List.forall_mem_singleton.mpr hkeyed
    · obtain ⟨⟨later, tail'⟩, hlater, h⟩ := bind_eq_ok.mp h
      cases h
      exact List.forall_mem_cons.mpr ⟨hkeyed, ih _ hlater⟩
    · cases h

theorem keyed_of_readMember (hread : ReadsKeyed read) {cs : List Char} {member : Text × Json}
    {rest : List Char} (h : readMember read cs = .ok (member, rest)) : member.2.Keyed := by
  unfold readMember at h
  split at h
  · obtain ⟨⟨key, tail⟩, -, h⟩ := bind_eq_ok.mp h
    dsimp only at h
    split at h
    · obtain ⟨⟨value, tail'⟩, hvalue, h⟩ := bind_eq_ok.mp h
      cases h
      exact hread _ _ _ hvalue
    · cases h
  · cases h

theorem keyed_of_readMembers (hread : ReadsKeyed read) (bound : Nat) (cs : List Char)
    {members : List (Text × Json)} {rest : List Char}
    (h : readMembers read bound cs = .ok (members, rest)) : ∀ m ∈ members, m.2.Keyed := by
  induction bound generalizing cs members rest with
  | zero => cases h
  | succ bound ih =>
    obtain ⟨⟨member, tail⟩, hmember, h⟩ := bind_eq_ok.mp h
    have hkeyed := keyed_of_readMember hread hmember
    dsimp only at h
    split at h
    · cases h
      exact List.forall_mem_singleton.mpr hkeyed
    · obtain ⟨⟨later, tail'⟩, hlater, h⟩ := bind_eq_ok.mp h
      cases h
      exact List.forall_mem_cons.mpr ⟨hkeyed, ih _ hlater⟩
    · cases h

theorem readsKeyed_list (hread : ReadsKeyed read) : ReadsKeyed (readList read) := by
  intro cs value rest h
  unfold readList at h
  split at h
  · cases h
    exact .list nofun
  · obtain ⟨⟨items, tail⟩, hitems, h⟩ := map_eq_ok.mp h
    cases h
    exact .list (keyed_of_readItems hread _ _ hitems)

theorem readsKeyed_object (hread : ReadsKeyed read) : ReadsKeyed (readObject read) := by
  intro cs value rest h
  unfold readObject at h
  split at h
  · cases h
    exact .object List.nodup_nil nofun
  · obtain ⟨⟨members, tail⟩, hmembers, h⟩ := map_eq_ok.mp h
    cases h
    refine .object (OrderedMap.nodup_keys_ofEntries _) fun m hm => ?_
    exact keyed_of_readMembers hread _ _ hmembers m (OrderedMap.mem_of_mem_ofEntries hm)

theorem readsKeyed_value (depth : Nat) : ReadsKeyed (readValue depth) := by
  induction depth with
  | zero =>
    intro cs value rest h
    unfold readValue at h
    split at h
    · cases h
    · cases h
    · contradiction
    · contradiction
    · exact readsKeyed_scalar _ _ _ h
  | succ depth ih =>
    intro cs value rest h
    unfold readValue at h
    split at h
    · contradiction
    · contradiction
    · next hdepth =>
      cases hdepth
      exact readsKeyed_list ih _ _ _ h
    · next hdepth =>
      cases hdepth
      exact readsKeyed_object ih _ _ _ h
    · exact readsKeyed_scalar _ _ _ h

theorem keyed_of_read {s : String} {value : Json} (h : Json.read s = .ok value) : value.Keyed := by
  unfold Json.read at h
  split at h
  · next found hfound =>
    cases h
    unfold readDocument at hfound
    split at hfound
    · cases hfound
    · obtain ⟨⟨first, rest⟩, hfirst, hfound⟩ := bind_eq_ok.mp hfound
      dsimp only at hfound
      split at hfound
      · cases hfound
        exact readsKeyed_value _ _ _ _ hfirst
      · cases hfound
  · cases h
  · cases h
  · cases h

end Json

end RouterLayer
