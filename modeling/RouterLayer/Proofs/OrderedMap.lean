import RouterLayer.OrderedMap

set_option autoImplicit false

namespace RouterLayer.OrderedMap

variable {α : Type}

theorem find?_put_eq_none {m : OrderedMap α} {key k : Text} {value : α} :
    (m.put key value).find? k = none ↔ k ≠ key ∧ m.find? k = none := by
  rw [find?_put]
  by_cases h : key = k
  · simp [h]
  · simp [h, Ne.symm h]

theorem put_of_not_mem {m : OrderedMap α} {key : Text} (value : α) (h : key ∉ m.keys) :
    m.put key value = m ++ [(key, value)] := by
  induction m with
  | nil => rfl
  | cons e m ih =>
    obtain ⟨k, v⟩ := e
    simp only [keys, List.map_cons, List.mem_cons, not_or] at h
    rw [put, if_neg (Ne.symm h.1), ih h.2, List.cons_append]

theorem merge_of_nodup {m entries : OrderedMap α} (h : (m.keys ++ entries.keys).Nodup) :
    m.merge entries = m ++ entries := by
  induction entries generalizing m with
  | nil => simp [merge]
  | cons e entries ih =>
    obtain ⟨k, v⟩ := e
    have hk : k ∉ m.keys := by
      intro hm
      exact (List.nodup_append.mp h).2.2 k hm k (by simp [keys]) rfl
    have hstep : ((m ++ [(k, v)]).keys ++ OrderedMap.keys entries).Nodup := by
      simpa [keys] using h
    calc m.merge ((k, v) :: entries) = (m.put k v).merge entries := rfl
      _ = (m ++ [(k, v)]).merge entries := by rw [put_of_not_mem v hk]
      _ = m ++ (k, v) :: entries := by rw [ih hstep]; simp

def latest? (entries : List (Text × α)) (key : Text) : Option α := find? entries.reverse key

theorem find?_append (m entries : OrderedMap α) (key : Text) :
    OrderedMap.find? (m ++ entries) key = (m.find? key).or (entries.find? key) := by
  induction m with
  | nil => rfl
  | cons e m ih =>
    obtain ⟨k, v⟩ := e
    rw [List.cons_append, find?, find?, ih]
    split <;> rfl

theorem find?_merge (m entries : OrderedMap α) (key : Text) :
    (m.merge entries).find? key = (latest? entries key).or (m.find? key) := by
  induction entries generalizing m with
  | nil => rfl
  | cons e entries ih =>
    obtain ⟨k, v⟩ := e
    have hstep : m.merge ((k, v) :: entries) = (m.put k v).merge entries := rfl
    rw [hstep, ih, find?_put, latest?, latest?, List.reverse_cons, find?_append, Option.or_assoc]
    congr 1
    rw [find?]
    split <;> simp [find?]

theorem find?_ofEntries (entries : List (Text × α)) (key : Text) :
    (ofEntries entries).find? key = latest? entries key := by
  rw [ofEntries, find?_merge, find?, Option.or_none]

theorem latest?_append (entries later : List (Text × α)) (key : Text) :
    latest? (entries ++ later) key = (latest? later key).or (latest? entries key) := by
  rw [latest?, List.reverse_append, find?_append]
  rfl

theorem latest?_cons (key k : Text) (value : α) (entries : List (Text × α)) :
    latest? ((k, value) :: entries) key =
      (latest? entries key).or (if k = key then some value else none) :=
  latest?_append [(k, value)] entries key

section FlatMap

variable {β : Type} {f : β → List (Text × α)} {xs : List β} {key : Text}

theorem latest?_flatMap_eq_none :
    latest? (xs.flatMap f) key = none ↔ ∀ x ∈ xs, latest? (f x) key = none := by
  induction xs with
  | nil => simp [latest?, find?]
  | cons x xs ih =>
    rw [List.flatMap_cons, latest?_append, Option.or_eq_none_iff, ih, List.forall_mem_cons,
      and_comm]

/-- Of entries that come in groups, the last group that has the key decides. -/
theorem latest?_flatMap {value : α} : latest? (xs.flatMap f) key = some value ↔
    ∃ before x after, xs = before ++ x :: after ∧ latest? (f x) key = some value ∧
      ∀ y ∈ after, latest? (f y) key = none := by
  induction xs with
  | nil => simp [latest?, find?]
  | cons x xs ih =>
    rw [List.flatMap_cons, latest?_append, Option.or_eq_some_iff, ih, latest?_flatMap_eq_none]
    constructor
    · rintro (⟨before, y, after, rfl, h⟩ | ⟨hrest, h⟩)
      · exact ⟨x :: before, y, after, rfl, h⟩
      · exact ⟨[], x, xs, rfl, h, hrest⟩
    · rintro ⟨before, y, after, hxs, hy, hafter⟩
      cases before with
      | nil =>
        obtain ⟨rfl, rfl⟩ := List.cons.inj hxs
        exact .inr ⟨hafter, hy⟩
      | cons z before =>
        obtain ⟨rfl, rfl⟩ := List.cons.inj hxs
        exact .inl ⟨before, y, after, rfl, hy, hafter⟩

end FlatMap

theorem latest?_of_nodup {entries : OrderedMap α} (h : entries.keys.Nodup) (key : Text) :
    latest? entries key = entries.find? key := by
  have hentries : ofEntries entries = entries := merge_of_nodup h
  rw [← find?_ofEntries, hentries]

theorem find?_eq_some {m : OrderedMap α} (h : m.keys.Nodup) {key : Text} {value : α} :
    m.find? key = some value ↔ (key, value) ∈ m := by
  induction m with
  | nil => simp [find?]
  | cons e rest ih =>
    obtain ⟨k, v⟩ := e
    rw [keys, List.map_cons, List.nodup_cons] at h
    rw [find?, List.mem_cons]
    split
    · next heq =>
      subst heq
      have hrest : (k, value) ∉ rest := fun hmem => h.1 (List.mem_map.mpr ⟨_, hmem, rfl⟩)
      simp [hrest, eq_comm]
    · next hne => simp [ih h.2, Ne.symm hne]

theorem nodup_keys_put {m : OrderedMap α} (h : m.keys.Nodup) (key : Text) (value : α) :
    (m.put key value).keys.Nodup := by
  rw [keys_put]
  split
  · exact h
  · next hkey =>
    exact List.nodup_append.mpr ⟨h, by simp, fun a ha b hb hab =>
      hkey (List.mem_singleton.mp hb ▸ hab ▸ ha)⟩

theorem find?_of_list_find? {entries : List (Text × α)} {p : Text → Bool} {key : Text} {value : α}
    (h : entries.find? (fun e => p e.1) = some (key, value)) :
    p key = true ∧ OrderedMap.find? entries key = some value := by
  induction entries with
  | nil => cases h
  | cons e entries ih =>
    obtain ⟨k, v⟩ := e
    rw [List.find?_cons] at h
    cases hk : p k with
    | true =>
      simp only [hk] at h
      cases h
      exact ⟨hk, by simp [find?]⟩
    | false =>
      simp only [hk] at h
      obtain ⟨hkey, hfind⟩ := ih h
      have hne : k ≠ key := by
        rintro rfl
        rw [hk] at hkey
        cases hkey
      exact ⟨hkey, by rw [find?, if_neg hne, hfind]⟩

theorem find?_of_list_find?_none {entries : List (Text × α)} {p : Text → Bool} {key : Text}
    (h : entries.find? (fun e => p e.1) = none) (hkey : p key = true) :
    OrderedMap.find? entries key = none := by
  induction entries with
  | nil => rfl
  | cons e entries ih =>
    obtain ⟨k, v⟩ := e
    rw [List.find?_cons] at h
    cases hk : p k with
    | true => simp only [hk] at h; cases h
    | false =>
      simp only [hk] at h
      have hne : k ≠ key := by
        rintro rfl
        rw [hk] at hkey
        cases hkey
      rw [find?, if_neg hne, ih h]

end RouterLayer.OrderedMap
