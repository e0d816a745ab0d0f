import RouterLayer.Text.Basic

set_option autoImplicit false

namespace RouterLayer

abbrev OrderedMap (α : Type) := List (Text × α)

namespace OrderedMap

variable {α : Type}

def put (m : OrderedMap α) (key : Text) (value : α) : OrderedMap α :=
  match m with
  | [] => [(key, value)]
  | (k, v) :: rest => if k = key then (k, value) :: rest else (k, v) :: put rest key value

def find? (m : OrderedMap α) (key : Text) : Option α :=
  match m with
  | [] => none
  | (k, v) :: rest => if k = key then some v else find? rest key

def contains (m : OrderedMap α) (key : Text) : Bool := m.any (·.1 == key)

def keys (m : OrderedMap α) : List Text := m.map (·.1)

def merge (m entries : OrderedMap α) : OrderedMap α :=
  entries.foldl (fun acc e => put acc e.1 e.2) m

def ofEntries (entries : List (Text × α)) : OrderedMap α := merge [] entries

@[simp] theorem keys_put (m : OrderedMap α) (key : Text) (value : α) :
    (m.put key value).keys = if key ∈ m.keys then m.keys else m.keys ++ [key] := by
  induction m with
  | nil => simp [put, keys]
  | cons e rest ih =>
    obtain ⟨k, v⟩ := e
    by_cases h : k = key
    · simp [put, keys, h]
    · have h' : ¬ key = k := fun e => h e.symm
      simp only [keys] at ih
      simp only [put, h, if_false, keys, List.map_cons, List.mem_cons, h', false_or]
      split <;> simp_all

@[simp] theorem find?_put (m : OrderedMap α) (key : Text) (value : α) (k : Text) :
    (m.put key value).find? k = if key = k then some value else m.find? k := by
  induction m with
  | nil => simp [put, find?]
  | cons e rest ih =>
    obtain ⟨j, v⟩ := e
    by_cases h : j = key
    · subst h; by_cases hk : j = k <;> simp [put, find?, hk]
    · by_cases hj : j = k
      · subst hj; simp [put, find?, h, Ne.symm h]
      · simp [put, find?, h, hj, ih]

end OrderedMap

end RouterLayer
