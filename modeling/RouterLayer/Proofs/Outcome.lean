import RouterLayer.Log
import Mathlib.Data.List.Forall2

set_option autoImplicit false

namespace RouterLayer

section Except

variable {ε α β : Type}

theorem bind_eq_ok {x : Except ε α} {f : α → Except ε β} {b : β} :
    x >>= f = .ok b ↔ ∃ a, x = .ok a ∧ f a = .ok b := by
  cases x <;> simp [bind, Except.bind]

theorem map_eq_ok {x : Except ε α} {f : α → β} {b : β} :
    x.map f = .ok b ↔ ∃ a, x = .ok a ∧ f a = b := by
  cases x <;> simp [Except.map]

theorem exists_ok {x : Except ε α} (h : x.isOk = true) : ∃ a, x = .ok a := by
  cases x with
  | error e => cases h
  | ok a => exact ⟨a, rfl⟩

theorem mapM_eq_ok {f : α → Except ε β} {xs : List α} {ys : List β} :
    xs.mapM f = .ok ys ↔ List.Forall₂ (fun x y => f x = .ok y) xs ys := by
  induction xs generalizing ys with
  | nil => exact ⟨fun h => by cases h; exact .nil, fun h => by cases h; rfl⟩
  | cons x xs ih =>
    simp only [List.mapM_cons, bind_eq_ok, ih]
    constructor
    · rintro ⟨y, hy, rest, hrest, h⟩
      cases h
      exact .cons hy hrest
    · rintro (_ | ⟨hy, hrest⟩)
      exact ⟨_, hy, _, hrest, rfl⟩

theorem bind_eq_error {x : Except ε α} {f : α → Except ε β} {e : ε} :
    x >>= f = .error e ↔ x = .error e ∨ ∃ a, x = .ok a ∧ f a = .error e := by
  cases x <;> simp [bind, Except.bind]

theorem map_eq_error {x : Except ε α} {f : α → β} {e : ε} :
    x.map f = .error e ↔ x = .error e := by
  cases x <;> simp [Except.map]

/-- A walk over a list gets as far as an item: it succeeds at all that stand before the item. -/
def WalksTo (f : α → Except ε β) (xs : List α) (x : α) : Prop :=
  ∃ before after, xs = before ++ x :: after ∧ ∀ b ∈ before, (f b).isOk = true

theorem WalksTo.mem {f : α → Except ε β} {xs : List α} {x : α} (h : WalksTo f xs x) : x ∈ xs := by
  obtain ⟨before, after, rfl, _⟩ := h
  exact List.mem_append_right before List.mem_cons_self

theorem walksTo_cons {f : α → Except ε β} {x y : α} {xs : List α} :
    WalksTo f (x :: xs) y ↔ y = x ∨ (f x).isOk = true ∧ WalksTo f xs y := by
  constructor
  · rintro ⟨before, after, h, hbefore⟩
    cases before with
    | nil => exact .inl (List.cons.inj h).1.symm
    | cons b before =>
      obtain ⟨rfl, rfl⟩ := List.cons.inj h
      obtain ⟨hx, hrest⟩ := List.forall_mem_cons.mp hbefore
      exact .inr ⟨hx, before, after, rfl, hrest⟩
  · rintro (rfl | ⟨hx, before, after, rfl, hbefore⟩)
    · exact ⟨[], xs, rfl, fun _ h => nomatch h⟩
    · exact ⟨x :: before, after, rfl, List.forall_mem_cons.mpr ⟨hx, hbefore⟩⟩

theorem mapM_eq_error {f : α → Except ε β} {xs : List α} {e : ε} :
    xs.mapM f = .error e ↔ ∃ x, WalksTo f xs x ∧ f x = .error e := by
  induction xs with
  | nil =>
    exact ⟨fun h => (nomatch h), fun ⟨_, h, _⟩ => nomatch h.mem⟩
  | cons x xs ih =>
    have hrest : (do let y ← f x; let ys ← xs.mapM f; return y :: ys : Except ε (List β)) =
        .error e ↔ f x = .error e ∨ (∃ y, f x = .ok y) ∧ xs.mapM f = .error e := by
      cases f x with
      | error e => simp [bind, Except.bind]
      | ok y => cases xs.mapM f <;> simp [bind, Except.bind, pure, Except.pure]
    rw [List.mapM_cons, hrest, ih]
    simp only [walksTo_cons]
    constructor
    · rintro (h | ⟨⟨y, hy⟩, z, hz, hfz⟩)
      · exact ⟨x, .inl rfl, h⟩
      · exact ⟨z, .inr ⟨hy ▸ rfl, hz⟩, hfz⟩
    · rintro ⟨z, rfl | ⟨hx, hz⟩, hfz⟩
      · exact .inl hfz
      · exact .inr ⟨exists_ok hx, z, hz, hfz⟩

theorem ok_of_mem {f : α → Except ε β} {xs : List α} {ys : List β}
    (h : List.Forall₂ (fun x y => f x = .ok y) xs ys) {x : α} (hx : x ∈ xs) :
    ∃ y ∈ ys, f x = .ok y := by
  induction h with
  | nil => cases hx
  | @cons z y zs ys hz _ ih =>
    rcases List.mem_cons.mp hx with rfl | hx
    · exact ⟨y, List.mem_cons_self, hz⟩
    · obtain ⟨w, hw, hxw⟩ := ih hx
      exact ⟨w, List.mem_cons_of_mem y hw, hxw⟩

theorem mem_iff_ok {f : α → Except ε β} {xs : List α} {ys : List β}
    (h : List.Forall₂ (fun x y => f x = .ok y) xs ys) {y : β} :
    y ∈ ys ↔ ∃ x ∈ xs, f x = .ok y := by
  constructor
  · intro hy
    induction h with
    | nil => cases hy
    | @cons x z xs ys hx _ ih =>
      rcases List.mem_cons.mp hy with rfl | hy
      · exact ⟨x, List.mem_cons_self, hx⟩
      · obtain ⟨w, hw, hwy⟩ := ih hy
        exact ⟨w, List.mem_cons_of_mem x hw, hwy⟩
  · rintro ⟨x, hx, hxy⟩
    obtain ⟨z, hz, hxz⟩ := ok_of_mem h hx
    rw [hxy] at hxz
    cases hxz
    exact hz

theorem sublist_of_walk {f : α → Except ε β} {xs xs' : List α} {ys ys' : List β}
    (hsub : xs.Sublist xs') (h : List.Forall₂ (fun x y => f x = .ok y) xs ys)
    (h' : List.Forall₂ (fun x y => f x = .ok y) xs' ys') : ys.Sublist ys' := by
  induction hsub generalizing ys ys' with
  | slnil =>
    cases h
    exact List.nil_sublist _
  | cons x _ ih =>
    cases h' with
    | cons _ h' => exact (ih h h').cons _
  | cons_cons x _ ih =>
    cases h with
    | cons hx h =>
      cases h' with
      | cons hx' h' =>
        rw [hx] at hx'
        cases hx'
        exact (ih h h').cons_cons _

theorem isOk_iff {x : Except ε α} : x.isOk = true ↔ ∃ a, x = .ok a :=
  ⟨exists_ok, fun ⟨_, h⟩ => h ▸ rfl⟩

@[simp] theorem isOk_map (x : Except ε α) (f : α → β) : (x.map f).isOk = x.isOk := by
  cases x <;> rfl

theorem isOk_bind {x : Except ε α} {f : α → Except ε β} :
    (x >>= f).isOk = true ↔ ∃ a, x = .ok a ∧ (f a).isOk = true := by
  cases x with
  | error e => exact ⟨fun h => (nomatch h), fun ⟨_, h, _⟩ => (nomatch h)⟩
  | ok a => exact ⟨fun h => ⟨a, rfl, h⟩, fun ⟨_, h, hb⟩ => Except.ok.inj h ▸ hb⟩

/-- When what follows does not depend on the result, a sequence succeeds when both parts do. -/
theorem isOk_seq {x : Except ε α} {f : α → Except ε β} {p : Prop}
    (h : ∀ a, x = .ok a → ((f a).isOk = true ↔ p)) :
    (x >>= f).isOk = true ↔ x.isOk = true ∧ p := by
  rw [isOk_bind, isOk_iff]
  constructor
  · rintro ⟨a, ha, hf⟩
    exact ⟨⟨a, ha⟩, (h a ha).mp hf⟩
  · rintro ⟨⟨a, ha⟩, hp⟩
    exact ⟨a, ha, (h a ha).mpr hp⟩

theorem isOk_return (x : Except ε α) (f : α → β) :
    (do let a ← x; return f a : Except ε β).isOk = x.isOk := by
  cases x <;> rfl

theorem isOk_mapM {f : α → Except ε β} {xs : List α} :
    (xs.mapM f).isOk = true ↔ ∀ x ∈ xs, (f x).isOk = true := by
  induction xs with
  | nil => exact ⟨fun _ _ h => (nomatch h), fun _ => rfl⟩
  | cons x xs ih =>
    rw [List.forall_mem_cons, ← ih, List.mapM_cons]
    cases f x with
    | error e => simp [bind, Except.bind, Except.isOk, Except.toBool]
    | ok a => cases xs.mapM f <;> simp [bind, Except.bind, pure, Except.pure, Except.isOk,
        Except.toBool]

theorem mapM_eq_of_forall {f g : α → Except ε β} {xs : List α} (h : ∀ x ∈ xs, f x = g x) :
    xs.mapM f = xs.mapM g := by
  induction xs with
  | nil => rfl
  | cons x xs ih =>
    have hrest := ih fun y hy => h y (List.mem_cons_of_mem x hy)
    rw [List.mapM_cons, List.mapM_cons, hrest, h x List.mem_cons_self]

theorem map_bind_eq {γ : Type} (x : Except ε α) (f : α → Except ε β) (g : β → γ) :
    (x >>= f).map g = x >>= fun a => (f a).map g := by
  cases x <;> rfl

end Except

theorem map_eq_of_forall₂ {α β γ : Type} {R : α → β → Prop} {f : α → γ} {g : β → γ}
    (step : ∀ x y, R x y → g y = f x) {xs : List α} {ys : List β} (h : List.Forall₂ R xs ys) :
    ys.map g = xs.map f := by
  induction h with
  | nil => rfl
  | cons hxy _ ih => rw [List.map_cons, List.map_cons, step _ _ hxy, ih]

namespace Logged

variable {α β γ : Type}

@[simp] theorem outcome_pure' (a : α) : (Pure.pure a : Logged α).outcome = .ok a := rfl

@[simp] theorem outcome_ofExcept (x : Except Failure α) : (ofExcept x).outcome = x := rfl

@[simp] theorem outcome_note (r : Log.Record) : (note r).outcome = .ok () := rfl

@[simp] theorem outcome_seq (x : Logged α) (f : α → Logged β) :
    (x >>= f).outcome = x.outcome >>= fun a => (f a).outcome := outcome_bind x f

theorem outcome_forList (f : γ → Logged α) (xs : List γ) :
    (forList f xs).outcome = xs.mapM fun x => (f x).outcome := by
  induction xs with
  | nil => rfl
  | cons x xs ih =>
    rw [forList, List.mapM_cons, outcome_bind]
    simp only [outcome_bind, ih]
    rfl

end Logged

end RouterLayer
