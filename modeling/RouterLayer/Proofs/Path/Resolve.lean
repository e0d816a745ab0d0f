import Mathlib.Data.List.Induction
import RouterLayer.Path.Specifier

/-!
Where a path leads. Double dots can be resolved part by part (`resolveSegments_append`), so it makes
no difference whether a path is brought into its normal form before it is reckoned from a directory
(`foldl_resolveSegments`), and the steps between two places lead from the one to the other
(`resolve_stepsBetween`).
-/

set_option autoImplicit false

namespace RouterLayer.Path

section Stack

variable {rooted : Bool} {stack : List Segment} {s : Segment}

theorem pushSegment_of_ne (h : s ≠ parent) : pushSegment rooted stack s = s :: stack :=
  if_neg h

theorem pushSegment_parent_cons {top : Segment} (h : top ≠ parent) :
    pushSegment rooted (top :: stack) parent = stack := by
  simp [pushSegment, h]

theorem pushSegment_parent_parent :
    pushSegment rooted (parent :: stack) parent = parent :: parent :: stack := by
  simp [pushSegment]

theorem mem_of_mem_pushSegment {t : Segment} (h : t ∈ pushSegment rooted stack s) :
    t = s ∨ t ∈ stack := by
  unfold pushSegment at h
  split at h
  · next hs =>
    subst hs
    split at h
    · split at h
      · cases h
      · exact .inl (List.mem_singleton.mp h)
    · split at h
      · exact List.mem_cons.mp h
      · exact .inr (List.mem_cons_of_mem _ h)
  · exact List.mem_cons.mp h

theorem parent_not_mem_pushSegment (h : parent ∉ stack) (s : Segment) :
    parent ∉ pushSegment true stack s := by
  by_cases hs : s = parent
  · subst hs
    cases stack with
    | nil => exact List.not_mem_nil
    | cons top rest =>
      simp only [List.mem_cons, not_or] at h
      rw [pushSegment_parent_cons (Ne.symm h.1)]
      exact h.2
  · rw [pushSegment_of_ne hs, List.mem_cons, not_or]
    exact ⟨Ne.symm hs, h⟩

theorem foldl_names {names : List Segment} (h : parent ∉ names) :
    names.foldl (pushSegment rooted) stack = names.reverse ++ stack := by
  induction names generalizing stack with
  | nil => rfl
  | cons name names ih =>
    simp only [List.mem_cons, not_or] at h
    rw [List.foldl_cons, pushSegment_of_ne (Ne.symm h.1), ih h.2, List.reverse_cons,
      List.append_assoc, List.singleton_append]

theorem foldl_climb {names : List Segment} (h : parent ∉ names) :
    (List.replicate names.length parent).foldl (pushSegment rooted) (names ++ stack) = stack := by
  induction names with
  | nil => rfl
  | cons name names ih =>
    simp only [List.mem_cons, not_or] at h
    rw [List.length_cons, List.replicate_succ, List.foldl_cons, List.cons_append,
      pushSegment_parent_cons (Ne.symm h.1), ih h.2]

/-- A double dot that is left over is never taken away again. -/
theorem parent_mem_foldl (h : parent ∈ stack) (segments : List Segment) :
    parent ∈ segments.foldl (pushSegment false) stack := by
  induction segments generalizing stack with
  | nil => exact h
  | cons s segments ih =>
    refine ih ?_
    by_cases hs : s = parent
    · subst hs
      cases stack with
      | nil => cases h
      | cons top rest =>
        by_cases htop : top = parent
        · subst htop
          rw [pushSegment_parent_parent]
          exact List.mem_cons_self
        · rw [pushSegment_parent_cons htop]
          exact (List.mem_cons.mp h).resolve_left (Ne.symm htop)
    · rw [pushSegment_of_ne hs]
      exact List.mem_cons_of_mem s h

theorem mem_of_mem_foldl {segments : List Segment} {t : Segment}
    (h : t ∈ segments.foldl (pushSegment rooted) stack) : t ∈ segments ∨ t ∈ stack := by
  induction segments generalizing stack with
  | nil => exact .inr h
  | cons s segments ih =>
    rcases ih h with h | h
    · exact .inl (List.mem_cons_of_mem _ h)
    · rcases mem_of_mem_pushSegment h with rfl | h
      · exact .inl List.mem_cons_self
      · exact .inr h

theorem parent_not_mem_foldl (h : parent ∉ stack) (segments : List Segment) :
    parent ∉ segments.foldl (pushSegment true) stack := by
  induction segments generalizing stack with
  | nil => exact h
  | cons s segments ih => exact ih (parent_not_mem_pushSegment h s)

end Stack

section Resolve

variable {rooted : Bool} {segments names : List Segment} {s : Segment}

theorem mem_of_mem_resolveSegments (h : s ∈ resolveSegments rooted segments) : s ∈ segments := by
  rcases mem_of_mem_foldl (List.mem_reverse.mp h) with h | h
  · exact h
  · cases h

theorem parent_not_mem_resolveSegments (segments : List Segment) :
    parent ∉ resolveSegments true segments := by
  unfold resolveSegments
  rw [List.mem_reverse]
  exact parent_not_mem_foldl List.not_mem_nil segments

theorem resolveSegments_names (h : parent ∉ names) : resolveSegments rooted names = names := by
  rw [resolveSegments, foldl_names h, List.append_nil, List.reverse_reverse]

theorem resolveSegments_concat {init : List Segment} {s : Segment} (h : s ≠ parent) :
    resolveSegments rooted (init ++ [s]) = resolveSegments rooted init ++ [s] := by
  unfold resolveSegments
  rw [List.foldl_append, List.foldl_cons, List.foldl_nil, pushSegment_of_ne h, List.reverse_cons]

/-- What is done to names without making or losing double dots can be done after they are
resolved. -/
theorem resolveSegments_map {f : Segment → Segment} (hf : ∀ s, f s = parent ↔ s = parent)
    (segments : List Segment) :
    resolveSegments rooted (segments.map f) = (resolveSegments rooted segments).map f := by
  have hparent : f parent = parent := (hf parent).mpr rfl
  have hpush (stack : List Segment) (s : Segment) :
      pushSegment rooted (stack.map f) (f s) = (pushSegment rooted stack s).map f := by
    by_cases hs : s = parent
    · subst hs
      rw [hparent]
      cases stack with
      | nil => cases rooted <;> simp [pushSegment, hparent]
      | cons top rest =>
        by_cases htop : top = parent
        · subst htop
          simp [pushSegment_parent_parent, hparent]
        · rw [List.map_cons, pushSegment_parent_cons ((hf top).not.mpr htop),
            pushSegment_parent_cons htop]
    · rw [pushSegment_of_ne ((hf s).not.mpr hs), pushSegment_of_ne hs, List.map_cons]
  suffices hfold : ∀ stack : List Segment, (segments.map f).foldl (pushSegment rooted)
      (stack.map f) = (segments.foldl (pushSegment rooted) stack).map f by
    unfold resolveSegments
    rw [List.map_reverse, ← hfold []]
    rfl
  intro stack
  induction segments generalizing stack with
  | nil => rfl
  | cons s segments ih => rw [List.map_cons, List.foldl_cons, List.foldl_cons, hpush, ih]

theorem resolveSegments_append (a b : List Segment) :
    resolveSegments true (a ++ b) = resolveSegments true (resolveSegments true a ++ b) := by
  have ha : (resolveSegments true a).foldl (pushSegment true) [] =
      (resolveSegments true a).reverse ++ [] := foldl_names (parent_not_mem_resolveSegments a)
  have hback : (resolveSegments true a).reverse = a.foldl (pushSegment true) [] :=
    List.reverse_reverse _
  rw [resolveSegments, resolveSegments, List.foldl_append, List.foldl_append, ha,
    List.append_nil, hback]

/-- The normal form of a relative path leads from every place to where the path leads. The double
dots that are left in it stand in front, so the induction is on the end of the path. -/
theorem foldl_resolveSegments (stack : List Segment) (segments : List Segment) :
    (resolveSegments false segments).foldl (pushSegment rooted) stack =
      segments.foldl (pushSegment rooted) stack := by
  induction segments using List.reverseRecOn with
  | nil => rfl
  | append_singleton segments s ih =>
    have hstep : resolveSegments false (segments ++ [s]) =
        (pushSegment false (segments.foldl (pushSegment false) []) s).reverse := by
      rw [resolveSegments, List.foldl_append, List.foldl_cons, List.foldl_nil]
    rw [hstep, List.foldl_append, List.foldl_cons, List.foldl_nil, ← ih, resolveSegments]
    generalize segments.foldl (pushSegment false) [] = resolved
    by_cases hs : s = parent
    · subst hs
      cases resolved with
      | nil => rfl
      | cons top rest =>
        by_cases htop : top = parent
        · subst htop
          rw [pushSegment_parent_parent, List.reverse_cons, List.foldl_append]
          rfl
        · rw [pushSegment_parent_cons htop, List.reverse_cons, List.foldl_append, List.foldl_cons,
            List.foldl_nil, pushSegment_of_ne htop, pushSegment_parent_cons htop]
    · rw [pushSegment_of_ne hs, List.reverse_cons, List.foldl_append]
      simp only [List.foldl_cons, List.foldl_nil, pushSegment_of_ne hs]

theorem resolveSegments_append_resolve (a b : List Segment) :
    resolveSegments rooted (a ++ resolveSegments false b) = resolveSegments rooted (a ++ b) := by
  unfold resolveSegments
  rw [List.foldl_append, List.foldl_append]
  exact congrArg List.reverse (foldl_resolveSegments _ b)

@[simp] theorem resolveSegments_resolveSegments (rooted : Bool) (segments : List Segment) :
    resolveSegments rooted (resolveSegments rooted segments) = resolveSegments rooted segments := by
  cases rooted with
  | true => exact resolveSegments_names (parent_not_mem_resolveSegments segments)
  | false => exact resolveSegments_append_resolve [] segments

@[simp] theorem normal_normal (p : Path) : p.normal.normal = p.normal :=
  congrArg (Path.mk p.root) (resolveSegments_resolveSegments p.isAbsolute p.segments)

end Resolve

section Steps

theorem resolve_climb (front : List Segment) {source : List Segment} (h : parent ∉ source)
    (target : List Segment) :
    resolveSegments true (front ++ (source ++ (List.replicate source.length parent ++ target))) =
      resolveSegments true (front ++ target) := by
  have hback : parent ∉ source.reverse := by rwa [List.mem_reverse]
  have hclimb : (List.replicate source.length parent).foldl (pushSegment true)
      (source.reverse ++ front.foldl (pushSegment true) []) =
        front.foldl (pushSegment true) [] := by
    rw [← List.length_reverse, foldl_climb hback]
  unfold resolveSegments
  simp only [List.foldl_append, foldl_names h, hclimb]

/-- The steps are taken after a common beginning, which grows as the two places are compared. -/
theorem resolve_front_stepsBetween (front : List Segment) {source target : List Segment}
    (hs : parent ∉ source) (ht : parent ∉ target) :
    resolveSegments true (front ++ (source ++ stepsBetween source target)) =
      resolveSegments true (front ++ target) := by
  induction source generalizing front target with
  | nil => cases target <;> rfl
  | cons a source ih =>
    cases target with
    | nil =>
      have hclimb := resolve_climb front hs []
      exact hclimb
    | cons b target =>
      rw [stepsBetween]
      split
      · next hab =>
        subst hab
        simp only [List.mem_cons, not_or] at hs ht
        have hnext := ih (front ++ [a]) hs.2 ht.2
        simpa only [List.append_assoc, List.cons_append, List.nil_append] using hnext
      · exact resolve_climb front hs (b :: target)

theorem resolve_stepsBetween {source target : List Segment} (hs : parent ∉ source)
    (ht : parent ∉ target) : resolveSegments true (source ++ stepsBetween source target) = target :=
  (resolve_front_stepsBetween [] hs ht).trans (resolveSegments_names ht)

theorem stepsBetween_append (front source target : List Segment) :
    stepsBetween (front ++ source) (front ++ target) = stepsBetween source target := by
  induction front with
  | nil => rfl
  | cons a front ih => rw [List.cons_append, List.cons_append, stepsBetween, if_pos rfl, ih]

theorem mem_of_mem_stepsBetween {source target : List Segment} {s : Segment}
    (h : s ∈ stepsBetween source target) : s = parent ∨ s ∈ target := by
  induction source generalizing target with
  | nil => cases target <;> exact .inr h
  | cons a source ih =>
    cases target with
    | nil =>
      rw [stepsBetween, List.append_nil] at h
      · exact .inl (List.eq_of_mem_replicate h)
      · intro _ _ _ _ _ h
        cases h
    | cons b target =>
      rw [stepsBetween] at h
      split at h
      · exact (ih h).imp_right (List.mem_cons_of_mem _)
      · rcases List.mem_append.mp h with h | h
        · exact .inl (List.eq_of_mem_replicate h)
        · exact .inr h

end Steps

end RouterLayer.Path
