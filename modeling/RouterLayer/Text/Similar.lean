import RouterLayer.Text.Basic

set_option autoImplicit false

namespace RouterLayer.Text

def agreement : Text → Text → Nat
  | c :: cs, d :: ds => if c = d then agreement cs ds + 1 else 0
  | _, _ => 0

structure SharedRun where
  left : Nat
  right : Nat
  length : Nat
  deriving DecidableEq, Repr

def sharedRuns (a b : Text) : List SharedRun :=
  (List.range a.length).flatMap fun i =>
    (List.range b.length).map fun j => ⟨i, j, agreement (a.drop i) (b.drop j)⟩

def SharedRun.longer (best run : SharedRun) : SharedRun :=
  if best.length < run.length then run else best

/-- The longest run; of several, the one that begins first in the first text, and of these the one
that begins first in the second text. -/
def longestRun (a b : Text) : SharedRun := (sharedRuns a b).foldl SharedRun.longer ⟨0, 0, 0⟩

theorem agreement_le (a b : Text) : agreement a b ≤ a.length := by
  induction a generalizing b with
  | nil => exact Nat.le_refl 0
  | cons c cs ih =>
    cases b with
    | nil => exact Nat.zero_le _
    | cons d ds =>
      rw [agreement]
      split
      · exact Nat.succ_le_succ (ih ds)
      · exact Nat.zero_le _

theorem sharedRuns_inside {a b : Text} {run : SharedRun} (h : run ∈ sharedRuns a b) :
    run.left + run.length ≤ a.length := by
  obtain ⟨i, hi, h⟩ := List.mem_flatMap.mp h
  obtain ⟨j, -, rfl⟩ := List.mem_map.mp h
  have hagree := agreement_le (a.drop i) (b.drop j)
  rw [List.length_drop] at hagree
  have hinside := List.mem_range.mp hi
  dsimp only
  omega

theorem longestRun_inside (a b : Text) :
    (longestRun a b).left + (longestRun a b).length ≤ a.length := by
  refine List.foldlRecOn (motive := fun run : SharedRun => run.left + run.length ≤ a.length) _ _
    (Nat.zero_le _) fun best hbest run hrun => ?_
  rw [SharedRun.longer]
  split
  · exact sharedRuns_inside hrun
  · exact hbest

/-- How many code points two texts share: those of the longest run, and what the parts before it
and the parts after it share. -/
def shared (a b : Text) : Nat :=
  let run := longestRun a b
  if 0 < run.length then
    shared (a.take run.left) (b.take run.right) + run.length +
      shared (a.drop (run.left + run.length)) (b.drop (run.right + run.length))
  else 0
termination_by a.length
decreasing_by
  all_goals
    have hinside := longestRun_inside a b
    simp +zetaDelta only [List.length_take, List.length_drop] at *
    omega

/-- Of two texts that are alike, the shared parts make up three fifths. -/
def isAlike (word s : Text) : Bool := 3 * (s.length + word.length) ≤ 5 * (2 * shared s word)

/-- Whether the first of two texts is more like a word than the second one, or as much like it and
not before the second one in the order of their code points. -/
def isNearer (word a b : Text) : Bool :=
  let nearness (s other : Text) : Nat := shared s word * (other.length + word.length)
  nearness b a < nearness a b || (nearness b a = nearness a b && decide (b ≤ a))

def nearest (word : Text) (texts : List Text) : List Text :=
  ((texts.filter (isAlike word)).mergeSort (isNearer word)).take 3

end RouterLayer.Text
