import RouterLayer.Proofs.FileTree.Clear
import RouterLayer.Proofs.FileTree.Make

set_option autoImplicit false

namespace RouterLayer.FileTree

/-- Inside a part of the tree anything may happen, except that no link is left there. Outside,
nothing is lost or changed, and nothing but directories is made. -/
structure Confined (inside : Place → Prop) (t u : FileTree) : Prop where
  cwd : u.cwd = t.cwd
  unlinked : ∀ place target, inside place → u.find? place ≠ some (.link target)
  kept : ∀ place entry, ¬inside place → t.find? place = some entry → u.find? place = some entry
  fresh : ∀ place entry, ¬inside place → t.find? place = none → u.find? place = some entry →
    entry = .directory

namespace Confined

variable {inside inside' : Place → Prop} {t u v : FileTree}

theorem refl (h : ∀ place target, inside place → t.find? place ≠ some (.link target)) :
    Confined inside t t :=
  ⟨rfl, h, fun _ _ _ hfind => hfind, fun _ _ _ hnone hfind => by rw [hnone] at hfind; cases hfind⟩

theorem trans (h : Confined inside t u) (h' : Confined inside u v) : Confined inside t v := by
  refine ⟨h'.cwd.trans h.cwd, h'.unlinked, fun place entry hplace hfind => ?_,
    fun place entry hplace hnone hfind => ?_⟩
  · exact h'.kept place entry hplace (h.kept place entry hplace hfind)
  · cases hu : u.find? place with
    | none => exact h'.fresh place entry hplace hu hfind
    | some other =>
      have hother := h'.kept place other hplace hu
      rw [hfind] at hother
      cases hother
      exact h.fresh place entry hplace hnone hu

theorem congr (h : Confined inside t u) (hinside : ∀ place, inside place ↔ inside' place) :
    Confined inside' t u := by
  have heq : inside = inside' := funext fun place => propext (hinside place)
  exact heq ▸ h

theorem of_grows {made : Place → Prop}
    (hunlinked : ∀ place target, inside place → t.find? place ≠ some (.link target))
    (h : Grows made t u) : Confined inside t u :=
  ⟨h.cwd, fun place target hplace hlink =>
      hunlinked place target hplace ((h.sameLinks place target).mpr hlink),
    fun place entry _ => h.kept place entry,
    fun place entry _ hnone hfind => (h.fresh place entry hnone hfind).1⟩

end Confined

def Inside (t : FileTree) (p : Path) (other : Place) : Prop :=
  ∃ place, t.Points (t.start p) (namesOf p) place ∧ isBelow place other = true

theorem inside_iff {t : FileTree} {p : Path} {place : Place}
    (h : t.Points (t.start p) (namesOf p) place) (other : Place) :
    t.Inside p other ↔ isBelow place other = true := by
  constructor
  · rintro ⟨place', h', hbelow⟩
    rwa [h.unique h']
  · exact fun hbelow => ⟨place, h, hbelow⟩

/-- That there are no links below where a path leads can be tried out. -/
theorem unlinked_of_locate {t : FileTree} {p : Path} {place : Place} (ht : t.WellFormed)
    (hp : p.Clean) (h : t.locate .target p.text = .ok place)
    (hall : ∀ e ∈ t.entries, isBelow place e.1 = true → (e.2 matches .link _) = false) :
    ∀ other target, t.Inside p other → t.find? other ≠ some (.link target) := by
  intro other target hinside hlink
  have hbelow := (inside_iff (leads_of_locate hp (by decide) h).points other).mp hinside
  have hne : other ≠ [] := by
    rintro rfl
    rw [isBelow_nil] at hbelow
    cases hbelow
  cases hall _ ((ht.find?_eq_some hne).mp hlink) hbelow

structure Sheds (place : Place) (t u : FileTree) : Prop where
  part : PartOf u t
  kept : ∀ other, isBelow place other = false → u.find? other = t.find? other

namespace Sheds

variable {place : Place} {name : Segment} {t u v : FileTree}

theorem refl (place : Place) (t : FileTree) : Sheds place t t :=
  ⟨.refl t, fun _ _ => rfl⟩

theorem trans (h : Sheds place t u) (h' : Sheds place u v) : Sheds place t v :=
  ⟨h'.part.trans h.part, fun other hother => (h'.kept other hother).trans (h.kept other hother)⟩

theorem clear (t : FileTree) (place : Place) (name : Segment) :
    Sheds place t (t.clear (place ++ [name])) := by
  refine ⟨partOf_clear t _, fun other hother => ?_⟩
  rw [find?_clear, if_neg]
  rw [isBelow_iff]
  rintro ⟨names, -, rfl⟩
  rw [List.append_assoc, isBelow_append (by simp)] at hother
  cases hother

theorem erase (t : FileTree) (place : Place) (name : Segment) :
    Sheds place t (t.erase (place ++ [name])) := by
  have hne : place ++ [name] ≠ [] := by simp
  refine ⟨⟨rfl, fun other entry hfind => ?_⟩, fun other hother => ?_⟩
  · rw [find?_erase t _ hne] at hfind
    split at hfind
    · cases hfind
    · exact hfind
  · rw [find?_erase t _ hne, if_neg]
    rintro rfl
    rw [isBelow_append (by simp)] at hother
    cases hother

theorem confined {inside : Place → Prop} (h : Sheds place t u)
    (hunlinked : ∀ other target, inside other → t.find? other ≠ some (.link target))
    (hinside : ∀ other, isBelow place other = true → inside other) : Confined inside t u := by
  have houtside {other : Place} (hother : ¬inside other) : isBelow place other = false :=
    Bool.not_eq_true _ ▸ fun hbelow => hother (hinside other hbelow)
  refine ⟨h.part.cwd, fun other target hother hlink => ?_, fun other entry hother hfind => ?_,
    fun other entry hother hnone hfind => ?_⟩
  · exact hunlinked other target hother (h.part.find other _ hlink)
  · rw [h.kept other (houtside hother), hfind]
  · rw [h.kept other (houtside hother), hnone] at hfind
    cases hfind

end Sheds

section Remove

variable {t u : FileTree} {root : Root} {segments : List Segment} {place : Place}
  (hpath : (Path.mk root segments).Clean)
  (hleads : Leads t (t.start ⟨root, segments⟩) (namesOf ⟨root, segments⟩) place)
include hpath hleads

/-- A directory that was emptied and then was not found again stays. -/
theorem sheds_remove {name : Segment} (hname : isProper name = true) (hpart : PartOf u t) :
    Sheds place u (u.remove ⟨root, segments ++ [name]⟩).tree := by
  have hclean := clean_append hpath (List.forall_mem_singleton.mpr hname)
  unfold remove
  cases hlocate : u.locate .entry (Path.mk root (segments ++ [name])).text with
  | error e => exact .refl place u
  | ok q =>
    have hq := locate_of_partOf hleads hclean hname hpart hlocate
    subst hq
    dsimp only
    cases u.find? (place ++ [name]) with
    | none => exact .refl place u
    | some entry =>
      cases entry with
      | file content => exact .erase u place name
      | link target => exact .erase u place name
      | directory =>
        have hcleared := Sheds.clear u place name
        dsimp only
        cases hagain : (u.clear (place ++ [name])).locate .entry
            (Path.mk root (segments ++ [name])).text with
        | error e => exact hcleared
        | ok q =>
          have hq := locate_of_partOf hleads hclean hname (hcleared.part.trans hpart) hagain
          subst hq
          exact hcleared.trans (.erase _ place name)

theorem sheds_removeEach {names : List Segment} (hnames : ∀ name ∈ names, isProper name = true)
    (hpart : PartOf u t) : Sheds place u (u.removeEach ⟨root, segments⟩ names).tree := by
  induction names generalizing u with
  | nil => exact .refl place u
  | cons name rest ih =>
    obtain ⟨hname, hrest⟩ := List.forall_mem_cons.mp hnames
    have hremoved := sheds_remove hpath hleads hname hpart
    rw [removeEach]
    dsimp only
    split
    · exact hremoved
    · exact hremoved.trans (ih hrest (hremoved.part.trans hpart))

theorem sheds_emptyDirectory (ht : t.WellFormed) :
    Sheds place t (t.emptyDirectory ⟨root, segments⟩).tree := by
  unfold emptyDirectory
  cases hlocate : t.locate .target (Path.mk root segments).text with
  | error e => exact .refl place t
  | ok q =>
    have hq := hleads.unique (.refl t) (leads_of_locate hpath (by decide) hlocate)
    subst hq
    exact sheds_removeEach hpath hleads (fun _ => ht.proper_of_mem_namesIn) (.refl t)

end Remove

end RouterLayer.FileTree
