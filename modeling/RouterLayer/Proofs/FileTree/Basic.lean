import RouterLayer.FileTree.Basic
import RouterLayer.Proofs.Text.Bytes
import Mathlib.Data.List.Induction

set_option autoImplicit false

namespace RouterLayer

namespace FileTree

/-- A name that an entry can have. It is one step of a path, and it is the text that its bytes are
read as. -/
def isProper (name : Segment) : Bool :=
  name ≠ [] && name ≠ Path.here && name ≠ Path.parent && !name.contains (.char '/') &&
    name.canonical = name

theorem isProper_iff {name : Segment} : isProper name = true ↔
    name ≠ [] ∧ name ≠ Path.here ∧ name ≠ Path.parent ∧ CodePoint.char '/' ∉ name ∧
      name.canonical = name := by
  simp [isProper, and_assoc]

structure WellFormed (t : FileTree) : Prop where
  nodup : (t.entries.map (·.1)).Nodup
  proper : ∀ e ∈ t.entries, ∀ name ∈ e.1, isProper name = true
  nested : ∀ e ∈ t.entries, e.1 ≠ [] ∧ t.find? e.1.dropLast = some .directory

theorem lookup_filter_place (f : Place → Bool) (entries : List (Place × Entry)) (place : Place) :
    (entries.filter fun e => f e.1).lookup place =
      if f place then entries.lookup place else none := by
  induction entries with
  | nil => simp
  | cons e rest ih =>
    obtain ⟨p, entry⟩ := e
    by_cases hp : place = p
    · subst hp
      cases hf : f place <;> simp [hf, ih]
    · have hbeq : (place == p) = false := by simpa using hp
      cases hf : f p <;> simp [hf, ih, List.lookup_cons, hbeq]

section Find

variable (t : FileTree) (place other : Place) (entry : Entry)

@[simp] theorem find?_nil : t.find? [] = some .directory := rfl

theorem find?_of_ne_nil {place : Place} (h : place ≠ []) :
    t.find? place = t.entries.lookup place := by
  rw [find?, if_neg (by simpa using h)]

theorem find?_set {place : Place} (h : place ≠ []) :
    (t.set place entry).find? other = if other = place then some entry else t.find? other := by
  by_cases hother : other = []
  · subst hother
    rw [if_neg (Ne.symm h)]
    rfl
  · rw [find?_of_ne_nil _ hother, find?_of_ne_nil _ hother, set, List.lookup_append,
      lookup_filter_place (fun p => decide (p ≠ place))]
    by_cases heq : other = place
    · simp [heq]
    · have hbeq : (other == place) = false := by simpa using heq
      simp [heq, List.lookup_cons, hbeq]

theorem find?_erase {place : Place} (h : place ≠ []) :
    (t.erase place).find? other = if other = place then none else t.find? other := by
  by_cases hother : other = []
  · subst hother
    rw [if_neg (Ne.symm h)]
    rfl
  · rw [find?_of_ne_nil _ hother, find?_of_ne_nil _ hother, erase,
      lookup_filter_place (fun p => decide (p ≠ place))]
    by_cases heq : other = place <;> simp [heq]

theorem isBelow_iff {place other : Place} :
    isBelow place other = true ↔ ∃ names, names ≠ [] ∧ other = place ++ names := by
  simp only [isBelow, Bool.and_eq_true, List.isPrefixOf_iff_prefix, decide_eq_true_eq]
  constructor
  · rintro ⟨⟨names, rfl⟩, hne⟩
    exact ⟨names, fun h => hne (by rw [h, List.append_nil]), rfl⟩
  · rintro ⟨names, hne, rfl⟩
    exact ⟨⟨names, rfl⟩, fun h => hne (List.append_right_eq_self.mp h.symm)⟩

theorem isBelow_append {place : Place} {names : List Segment} (h : names ≠ []) :
    isBelow place (place ++ names) = true := isBelow_iff.mpr ⟨names, h, rfl⟩

@[simp] theorem isBelow_nil (place : Place) : isBelow place [] = false := by
  rw [← Bool.not_eq_true, isBelow_iff]
  rintro ⟨names, hne, h⟩
  exact hne (List.append_eq_nil_iff.mp h.symm).2

@[simp] theorem isBelow_self (place : Place) : isBelow place place = false := by
  simp [isBelow]

theorem find?_clear : (t.clear place).find? other =
    if isBelow place other then none else t.find? other := by
  by_cases hother : other = []
  · subst hother
    rw [isBelow_nil]
    rfl
  · rw [find?_of_ne_nil _ hother, find?_of_ne_nil _ hother, clear,
      lookup_filter_place (fun p => !isBelow place p)]
    cases isBelow place other <;> rfl

end Find

theorem find?_eq_some_of_nodup {t : FileTree} (hnodup : (t.entries.map (·.1)).Nodup)
    {place : Place} {entry : Entry} (hplace : place ≠ []) :
    t.find? place = some entry ↔ (place, entry) ∈ t.entries := by
  rw [find?_of_ne_nil t hplace]
  generalize t.entries = entries at hnodup
  induction entries with
  | nil => simp
  | cons e rest ih =>
    obtain ⟨p, other⟩ := e
    rw [List.map_cons, List.nodup_cons] at hnodup
    rw [List.mem_cons, List.lookup_cons]
    by_cases hp : place = p
    · subst hp
      have hrest : (place, entry) ∉ rest := fun hmem =>
        hnodup.1 (List.mem_map.mpr ⟨_, hmem, rfl⟩)
      simp [hrest, eq_comm]
    · have hbeq : (place == p) = false := by simpa using hp
      simp [hbeq, hp, ih hnodup.2]

def restrict (t : FileTree) (keep : Place × Entry → Bool) : FileTree :=
  ⟨t.cwd, t.entries.filter keep⟩

namespace WellFormed

variable {t : FileTree} (h : t.WellFormed)
include h

theorem find?_eq_some {place : Place} {entry : Entry} (hplace : place ≠ []) :
    t.find? place = some entry ↔ (place, entry) ∈ t.entries :=
  find?_eq_some_of_nodup h.nodup hplace

theorem directory_dropLast {place : Place} {entry : Entry} (hfind : t.find? place = some entry) :
    t.find? place.dropLast = some .directory := by
  by_cases hplace : place = []
  · rw [hplace]
    rfl
  · exact (h.nested _ ((h.find?_eq_some hplace).mp hfind)).2

theorem directory_of_append {place : Place} {names : List Segment} {entry : Entry}
    (hnames : names ≠ []) (hfind : t.find? (place ++ names) = some entry) :
    t.find? place = some .directory := by
  induction names using List.reverseRecOn generalizing entry with
  | nil => exact absurd rfl hnames
  | append_singleton names name ih =>
    have hparent := h.directory_dropLast hfind
    rw [← List.append_assoc, List.dropLast_concat] at hparent
    by_cases hrest : names = []
    · rwa [hrest, List.append_nil] at hparent
    · exact ih hrest hparent

theorem proper_of_find? {place : Place} {entry : Entry} (hfind : t.find? place = some entry) :
    ∀ name ∈ place, isProper name = true := by
  by_cases hplace : place = []
  · rw [hplace]
    nofun
  · exact h.proper _ ((h.find?_eq_some hplace).mp hfind)

theorem nodup_restrict (keep : Place × Entry → Bool) :
    ((t.restrict keep).entries.map (·.1)).Nodup :=
  h.nodup.sublist (List.filter_sublist.map Prod.fst)

theorem find?_restrict (keep : Place × Entry → Bool) {place : Place} {entry : Entry}
    (hplace : place ≠ []) : (t.restrict keep).find? place = some entry ↔
      t.find? place = some entry ∧ keep (place, entry) = true := by
  rw [find?_eq_some_of_nodup (h.nodup_restrict keep) hplace, h.find?_eq_some hplace]
  exact List.mem_filter

/-- An entry can be set in a directory, under a proper name. A directory is not replaced by it. -/
theorem set {place : Place} {name : Segment} {entry : Entry} (hname : isProper name = true)
    (hparent : t.find? place = some .directory)
    (hkeeps : t.find? (place ++ [name]) = some .directory → entry = .directory) :
    (t.set (place ++ [name]) entry).WellFormed := by
  have hne : place ++ [name] ≠ [] := by simp
  have hdirectory (other : Place) (hother : t.find? other = some .directory) :
      (t.set (place ++ [name]) entry).find? other = some .directory := by
    rw [find?_set t _ _ hne]
    split
    · next heq => rw [hkeeps (heq ▸ hother)]
    · exact hother
  refine ⟨?_, ?_, ?_⟩
  · rw [FileTree.set, List.map_append, List.nodup_append]
    refine ⟨h.nodup_restrict fun e => decide (e.1 ≠ place ++ [name]), by simp,
      fun a ha b hb hab => ?_⟩
    obtain ⟨e, he, rfl⟩ := List.mem_map.mp ha
    rw [List.map_singleton, List.mem_singleton] at hb
    exact absurd (hab.trans hb) (by simpa using (List.mem_filter.mp he).2)
  · intro e he
    rcases List.mem_append.mp he with he | he
    · exact h.proper e (List.mem_of_mem_filter he)
    · rw [List.mem_singleton.mp he]
      intro other hother
      rcases List.mem_append.mp hother with hother | hother
      · exact h.proper_of_find? hparent other hother
      · rwa [List.mem_singleton.mp hother]
  · intro e he
    rcases List.mem_append.mp he with he | he
    · obtain ⟨hne, hnested⟩ := h.nested e (List.mem_of_mem_filter he)
      exact ⟨hne, hdirectory _ hnested⟩
    · rw [List.mem_singleton.mp he]
      exact ⟨hne, by rw [List.dropLast_concat]; exact hdirectory _ hparent⟩

theorem restrict (keep : Place × Entry → Bool) (hkeep : ∀ place name entry, place ≠ [] →
      keep (place ++ [name], entry) = true → keep (place, .directory) = true) :
    (t.restrict keep).WellFormed := by
  refine ⟨h.nodup_restrict keep, fun e he => h.proper e (List.mem_of_mem_filter he),
    fun e he => ?_⟩
  obtain ⟨hmem, hkept⟩ := List.mem_filter.mp he
  obtain ⟨hne, hparent⟩ := h.nested e hmem
  refine ⟨hne, ?_⟩
  by_cases htop : e.1.dropLast = []
  · rw [htop, find?_nil]
  · refine (h.find?_restrict keep htop).mpr ⟨hparent, hkeep _ (e.1.getLast hne) e.2 htop ?_⟩
    rwa [List.dropLast_append_getLast]

theorem clear (place : Place) : (t.clear place).WellFormed := by
  refine h.restrict (fun e => !isBelow place e.1) fun other name entry _ hkept => ?_
  rw [Bool.not_eq_true', ← Bool.not_eq_true, isBelow_iff] at hkept ⊢
  rintro ⟨names, hnames, rfl⟩
  exact hkept ⟨names ++ [name], by simp, List.append_assoc ..⟩

theorem erase {place : Place}
    (hempty : ∀ other, isBelow place other = true → t.find? other = none) :
    (t.erase place).WellFormed := by
  refine ⟨h.nodup_restrict (fun e => decide (e.1 ≠ place)),
    fun e he => h.proper e (List.mem_of_mem_filter he), fun e he => ?_⟩
  obtain ⟨hmem, _⟩ := List.mem_filter.mp he
  obtain ⟨hne, hparent⟩ := h.nested e hmem
  refine ⟨hne, ?_⟩
  have hother : e.1.dropLast ≠ place := by
    intro heq
    have hbelow : isBelow place e.1 = true :=
      isBelow_iff.mpr ⟨[e.1.getLast hne], by simp, by rw [← heq, List.dropLast_append_getLast]⟩
    have hnone := hempty _ hbelow
    rw [(h.find?_eq_some hne).mpr hmem] at hnone
    cases hnone
  by_cases htop : e.1.dropLast = []
  · rw [htop, find?_nil]
  · exact (h.find?_restrict (fun e => decide (e.1 ≠ place)) htop).mpr
      ⟨hparent, by simpa using hother⟩

end WellFormed

def unlinkBelow (t : FileTree) (place : Place) : FileTree :=
  t.restrict fun e => !(isBelow place e.1 && e.2 matches .link _)

def fileFrom (place : Place) : Place × Entry → Option (Text × Text)
  | (other, .file content) =>
    if isBelow place other then
      some (Text.joinWith '/' (other.drop place.length), Text.ofString content)
    else none
  | _ => none

/-- The regular files below a place. Links are not followed. -/
def filesBelow (t : FileTree) (place : Place) : List (Text × Text) :=
  t.entries.filterMap (fileFrom place)

theorem fileFrom_eq_some {place : Place} {e : Place × Entry} {file : Text × Text} :
    fileFrom place e = some file ↔ ∃ names content, names ≠ [] ∧
      e = (place ++ names, .file content) ∧
      file = (Text.joinWith '/' names, Text.ofString content) := by
  obtain ⟨other, entry⟩ := e
  constructor
  · intro h
    cases entry with
    | file content =>
      rw [fileFrom] at h
      split at h
      · next hbelow =>
        obtain ⟨names, hnames, rfl⟩ := isBelow_iff.mp hbelow
        rw [List.drop_left] at h
        exact ⟨names, content, hnames, rfl, (Option.some.inj h).symm⟩
      · cases h
    | _ => cases h
  · rintro ⟨names, content, hnames, ⟨⟩, rfl⟩
    rw [fileFrom, isBelow_append hnames, if_pos rfl, List.drop_left]

def fileAt (t : FileTree) (place : Place) : Option Text :=
  match t.find? place with
  | some (.file content) => some (Text.ofString content)
  | _ => none

theorem fileAt_set (t : FileTree) {place : Place} (hplace : place ≠ []) (content : String)
    (other : Place) : (t.set place (.file content)).fileAt other =
      if other = place then some (Text.ofString content) else t.fileAt other := by
  rw [fileAt, find?_set t _ _ hplace]
  split
  · next hfile =>
    split at hfile
    · next heq => cases hfile; rw [if_pos heq]
    · next hne => rw [if_neg hne, fileAt, hfile]
  · next hfile =>
    split at hfile
    · exact absurd rfl (hfile content)
    · next hne =>
      rw [if_neg hne, fileAt]
      split
      · next hother => exact absurd hother (hfile _)
      · rfl

def SameLinks (t u : FileTree) : Prop :=
  ∀ place target, t.find? place = some (.link target) ↔ u.find? place = some (.link target)

theorem SameLinks.refl (t : FileTree) : SameLinks t t := fun _ _ => Iff.rfl

theorem SameLinks.symm {t u : FileTree} (h : SameLinks t u) : SameLinks u t :=
  fun place target => (h place target).symm

theorem SameLinks.trans {t u v : FileTree} (h : SameLinks t u) (h' : SameLinks u v) :
    SameLinks t v := fun place target => (h place target).trans (h' place target)

theorem joinWith_injective {names others : List Segment} (hnames : names ≠ [])
    (hothers : others ≠ []) (hproper : ∀ name ∈ names, isProper name = true)
    (hother : ∀ name ∈ others, isProper name = true)
    (h : Text.joinWith '/' names = Text.joinWith '/' others) : names = others := by
  have hslash {pieces : List Segment} (hp : ∀ name ∈ pieces, isProper name = true) :
      ∀ name ∈ pieces, CodePoint.char '/' ∉ name := fun name hname =>
    (isProper_iff.mp (hp name hname)).2.2.2.1
  rw [← Text.splitAll_joinWith hnames (hslash hproper), h,
    Text.splitAll_joinWith hothers (hslash hother)]

namespace WellFormed

variable {t : FileTree} (h : t.WellFormed)
include h

theorem find?_unlinkBelow {place other : Place} {entry : Entry} :
    (t.unlinkBelow place).find? other = some entry ↔ t.find? other = some entry ∧
      ¬(isBelow place other = true ∧ ∃ target, entry = .link target) := by
  by_cases hother : other = []
  · subst hother
    simp
  · rw [unlinkBelow, h.find?_restrict _ hother]
    cases entry <;> simp

theorem mem_filesBelow {place : Place} {path content : Text} :
    (path, content) ∈ t.filesBelow place ↔
      ∃ names, names ≠ [] ∧ path = Text.joinWith '/' names ∧
        t.fileAt (place ++ names) = some content := by
  simp only [filesBelow, List.mem_filterMap, fileFrom_eq_some]
  constructor
  · rintro ⟨_, hmem, names, c, hnames, rfl, ⟨⟩⟩
    refine ⟨names, hnames, rfl, ?_⟩
    rw [fileAt, (h.find?_eq_some (by simp [hnames])).mpr hmem]
  · rintro ⟨names, hnames, rfl, hfile⟩
    unfold fileAt at hfile
    split at hfile
    · next c hfind =>
      cases hfile
      exact ⟨_, (h.find?_eq_some (by simp [hnames])).mp hfind, names, c, hnames, rfl, rfl⟩
    · cases hfile

theorem nodup_filesBelow (place : Place) : ((t.filesBelow place).map (·.1)).Nodup := by
  rw [List.Nodup, List.pairwise_map, filesBelow, List.pairwise_filterMap]
  refine (List.pairwise_map.mp h.nodup).imp_of_mem ?_
  intro e other he hother hne file hfile file' hfile' heq
  obtain ⟨names, _, hnames, rfl, rfl⟩ := fileFrom_eq_some.mp hfile
  obtain ⟨names', _, hnames', rfl, rfl⟩ := fileFrom_eq_some.mp hfile'
  have hproper (p : Place) {c : Entry} {rest : List Segment} (hmem : (p ++ rest, c) ∈ t.entries) :
      ∀ name ∈ rest, isProper name = true := fun name hname =>
    h.proper _ hmem name (List.mem_append_right p hname)
  exact hne (congrArg (place ++ ·)
    (joinWith_injective hnames hnames' (hproper place he) (hproper place hother) heq))

end WellFormed

end FileTree

end RouterLayer
