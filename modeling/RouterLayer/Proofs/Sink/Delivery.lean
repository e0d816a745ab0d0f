import RouterLayer.Proofs.Run.Course
import RouterLayer.Proofs.Sink.Refinement

set_option autoImplicit false

namespace RouterLayer

namespace FileTree

/-- What a reset and a save leave: files below a place, and directories that were made for them.
Elsewhere all is as it was, except for directories that were made on the way to the place, as the
links were before the reset or as they are after it. -/
structure Filled (t : FileTree) (root : Path) (place : Place) (files : List (Text × Text))
    (u : FileTree) : Prop where
  points : t.Points (t.start root) (namesOf root) place
  rooted : Rooted u root place
  written : (u.filesBelow place).Perm files
  directories : ∀ other, isBelow place other = true → u.find? other = some .directory →
    (t.unlinkBelow place).MadeFor root place files other
  kept : ∀ other entry, isBelow place other = false → t.find? other = some entry →
    u.find? other = some entry
  fresh : ∀ other entry, isBelow place other = false → t.find? other = none →
    u.find? other = some entry →
      entry = .directory ∧ (t.OnWay root other ∨ (t.unlinkBelow place).OnWay root other)

section

variable {t e u : FileTree} {root : Path} {place : Place} {files : List (Text × Text)}

theorem isBelow_file (path : Text) : isBelow place (place ++ Text.splitAll '/' path) = true :=
  isBelow_append (Text.splitAll_ne_nil '/' path)

theorem Emptied.onWay (h : Emptied t root place e) (ht : t.WellFormed) {other : Place}
    (hway : e.OnWay root other) : (t.unlinkBelow place).OnWay root other :=
  hway.of_sameLinks h.cwd (h.sameLinks ht)

theorem Saved.perm (h : Saved e root place files u)
    (hempty : ∀ other, isBelow place other = true → e.find? other = none)
    (hnodup : (OrderedMap.keys files).Nodup) (hplain : ∀ f ∈ files, isPlain f.1 = true) :
    (u.filesBelow place).Perm files := by
  have hmirrors : FileSink.Mirrors root place ⟨u, []⟩ ⟨files, true, 0⟩ := by
    refine ⟨h.rooted, List.nodup_nil, nofun, hnodup, hplain, fun names hnames hproper => ?_⟩
    have hnone : e.fileAt (place ++ names) = none := by
      rw [fileAt, hempty _ (isBelow_append hnames)]
    rw [h.written names hnames hproper, hnone, Option.or_none, OrderedMap.latest?_of_nodup hnodup]
    rfl
  exact hmirrors.perm rfl

theorem Emptied.filled (h : Emptied t root place e) (ht : t.WellFormed)
    (hsaved : Saved e root place files u) (hnodup : (OrderedMap.keys files).Nodup)
    (hplain : ∀ f ∈ files, isPlain f.1 = true) : Filled t root place files u := by
  have houtside {other : Place} (hother : isBelow place other = false) :
      ¬∃ f ∈ files, other = place ++ Text.splitAll '/' f.1 := by
    rintro ⟨f, -, rfl⟩
    rw [isBelow_file] at hother
    cases hother
  refine ⟨h.points, hsaved.rooted, hsaved.perm h.empty hnodup hplain, ?_, ?_, ?_⟩
  · intro other hbelow hdirectory
    rcases hsaved.fresh other _ (h.empty other hbelow) hdirectory with
      ⟨-, hway | hfront⟩ | ⟨f, hf, hother⟩
    · exact .inl (h.onWay ht hway)
    · exact .inr hfront
    · exact .inr ⟨f, hf, _, List.prefix_refl _, hother⟩
  · intro other entry hbelow hother
    exact (hsaved.kept other entry (h.kept other entry hbelow hother)).resolve_right
      (houtside hbelow)
  · intro other entry hbelow hnone hother
    cases hempty : e.find? other with
    | none =>
      obtain ⟨hentry, hway | ⟨f, hf, names, -, rfl⟩⟩ :=
        (hsaved.fresh other entry hempty hother).resolve_right (houtside hbelow)
      · exact ⟨hentry, .inr (h.onWay ht hway)⟩
      -- in front of a file there is the place itself, or what lies below it
      · by_cases hnames : names = []
        · rw [hnames, List.append_nil, h.there] at hempty
          cases hempty
        · rw [isBelow_append hnames] at hbelow
          cases hbelow
    | some first =>
      have hfirst := (hsaved.kept other first hempty).resolve_right (houtside hbelow)
      rw [hother] at hfirst
      cases hfirst
      obtain ⟨hentry, hway⟩ := h.fresh other entry hnone hempty
      exact ⟨hentry, .inl hway⟩

end

end FileTree

namespace FileSink

open FileTree

variable {t u : FileTree} {root : Path} {place : Place} {s s' : FileSink}
  {files : List (Text × Text)}

theorem deliver_eq (s : FileSink) (files : List (Text × Text)) :
    Run.deliver (sink root) s files = save root ⟨s.tree, s.pending.merge files⟩ := by
  have hfold (s : FileSink) : files.foldl (fun s f => (sink root).createFile s f.1 f.2) s =
      ⟨s.tree, s.pending.merge files⟩ := by
    induction files generalizing s with
    | nil => rfl
    | cons f rest ih => exact ih _
  rw [Run.deliver, hfold]
  rfl

theorem saveAll_of_deliver (hempty : s.pending = []) (hnodup : (OrderedMap.keys files).Nodup)
    (h : Run.deliver (sink root) s files = ⟨s', .ok ()⟩) :
    saveAll root s.tree files = ⟨s'.tree, .ok ()⟩ := by
  have hmerge : OrderedMap.merge s.pending files = files := by
    rw [hempty]
    exact OrderedMap.merge_of_nodup hnodup
  rw [deliver_eq, hmerge] at h
  exact (save_eq_ok h).2

theorem deliver_ok (ht : t.WellFormed) (hroot : root.Clean) (hsteady : t.Steady root)
    (hreset : Emptied t root place s.tree) (hempty : s.pending = [])
    (hnodup : (OrderedMap.keys files).Nodup) (hplain : ∀ f ∈ files, isPlain f.1 = true)
    (h : Run.deliver (sink root) s files = ⟨s', .ok ()⟩) :
    Filled t root place files s'.tree := by
  have hsaved := saveAll_ok (hreset.rooted ht hsteady) hroot hplain
    (saveAll_of_deliver hempty hnodup h)
  exact hreset.filled ht hsaved hnodup hplain

section Encodable

theorem isEncodable_of_write {p : Path} {content : Text} (h : t.write p content = ⟨u, .ok ()⟩) :
    content.isEncodable = true := by
  unfold write at h
  split at h
  · cases h
  · split at h
    · cases h
    · next hcontent _ => exact Text.isEncodable_of_toString? hcontent
    · cases h

theorem isEncodable_of_saveAll (h : saveAll root t files = ⟨u, .ok ()⟩) :
    ∀ f ∈ files, f.2.isEncodable = true := by
  induction files generalizing t with
  | nil => nofun
  | cons f rest ih =>
    obtain ⟨path, content⟩ := f
    rw [saveAll] at h
    cases hwritten : t.writeBelow (pathOf root path) content with
    | mk w outcome =>
      rw [hwritten] at h
      cases outcome with
      | error e => cases h
      | ok _ =>
        refine List.forall_mem_cons.mpr ⟨?_, ih h⟩
        unfold writeBelow at hwritten
        dsimp only at hwritten
        split at hwritten
        · cases hwritten
        · exact isEncodable_of_write hwritten

end Encodable

section Failure

variable {e : Failure}

theorem reset_eq_error (h : reset root s = ⟨s', .error e⟩) : ∃ fault, e = .files fault := by
  unfold reset at h
  dsimp only at h
  split at h
  · cases h
    exact ⟨_, rfl⟩
  · split at h
    · cases h
    · cases h
      exact ⟨_, rfl⟩

theorem deliver_eq_error (h : Run.deliver (sink root) s files = ⟨s', .error e⟩) :
    ∃ fault, e = .files fault := by
  rw [deliver_eq] at h
  unfold save at h
  dsimp only at h
  split at h
  · cases h
  · cases h
    exact ⟨_, rfl⟩

end Failure

end FileSink

end RouterLayer
