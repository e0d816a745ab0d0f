import RouterLayer.Path.Drive
import RouterLayer.Proofs.Path.Text

set_option autoImplicit false

namespace RouterLayer

theorem Text.mem_of_mem_splitAll {sep c : CodePoint} {cs piece : Text}
    (h : piece ∈ splitAll sep cs) (hc : c ∈ piece) : c ∈ cs := by
  induction cs generalizing piece with
  | nil => rwa [List.mem_singleton.mp h] at hc
  | cons d cs ih =>
    rw [splitAll] at h
    split at h
    · rcases List.mem_cons.mp h with rfl | h
      · cases hc
      · exact List.mem_cons_of_mem _ (ih h hc)
    · split at h
      · rw [List.mem_singleton.mp h] at hc
        exact List.mem_cons.mpr (.inl (List.mem_singleton.mp hc))
      · next first pieces hsplit =>
        rw [hsplit] at ih
        rcases List.mem_cons.mp h with rfl | h
        · exact (List.mem_cons.mp hc).elim (fun h => h ▸ List.mem_cons_self)
            fun hc => List.mem_cons_of_mem _ (ih List.mem_cons_self hc)
        · exact List.mem_cons_of_mem _ (ih (List.mem_cons_of_mem _ h) hc)

namespace Path

structure CleanFront (front : Text) : Prop where
  isName : front = [] ∨ isName front = true
  noSlash : CodePoint.char '/' ∉ front

variable {s : Text}

theorem isName_of_mem {c : CodePoint} (h : c ∈ s) (hc : c ≠ .char '.') : isName s = true := by
  have hne : s ≠ [] := List.ne_nil_of_mem h
  have hhere : s ≠ here := by
    rintro rfl
    exact hc (List.mem_singleton.mp h)
  simp [isName, hne, hhere]

theorem noSlash_splitMark (h : CodePoint.char '/' ∉ s) :
    CodePoint.char '/' ∉ (splitMark s).1 ∧ CodePoint.char '/' ∉ (splitMark s).2 := by
  unfold splitMark
  split
  · split
    · simp_all [Text.ofString, Text.ofChars]
    · simp_all [Text.ofString, Text.ofChars]
  · exact ⟨List.not_mem_nil, h⟩

theorem clean_splitShare? (h : CodePoint.char '/' ∉ s) {share rest : Text}
    (hsplit : splitShare? s = some (share, rest)) :
    (∃ tail, share = .char '\\' :: tail) ∧ CodePoint.char '/' ∉ share ∧
      CodePoint.char '/' ∉ rest := by
  unfold splitShare? at hsplit
  split at hsplit
  · split at hsplit
    · cases hsplit
    · split at hsplit
      · cases hsplit
      · next server following hserver =>
        obtain ⟨rfl, -⟩ := Text.cut?_eq_some.mp hserver
        split at hsplit
        · cases hsplit
        · split at hsplit
          · cases hsplit
            simp_all [Text.ofString, Text.ofChars]
          · next name names hname =>
            obtain ⟨rfl, -⟩ := Text.cut?_eq_some.mp hname
            cases hsplit
            simp_all [Text.ofString, Text.ofChars]
  · cases hsplit

theorem clean_splitLetter (h : CodePoint.char '/' ∉ s) :
    CleanFront (splitLetter s).1 ∧ CodePoint.char '/' ∉ (splitLetter s).2 := by
  fun_cases splitLetter s with
  | case1 drive tail hdrive =>
    have hparts : CodePoint.char '/' ∉ drive ∧ CodePoint.char '/' ∉ tail := by
      split at hdrive
      · split at hdrive <;> cases hdrive <;> simp_all
      · cases hdrive
        simp_all
    refine ⟨⟨.inr ?_, ?_⟩, fun hmem => ?_⟩
    · exact isName_of_mem (c := .char '\\') (by simp [Text.ofString, Text.ofChars]) (by decide)
    · simp [Text.ofString, Text.ofChars, hparts.1]
    · have hback := (List.dropWhile_sublist fun c => decide (c = CodePoint.char '\\')).subset hmem
      rcases List.mem_cons.mp hback with hslash | hslash
      · cases hslash
      · exact hparts.2 hslash
  | case2 drive rest hdrive =>
    split at hdrive
    · split at hdrive
      · cases hdrive
        refine ⟨⟨.inr (isName_of_mem (c := .char ':') (by simp) (by decide)), ?_⟩, ?_⟩ <;> simp_all
      · cases hdrive
        exact ⟨⟨.inl rfl, List.not_mem_nil⟩, h⟩
    · cases hdrive
      exact ⟨⟨.inl rfl, List.not_mem_nil⟩, h⟩

theorem clean_splitDrive (h : CodePoint.char '/' ∉ s) :
    CleanFront (splitDrive s).1 ∧ CodePoint.char '/' ∉ (splitDrive s).2 := by
  obtain ⟨hmark, hnames⟩ := noSlash_splitMark h
  have hlong : (splitMark s).1 = [] ∨ CodePoint.char '\\' ∈ (splitMark s).1 := by
    unfold splitMark
    split
    · split <;> simp [Text.ofString, Text.ofChars]
    · exact .inl rfl
  unfold splitDrive
  generalize splitMark s = marked at hmark hnames hlong ⊢
  obtain ⟨mark, names⟩ := marked
  dsimp only at hmark hnames hlong ⊢
  split
  · next share rest hshare =>
    obtain ⟨⟨tail, rfl⟩, hslash, hrest⟩ := clean_splitShare? hnames hshare
    refine ⟨?_, hrest⟩
    dsimp only
    split
    · exact ⟨.inr (isName_of_mem List.mem_cons_self (by decide)), hslash⟩
    · next hmarked =>
      have hmem := hlong.resolve_left fun hnil => hmarked (List.isEmpty_iff.mpr hnil)
      refine ⟨.inr (isName_of_mem (List.mem_append_left _ hmem) (by decide)), ?_⟩
      simp_all
  · obtain ⟨⟨hname, hslash⟩, hrest⟩ := clean_splitLetter hnames
    refine ⟨⟨?_, by simp [hmark, hslash]⟩, hrest⟩
    rcases hlong with hnil | hmem
    · rwa [hnil, List.nil_append]
    · exact .inr (isName_of_mem (List.mem_append_left _ hmem) (by decide))

theorem clean_ofDriveText (s : Text) : (ofDriveText s).Clean := by
  have hslash : CodePoint.char '/' ∉
      s.map fun (c : CodePoint) => (if c = '/' then '\\' else c : CodePoint) := by
    intro hmem
    obtain ⟨c, -, hc⟩ := List.mem_map.mp hmem
    split at hc
    · cases hc
    · next hne => exact hne hc
  obtain ⟨⟨hname, hfront⟩, hnames⟩ := clean_splitDrive hslash
  have hrest : ∀ t ∈ (Text.splitAll '\\' _).filter isName, isName t = true ∧
      CodePoint.char '/' ∉ t := fun t ht =>
    ⟨(List.mem_filter.mp ht).2, fun hc =>
      hnames (Text.mem_of_mem_splitAll (List.mem_filter.mp ht).1 hc)⟩
  suffices hall : ∀ t ∈ (ofDriveText s).segments, isName t = true ∧ CodePoint.char '/' ∉ t from
    ⟨fun t ht => (hall t ht).1, fun t ht => (hall t ht).2⟩
  unfold ofDriveText
  dsimp only
  split
  · exact hrest
  · next hsome =>
    refine List.forall_mem_cons.mpr ⟨⟨?_, hfront⟩, hrest⟩
    exact hname.resolve_left fun hnil => hsome (List.isEmpty_iff.mpr hnil)

end Path

end RouterLayer
