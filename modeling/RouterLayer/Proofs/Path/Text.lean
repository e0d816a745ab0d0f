import RouterLayer.Proofs.Path.Resolve

set_option autoImplicit false

namespace RouterLayer.Path

def NoSlash (segments : List Segment) : Prop := ∀ s ∈ segments, CodePoint.char '/' ∉ s

structure Clean (p : Path) : Prop where
  isName : ∀ s ∈ p.segments, isName s = true
  noSlash : NoSlash p.segments

theorem isName_parent : isName parent = true := by decide

theorem noSlash_append {a b : List Segment} (ha : NoSlash a) (hb : NoSlash b) :
    NoSlash (a ++ b) := fun s hs => (List.mem_append.mp hs).elim (ha s) (hb s)

theorem clean_ofText (s : Text) : (ofText s).Clean where
  isName _ ht := (List.mem_filter.mp ht).2
  noSlash _ ht := Text.not_mem_of_mem_splitAll (List.mem_filter.mp ht).1

namespace Clean

variable {p q : Path}

theorem filter_isName (h : p.Clean) : p.segments.filter Path.isName = p.segments :=
  List.filter_eq_self.mpr h.isName

theorem of_subset (h : p.Clean) (hsub : q.segments ⊆ p.segments) : q.Clean :=
  ⟨fun s hs => h.isName s (hsub hs), fun s hs => h.noSlash s (hsub hs)⟩

theorem normal (h : p.Clean) : p.normal.Clean :=
  h.of_subset fun _ hs => mem_of_mem_resolveSegments hs

theorem join (hp : p.Clean) (hq : q.Clean) : (p.join q).Clean := by
  unfold Path.join
  split
  · exact hq
  · refine ⟨fun s hs => ?_, noSlash_append hp.noSlash hq.noSlash⟩
    exact (List.mem_append.mp hs).elim (hp.isName s) (hq.isName s)

end Clean

theorem exists_cons_of_isName {s : Segment} (h : isName s = true) : ∃ c cs, s = c :: cs := by
  cases s with
  | nil => cases h
  | cons c cs => exact ⟨c, cs, rfl⟩

section Root

variable {c : CodePoint} {cs : Text}

theorem rootOf_cons (h : c ≠ CodePoint.char '/') : rootOf (c :: cs) = .none := by
  unfold rootOf
  split <;> simp_all

theorem rootOf_slash (h : c ≠ CodePoint.char '/') :
    rootOf (CodePoint.char '/' :: c :: cs) = .single := by
  unfold rootOf
  split
  · rfl
  · simp_all
  · rfl
  · next hne => exact absurd rfl (hne _)

theorem rootOf_slash_slash (h : c ≠ CodePoint.char '/') :
    rootOf (CodePoint.char '/' :: CodePoint.char '/' :: c :: cs) = .double := by
  unfold rootOf
  split
  · simp_all
  · rfl
  · next hne heq => exact absurd (List.cons.inj heq).2.symm (hne _)
  · next hne => exact absurd rfl (hne _)

theorem rootOf_ne_none (cs : Text) : rootOf (CodePoint.char '/' :: cs) ≠ .none := by
  unfold rootOf
  split <;> simp_all

end Root

theorem splitAll_root (root : Root) (s : Text) :
    (Text.splitAll '/' (root.text ++ s)).filter isName = (Text.splitAll '/' s).filter isName := by
  cases root <;> rfl

theorem rootOf_append (root : Root) {s : Text} (h : ∀ c ∈ s.head?, c ≠ CodePoint.char '/') :
    rootOf (root.text ++ s) = root := by
  cases s with
  | nil => cases root <;> rfl
  | cons c cs =>
    have hc := h c rfl
    cases root with
    | none => exact rootOf_cons hc
    | single => exact rootOf_slash hc
    | double => exact rootOf_slash_slash hc

/-- An empty name in front of other names would be written as a slash. -/
theorem head_joinWith {s : Segment} {rest : List Segment} (hslash : CodePoint.char '/' ∉ s)
    (h : s ≠ [] ∨ rest = []) :
    ∀ c ∈ (Text.joinWith '/' (s :: rest)).head?, c ≠ CodePoint.char '/' := by
  rintro c hc rfl
  cases s with
  | nil =>
    rw [h.resolve_left (fun hne => hne rfl)] at hc
    cases hc
  | cons a cs =>
    have ha : a = CodePoint.char '/' := by
      cases rest <;> exact Option.some.inj hc
    exact hslash (ha ▸ List.mem_cons_self)

theorem ofText_text {p : Path} (h : p.Clean) : ofText p.text = p := by
  obtain ⟨root, segments⟩ := p
  cases segments with
  | nil => cases root <;> rfl
  | cons s rest =>
    obtain ⟨c, cs, hs⟩ := exists_cons_of_isName (h.isName s List.mem_cons_self)
    have hhead : ∀ c ∈ (Text.joinWith '/' (s :: rest)).head?, c ≠ CodePoint.char '/' :=
      head_joinWith (h.noSlash s List.mem_cons_self) (.inl (hs ▸ List.cons_ne_nil c cs))
    have htext : (Path.mk root (s :: rest)).text = root.text ++ Text.joinWith '/' (s :: rest) := by
      simp [text]
    rw [ofText, htext, rootOf_append root hhead, splitAll_root,
      Text.splitAll_joinWith (List.cons_ne_nil s rest) h.noSlash, h.filter_isName]

theorem ofText_specifierText {steps : List Segment} (h : (Path.mk .none steps).Clean) :
    ofText (specifierText steps) = ⟨.none, steps⟩ := by
  cases steps with
  | nil => rfl
  | cons s rest =>
    have hsteps : specifierText (s :: rest) = if s = parent then Text.joinWith '/' (s :: rest)
        else "./" ++ Text.joinWith '/' (s :: rest) := rfl
    rw [hsteps]
    split
    · exact ofText_text h
    · have htext : ("./" : Text) ++ Text.joinWith '/' (s :: rest) =
          Text.joinWith '/' (here :: s :: rest) := rfl
      have hslash : NoSlash (here :: s :: rest) :=
        List.forall_mem_cons.mpr ⟨by decide, h.noSlash⟩
      rw [htext, ofText, Text.splitAll_joinWith (List.cons_ne_nil _ _) hslash,
        List.filter_cons_of_neg (by decide), h.filter_isName]
      rfl

section Ending

variable {name ending : Text}

theorem ne_parent_of_ending (h : 3 ≤ ending.length) : name ++ ending ≠ parent := by
  intro hparent
  have hlength := congrArg List.length hparent
  rw [List.length_append, show parent.length = 2 from rfl] at hlength
  omega

theorem clean_ending (hname : CodePoint.char '/' ∉ name) (hending : CodePoint.char '/' ∉ ending)
    (hlong : 3 ≤ ending.length) : (Path.mk .none [name ++ ending]).Clean := by
  have hlength : (name ++ ending).length = name.length + ending.length := List.length_append
  have hproper : isName (name ++ ending) = true := by
    have hnil : name ++ ending ≠ [] := fun h => by
      rw [h, List.length_nil] at hlength; omega
    have hhere : name ++ ending ≠ here := fun h => by
      rw [h, show here.length = 1 from rfl] at hlength; omega
    simp only [isName, hnil, hhere, ne_eq, not_false_eq_true, decide_true, Bool.and_self]
  refine ⟨List.forall_mem_singleton.mpr hproper, List.forall_mem_singleton.mpr ?_⟩
  rw [List.mem_append, not_or]
  exact ⟨hname, hending⟩

end Ending

end RouterLayer.Path
