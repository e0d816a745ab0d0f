import RouterLayer.Proofs.FileTree.Basic
import RouterLayer.Proofs.Outcome
import RouterLayer.Proofs.Path.Text

/-!
Where paths lead. Names that are followed one by one lead from a place to another one (`Leads`).
Only directories and links have a part in that, so in two trees with the same links the same names
lead to the same place, if they lead anywhere in both (`Leads.unique`).
-/

set_option autoImplicit false

namespace RouterLayer.FileTree

/-- A name that leads into a directory, not to the directory itself or out of it. -/
def IsStep (name : Segment) : Prop := name ≠ [] ∧ name ≠ Path.here ∧ name ≠ Path.parent

instance (name : Segment) : Decidable (IsStep name) :=
  inferInstanceAs (Decidable (_ ∧ _ ∧ _))

theorem isStep_of_isProper {name : Segment} (h : isProper name = true) : IsStep name := by
  obtain ⟨hnil, hhere, hparent, -, -⟩ := isProper_iff.mp h
  exact ⟨hnil, hhere, hparent⟩

section Canonical

variable {s : Segment}

theorem canonical_eq_parent : s.canonical = Path.parent ↔ s = Path.parent :=
  Text.canonical_eq_dots (n := 2)

theorem isStep_canonical (hname : Path.isName s = true) (hparent : s ≠ Path.parent) :
    IsStep s.canonical := by
  have hproper : s ≠ [] ∧ s ≠ Path.here := by simpa [Path.isName] using hname
  exact ⟨Text.canonical_eq_nil.not.mpr hproper.1,
    (Text.canonical_eq_dots (n := 1)).not.mpr hproper.2, canonical_eq_parent.not.mpr hparent⟩

end Canonical

inductive Leads (t : FileTree) : Place → List Segment → Place → Prop
  | done (place : Place) : Leads t place [] place
  | stay {place q : Place} {name : Segment} {rest : List Segment}
      (directory : t.find? place = some .directory) (idle : name = [] ∨ name = Path.here)
      (next : Leads t place rest q) : Leads t place (name :: rest) q
  | up {place q : Place} {rest : List Segment} (directory : t.find? place = some .directory)
      (next : Leads t place.dropLast rest q) : Leads t place (Path.parent :: rest) q
  | enter {place q : Place} {name : Segment} {rest : List Segment}
      (directory : t.find? place = some .directory) (step : IsStep name)
      (unlinked : ∀ target, t.find? (place ++ [name]) ≠ some (.link target))
      (next : Leads t (place ++ [name]) rest q) : Leads t place (name :: rest) q
  | follow {place q : Place} {name : Segment} {rest : List Segment} {target : Route}
      (directory : t.find? place = some .directory) (step : IsStep name)
      (link : t.find? (place ++ [name]) = some (.link target))
      (next : Leads t (if target.absolute then [] else place) (target.names ++ rest) q) :
      Leads t place (name :: rest) q

/-- The last name is read as it stands, even if it is the name of a link. -/
inductive Names (t : FileTree) (d : Place) (name : Segment) : Place → Prop
  | stay (idle : name = [] ∨ name = Path.here) : Names t d name d
  | up (h : name = Path.parent) : Names t d name d.dropLast
  | enter (step : IsStep name) : Names t d name (d ++ [name])

section Walk

variable {t : FileTree} {onLink : Place → List Segment → Except Fault Place} {purpose : Purpose}
  {place q : Place} {name : Segment} {rest : List Segment}

theorem walkWith_cons_ok (h : walkWith t onLink purpose place (name :: rest) = .ok q) :
    t.find? place = some .directory ∧
    ((name = [] ∨ name = Path.here) ∧ walkWith t onLink purpose place rest = .ok q ∨
      name = Path.parent ∧ walkWith t onLink purpose place.dropLast rest = .ok q ∨
      IsStep name ∧
        ((∃ target, t.find? (place ++ [name]) = some (.link target) ∧
          (rest = [] ∧ purpose = .entry ∧ q = place ++ [name] ∨
            (rest ≠ [] ∨ purpose ≠ .entry) ∧
              onLink (if target.absolute then [] else place) (target.names ++ rest) = .ok q)) ∨
        (∀ target, t.find? (place ++ [name]) ≠ some (.link target)) ∧
          walkWith t onLink purpose (place ++ [name]) rest = .ok q)) := by
  rw [walkWith] at h
  cases hplace : t.find? place with
  | none => rw [hplace] at h; cases h
  | some entry =>
    rw [hplace] at h
    cases entry with
    | file content => cases h
    | link target => cases h
    | directory =>
      refine ⟨rfl, ?_⟩
      dsimp only at h
      split at h
      · next hidle =>
        rw [Bool.or_eq_true, decide_eq_true_eq, decide_eq_true_eq] at hidle
        exact .inl ⟨hidle, h⟩
      next hidle =>
      rw [Bool.or_eq_true, decide_eq_true_eq, decide_eq_true_eq, not_or] at hidle
      split at h
      · next hparent => exact .inr (.inl ⟨hparent, h⟩)
      next hparent =>
      refine .inr (.inr ⟨⟨hidle.1, hidle.2, hparent⟩, ?_⟩)
      split at h
      · cases h
      split at h
      · cases h
      split at h
      · next target htarget =>
        refine .inl ⟨target, htarget, ?_⟩
        split at h
        · next hlast =>
          rw [Bool.and_eq_true, List.isEmpty_iff, decide_eq_true_eq] at hlast
          exact .inl ⟨hlast.1, hlast.2, (Except.ok.inj h).symm⟩
        · next hlast =>
          rw [Bool.and_eq_true, List.isEmpty_iff, decide_eq_true_eq, not_and_or] at hlast
          exact .inr ⟨hlast, h⟩
      · next hunlinked => exact .inr ⟨hunlinked, h⟩

theorem leads_of_walkWith (hpurpose : purpose ≠ .entry) {names : List Segment}
    (hlink : ∀ place names q, onLink place names = .ok q → Leads t place names q)
    (h : walkWith t onLink purpose place names = .ok q) : Leads t place names q := by
  induction names generalizing place with
  | nil =>
    cases h
    exact .done _
  | cons name rest ih =>
    obtain ⟨hplace, ⟨hidle, hnext⟩ | ⟨rfl, hnext⟩ |
      ⟨hstep, ⟨target, htarget, hnext⟩ | ⟨hunlinked, hnext⟩⟩⟩ :=
      walkWith_cons_ok h
    · exact .stay hplace hidle (ih hnext)
    · exact .up hplace (ih hnext)
    · rcases hnext with ⟨-, hentry, -⟩ | ⟨-, hnext⟩
      · exact absurd hentry hpurpose
      · exact .follow hplace hstep htarget (hlink _ _ _ hnext)
    · exact .enter hplace hstep hunlinked (ih hnext)

theorem leads_of_walk (hpurpose : purpose ≠ .entry) {links : Nat} {names : List Segment}
    (h : walk t purpose links place names = .ok q) : Leads t place names q := by
  induction links generalizing place names q with
  | zero => exact leads_of_walkWith hpurpose (fun _ _ _ hlink => by cases hlink) h
  | succ links ih => exact leads_of_walkWith hpurpose (fun _ _ _ hlink => ih hlink) h

theorem names_of_walkWith {names : List Segment}
    (hlink : ∀ place names q, onLink place (names ++ [name]) = .ok q →
      ∃ d, Leads t place names d ∧ t.find? d = some .directory ∧ Names t d name q)
    (h : walkWith t onLink .entry place (names ++ [name]) = .ok q) :
    ∃ d, Leads t place names d ∧ t.find? d = some .directory ∧ Names t d name q := by
  induction names generalizing place with
  | nil =>
    obtain ⟨hplace, ⟨hidle, hnext⟩ | ⟨hparent, hnext⟩ |
      ⟨hstep, ⟨target, htarget, hnext⟩ | ⟨hunlinked, hnext⟩⟩⟩ :=
      walkWith_cons_ok h
    all_goals refine ⟨place, .done place, hplace, ?_⟩
    · cases hnext
      exact .stay hidle
    · cases hnext
      exact .up hparent
    · rcases hnext with ⟨-, -, rfl⟩ | ⟨hne, -⟩
      · exact .enter hstep
      · exact absurd hne (by simp)
    · cases hnext
      exact .enter hstep
  | cons first rest ih =>
    obtain ⟨hplace, ⟨hidle, hnext⟩ | ⟨rfl, hnext⟩ |
      ⟨hstep, ⟨target, htarget, hnext⟩ | ⟨hunlinked, hnext⟩⟩⟩ :=
      walkWith_cons_ok h
    · obtain ⟨d, hd, hrest⟩ := ih hnext
      exact ⟨d, .stay hplace hidle hd, hrest⟩
    · obtain ⟨d, hd, hrest⟩ := ih hnext
      exact ⟨d, .up hplace hd, hrest⟩
    · rcases hnext with ⟨hnil, -, -⟩ | ⟨-, hnext⟩
      · exact absurd hnil (by simp)
      · change onLink _ (target.names ++ (rest ++ [name])) = .ok q at hnext
        rw [← List.append_assoc] at hnext
        obtain ⟨d, hd, hrest⟩ := hlink _ _ _ hnext
        exact ⟨d, .follow hplace hstep htarget hd, hrest⟩
    · obtain ⟨d, hd, hrest⟩ := ih hnext
      exact ⟨d, .enter hplace hstep hunlinked hd, hrest⟩

theorem names_of_walk {links : Nat} {names : List Segment}
    (h : walk t .entry links place (names ++ [name]) = .ok q) :
    ∃ d, Leads t place names d ∧ t.find? d = some .directory ∧ Names t d name q := by
  induction links generalizing place names q with
  | zero => exact names_of_walkWith (fun _ _ _ hlink => by cases hlink) h
  | succ links ih => exact names_of_walkWith (fun _ _ _ hlink => ih hlink) h

end Walk

section Leads

variable {t u : FileTree} {place q d : Place} {names rest : List Segment} {name : Segment}

theorem not_isStep_of_idle (h : name = [] ∨ name = Path.here) : ¬IsStep name :=
  fun hstep => h.elim hstep.1 hstep.2.1

theorem not_isStep_parent : ¬IsStep Path.parent := fun h => h.2.2 rfl

theorem parent_ne_idle : ¬(Path.parent = [] ∨ Path.parent = Path.here) := by decide

theorem Leads.of_cons (h : Leads t place (name :: rest) q) :
    ((name = [] ∨ name = Path.here) → Leads t place rest q) ∧
    (name = Path.parent → Leads t place.dropLast rest q) ∧
    (IsStep name →
      (∀ target, t.find? (place ++ [name]) = some (.link target) →
        Leads t (if target.absolute then [] else place) (target.names ++ rest) q) ∧
      ((∀ target, t.find? (place ++ [name]) ≠ some (.link target)) →
        Leads t (place ++ [name]) rest q)) := by
  cases h with
  | stay directory idle next =>
    exact ⟨fun _ => next, fun h => absurd (h ▸ idle) parent_ne_idle,
      fun h => absurd h (not_isStep_of_idle idle)⟩
  | up directory next =>
    exact ⟨fun h => absurd h parent_ne_idle, fun _ => next, fun h => absurd h not_isStep_parent⟩
  | enter directory step unlinked next =>
    exact ⟨fun h => absurd step (not_isStep_of_idle h),
      fun h => absurd (h ▸ step) not_isStep_parent,
      fun _ => ⟨fun target h => absurd h (unlinked target), fun _ => next⟩⟩
  | follow directory step link next =>
    refine ⟨fun h => absurd step (not_isStep_of_idle h),
      fun h => absurd (h ▸ step) not_isStep_parent, fun _ => ⟨fun target h => ?_, fun h => ?_⟩⟩
    · rw [link] at h
      cases h
      exact next
    · exact absurd link (h _)

theorem Leads.directory_of_cons (h : Leads t place (name :: rest) q) :
    t.find? place = some .directory := by
  cases h with
  | stay directory => exact directory
  | up directory => exact directory
  | enter directory => exact directory
  | follow directory => exact directory

theorem Leads.unique {q' : Place} (h : Leads t place names q) (hlinks : SameLinks t u)
    (h' : Leads u place names q') : q = q' := by
  induction h with
  | done place => cases h'; rfl
  | stay directory idle next ih => exact ih (h'.of_cons.1 idle)
  | up directory next ih => exact ih (h'.of_cons.2.1 rfl)
  | enter directory step unlinked next ih =>
    exact ih ((h'.of_cons.2.2 step).2 fun target h => unlinked target ((hlinks _ _).mpr h))
  | follow directory step link next ih =>
    exact ih ((h'.of_cons.2.2 step).1 _ ((hlinks _ _).mp link))

/-- More directories do not keep names from leading where they lead. -/
theorem Leads.mono (h : Leads t place names q) (hlinks : SameLinks t u)
    (hdirectory : ∀ p, t.find? p = some .directory → u.find? p = some .directory) :
    Leads u place names q := by
  induction h with
  | done place => exact .done place
  | stay directory idle next ih => exact .stay (hdirectory _ directory) idle ih
  | up directory next ih => exact .up (hdirectory _ directory) ih
  | enter directory step unlinked next ih =>
    exact .enter (hdirectory _ directory) step
      (fun target h => unlinked target ((hlinks _ _).mpr h)) ih
  | follow directory step link next ih =>
    exact .follow (hdirectory _ directory) step ((hlinks _ _).mp link) ih

theorem Leads.directory_start (h : Leads t place names q) (hq : t.find? q = some .directory) :
    t.find? place = some .directory := by
  cases names with
  | nil => cases h; exact hq
  | cons name rest => exact h.directory_of_cons

theorem Leads.of_part (h : Leads u place names q) (hq : u.find? q = some .directory)
    (hpart : ∀ p entry, u.find? p = some entry → t.find? p = some entry) :
    Leads t place names q := by
  induction h with
  | done place => exact .done place
  | stay directory idle next ih => exact .stay (hpart _ _ directory) idle (ih hq)
  | up directory next ih => exact .up (hpart _ _ directory) (ih hq)
  | enter directory step unlinked next ih =>
    refine .enter (hpart _ _ directory) step (fun target h => ?_) (ih hq)
    rw [hpart _ _ (next.directory_start hq)] at h
    cases h
  | follow directory step link next ih =>
    exact .follow (hpart _ _ directory) step (hpart _ _ link) (ih hq)

theorem Leads.append (h : Leads t place names d) (h' : Leads t d rest q) :
    Leads t place (names ++ rest) q := by
  induction h with
  | done place => exact h'
  | stay directory idle next ih => exact .stay directory idle (ih h')
  | up directory next ih => exact .up directory (ih h')
  | enter directory step unlinked next ih => exact .enter directory step unlinked (ih h')
  | follow directory step link next ih =>
    have hrest := ih h'
    rw [List.append_assoc] at hrest
    exact .follow directory step link hrest

theorem Leads.split (h : Leads t place (names ++ rest) q) :
    ∃ d, Leads t place names d ∧ Leads t d rest q := by
  generalize hall : names ++ rest = all at h
  induction h generalizing names with
  | done place =>
    obtain ⟨rfl, rfl⟩ := List.append_eq_nil_iff.mp hall
    exact ⟨place, .done place, .done place⟩
  | stay directory idle next ih =>
    rcases List.append_eq_cons_iff.mp hall with ⟨rfl, rfl⟩ | ⟨names, rfl, rfl⟩
    · exact ⟨_, .done _, .stay directory idle next⟩
    · obtain ⟨d, hd, hrest⟩ := ih rfl
      exact ⟨d, .stay directory idle hd, hrest⟩
  | up directory next ih =>
    rcases List.append_eq_cons_iff.mp hall with ⟨rfl, rfl⟩ | ⟨names, rfl, rfl⟩
    · exact ⟨_, .done _, .up directory next⟩
    · obtain ⟨d, hd, hrest⟩ := ih rfl
      exact ⟨d, .up directory hd, hrest⟩
  | enter directory step unlinked next ih =>
    rcases List.append_eq_cons_iff.mp hall with ⟨rfl, rfl⟩ | ⟨names, rfl, rfl⟩
    · exact ⟨_, .done _, .enter directory step unlinked next⟩
    · obtain ⟨d, hd, hrest⟩ := ih rfl
      exact ⟨d, .enter directory step unlinked hd, hrest⟩
  | follow directory step link next ih =>
    rcases List.append_eq_cons_iff.mp hall with ⟨rfl, rfl⟩ | ⟨names, rfl, rfl⟩
    · exact ⟨_, .done _, .follow directory step link next⟩
    · obtain ⟨d, hd, hrest⟩ := ih (List.append_assoc ..)
      exact ⟨d, .follow directory step link hd, hrest⟩

theorem Names.leads (h : Names t d name q) (hd : t.find? d = some .directory)
    (hq : ∀ target, t.find? q ≠ some (.link target)) : Leads t d [name] q := by
  cases h with
  | stay idle => exact .stay hd idle (.done _)
  | up h => exact h ▸ .up hd (.done _)
  | enter step => exact .enter hd step hq (.done _)

end Leads

def namesOf (p : Path) : List Segment := p.segments.map Text.canonical

theorem clean_append {root : Root} {segments names : List Segment}
    (hp : (Path.mk root segments).Clean) (hnames : ∀ name ∈ names, isProper name = true) :
    (Path.mk root (segments ++ names)).Clean := by
  refine ⟨fun name hname => ?_, Path.noSlash_append hp.noSlash fun name hname => ?_⟩
  · rcases List.mem_append.mp hname with hname | hname
    · exact hp.isName name hname
    · obtain ⟨hnil, hhere, -⟩ := isProper_iff.mp (hnames name hname)
      simp [Path.isName, hnil, hhere]
  · exact (isProper_iff.mp (hnames name hname)).2.2.2.1

def start (t : FileTree) (p : Path) : Place := if p.isAbsolute then [] else t.cwd

section Route

variable {p : Path} {route : Route}

theorem filter_dropLast_append {pieces : List Segment} (h : ∀ piece ∈ pieces, piece ≠ []) :
    pieces.dropLast.filter (· ≠ []) ++ pieces.getLast?.toList = pieces := by
  have hfilter : pieces.dropLast.filter (· ≠ []) = pieces.dropLast :=
    List.filter_eq_self.mpr fun piece hpiece => by
      simpa using h piece (List.dropLast_subset _ hpiece)
  rw [hfilter]
  cases pieces using List.reverseRecOn with
  | nil => rfl
  | append_singleton init last => simp

theorem namesOf_root (root : Root) {s : Text} (hs : s ≠ []) :
    Route.namesOf (root.text ++ s) = Route.namesOf s := by
  have hslash (s : Text) (h : s ≠ []) : Route.namesOf (CodePoint.char '/' :: s) =
      Route.namesOf s := by
    have hpieces : (Text.splitAll '/' s).map Text.canonical ≠ [] := by
      simpa using Text.splitAll_ne_nil '/' s
    have hsplit : Text.splitAll '/' (CodePoint.char '/' :: s) = [] :: Text.splitAll '/' s := rfl
    unfold Route.namesOf
    rw [hsplit, List.map_cons]
    dsimp only
    rw [List.dropLast_cons_of_ne_nil hpieces, List.getLast?_cons_of_ne_nil hpieces]
    rfl
  cases root with
  | none => rfl
  | single => exact hslash s hs
  | double => exact (hslash _ (List.cons_ne_nil _ s)).trans (hslash s hs)

theorem head?_eq_slash (s : Text) : s.head? = some (.char '/') ↔ Path.rootOf s ≠ .none := by
  unfold Path.rootOf
  split
  · exact iff_of_true rfl nofun
  · exact iff_of_true rfl nofun
  · exact iff_of_true rfl nofun
  · next hslash =>
    refine iff_of_false (fun h => ?_) (fun h => h rfl)
    obtain ⟨rest, rfl⟩ := List.head?_eq_some_iff.mp h
    exact hslash rest rfl

/-- The names of a path that was read from a text are found in the text again. A path without names
is written as a name that leads nowhere else. -/
theorem ofText_text_ok (hp : p.Clean) (h : Route.ofText p.text = .ok route) :
    route.absolute = p.isAbsolute ∧
      (p.segments ≠ [] ∧ route.names = namesOf p ∨
        p.segments = [] ∧ ∃ name, (name = [] ∨ name = Path.here) ∧ route.names = [name]) := by
  have hroute : route = ⟨p.text.head? = some (.char '/'), Route.namesOf p.text⟩ := by
    unfold Route.ofText at h
    repeat' split at h
    all_goals cases h
    rfl
  have habsolute : route.absolute = p.isAbsolute := by
    rw [hroute, Path.isAbsolute, decide_eq_decide, head?_eq_slash]
    have hroot : Path.rootOf p.text = p.root := congrArg Path.root (Path.ofText_text hp)
    rw [hroot]
  refine ⟨habsolute, ?_⟩
  rw [hroute]
  obtain ⟨root, segments⟩ := p
  cases segments with
  | nil =>
    refine .inr ⟨rfl, ?_⟩
    cases root with
    | none => exact ⟨Path.here, .inr rfl, by decide⟩
    | single => exact ⟨[], .inl rfl, by decide⟩
    | double => exact ⟨[], .inl rfl, by decide⟩
  | cons s rest =>
    refine .inl ⟨List.cons_ne_nil s rest, ?_⟩
    have hsplit := Text.splitAll_joinWith (List.cons_ne_nil s rest) hp.noSlash
    have hne : Text.joinWith '/' (s :: rest) ≠ [] := by
      intro hnil
      rw [hnil] at hsplit
      obtain ⟨rfl, rfl⟩ := List.cons.inj hsplit
      exact absurd (hp.isName [] List.mem_cons_self) (by decide)
    have htext : (Path.mk root (s :: rest)).text = root.text ++ Text.joinWith '/' (s :: rest) := by
      simp [Path.text]
    rw [htext, namesOf_root root hne, Route.namesOf, hsplit]
    refine filter_dropLast_append fun piece hpiece => ?_
    obtain ⟨name, hname, rfl⟩ := List.mem_map.mp hpiece
    obtain ⟨c, cs, rfl⟩ := Path.exists_cons_of_isName (hp.isName name hname)
    exact Text.canonical_eq_nil.not.mpr (List.cons_ne_nil c cs)

end Route

section Locate

variable {t : FileTree} {purpose : Purpose} {p : Path} {q : Place}

theorem walk_of_locate (hp : p.Clean) (h : t.locate purpose p.text = .ok q) :
    ∃ route, walk t purpose linkLimit (t.start p) route = .ok q ∧
      (p.segments ≠ [] ∧ route = namesOf p ∨
        p.segments = [] ∧ ∃ name, (name = [] ∨ name = Path.here) ∧ route = [name]) := by
  unfold locate at h
  split at h
  · cases h
  · next route hroute =>
    obtain ⟨habsolute, hnames⟩ := ofText_text_ok hp hroute
    rw [habsolute] at h
    exact ⟨route.names, h, hnames⟩

theorem leads_of_locate (hp : p.Clean) (hpurpose : purpose ≠ .entry)
    (h : t.locate purpose p.text = .ok q) : Leads t (t.start p) (namesOf p) q := by
  obtain ⟨route, hwalk, ⟨-, rfl⟩ | ⟨hnil, name, hidle, rfl⟩⟩ := walk_of_locate hp h
  · exact leads_of_walk hpurpose hwalk
  · rw [namesOf, hnil]
    exact (leads_of_walk hpurpose hwalk).of_cons.1 hidle

theorem names_of_locate {root : Root} {segments : List Segment} {name : Segment}
    (hp : (Path.mk root (segments ++ [name])).Clean)
    (h : t.locate .entry (Path.mk root (segments ++ [name])).text = .ok q) :
    ∃ d, Leads t (t.start ⟨root, []⟩) (segments.map Text.canonical) d ∧
      t.find? d = some .directory ∧ Names t d name.canonical q := by
  obtain ⟨route, hwalk, ⟨-, rfl⟩ | ⟨hnil, -⟩⟩ := walk_of_locate hp h
  · rw [namesOf, List.map_append] at hwalk
    exact names_of_walk hwalk
  · exact absurd hnil (by simp)

theorem locate_of_nil {root : Root} (h : t.locate purpose (Path.mk root []).text = .ok q) :
    q = t.start ⟨root, []⟩ ∧ t.find? q = some .directory := by
  have hclean : (Path.mk root []).Clean := ⟨nofun, nofun⟩
  obtain ⟨route, hwalk, ⟨hne, -⟩ | ⟨-, name, hidle, rfl⟩⟩ := walk_of_locate hclean h
  · exact absurd rfl hne
  · rw [linkLimit, walk] at hwalk
    obtain ⟨hstart, ⟨-, hnext⟩ | ⟨hparent, -⟩ | ⟨hstep, -⟩⟩ := walkWith_cons_ok hwalk
    · cases hnext
      exact ⟨rfl, hstart⟩
    · exact absurd (hparent ▸ hidle) parent_ne_idle
    · exact absurd hstep (not_isStep_of_idle hidle)

end Locate

end RouterLayer.FileTree
