import RouterLayer.Proofs.FileTree.Make

set_option autoImplicit false

namespace RouterLayer.FileTree

/-- Names lead from a place to another one over no more links than may be followed, and no name on
the way is too long. -/
inductive Walks (t : FileTree) : Nat → Place → List Segment → Place → Prop
  | done (links : Nat) (place : Place) : Walks t links place [] place
  | stay {links : Nat} {place q : Place} {name : Segment} {rest : List Segment}
      (directory : t.find? place = some .directory) (idle : name = [] ∨ name = Path.here)
      (next : Walks t links place rest q) : Walks t links place (name :: rest) q
  | up {links : Nat} {place q : Place} {rest : List Segment}
      (directory : t.find? place = some .directory) (next : Walks t links place.dropLast rest q) :
      Walks t links place (Path.parent :: rest) q
  | enter {links : Nat} {place q : Place} {name : Segment} {rest : List Segment}
      (directory : t.find? place = some .directory) (step : IsStep name)
      (short : Route.isTooLong name = false)
      (unlinked : ∀ target, t.find? (place ++ [name]) ≠ some (.link target))
      (next : Walks t links (place ++ [name]) rest q) : Walks t links place (name :: rest) q
  | follow {links : Nat} {place q : Place} {name : Segment} {rest : List Segment} {target : Route}
      (directory : t.find? place = some .directory) (step : IsStep name)
      (short : Route.isTooLong name = false)
      (link : t.find? (place ++ [name]) = some (.link target))
      (next : Walks t links (if target.absolute then [] else place) (target.names ++ rest) q) :
      Walks t (links + 1) place (name :: rest) q

theorem entry_ne_content : Purpose.entry ≠ .content := nofun

theorem target_ne_content : Purpose.target ≠ .content := nofun

theorem target_ne_entry : Purpose.target ≠ .entry := nofun

section Steps

variable {t : FileTree} {purpose : Purpose} {links : Nat} {place d : Place} {name : Segment}
  {rest : List Segment} {onLink : Place → List Segment → Except Fault Place}

theorem walk_eq_walkWith (t : FileTree) (purpose : Purpose) (links : Nat) :
    ∃ onLink, walk t purpose links = walkWith t onLink purpose := by
  cases links <;> exact ⟨_, rfl⟩

theorem walk_idle (hd : t.find? d = some .directory) (hidle : name = [] ∨ name = Path.here) :
    walk t purpose links d (name :: rest) = walk t purpose links d rest := by
  obtain ⟨onLink, hwalk⟩ := walk_eq_walkWith t purpose links
  have hname : (decide (name = []) || decide (name = Path.here)) = true := by simpa using hidle
  rw [hwalk, walkWith, hd]
  exact if_pos hname

theorem walk_parent (hd : t.find? d = some .directory) :
    walk t purpose links d (Path.parent :: rest) = walk t purpose links d.dropLast rest := by
  obtain ⟨onLink, hwalk⟩ := walk_eq_walkWith t purpose links
  rw [hwalk, walkWith, hd]
  rfl

theorem walkWith_step (hd : t.find? d = some .directory) (hstep : IsStep name)
    (hshort : Route.isTooLong name = false) (hslash : purpose ≠ .content ∨ rest ≠ [[]]) :
    walkWith t onLink purpose d (name :: rest) =
      match t.find? (d ++ [name]) with
      | some (.link target) =>
        if rest.isEmpty && purpose = .entry then .ok (d ++ [name])
        else onLink (if target.absolute then [] else d) (target.names ++ rest)
      | _ => walkWith t onLink purpose (d ++ [name]) rest := by
  have hidle : ¬(decide (name = []) || decide (name = Path.here)) = true := by
    simpa using ⟨hstep.1, hstep.2.1⟩
  have hclosed : ¬(decide (purpose = .content) && decide (rest = [[]])) = true := by
    simpa [imp_iff_not_or] using hslash
  rw [walkWith, hd]
  dsimp only
  rw [if_neg hidle, if_neg hstep.2.2, if_neg hclosed, hshort]
  rfl

theorem walk_enter (hd : t.find? d = some .directory) (hstep : IsStep name)
    (hshort : Route.isTooLong name = false) (hslash : purpose ≠ .content ∨ rest ≠ [[]])
    (hunlinked : ∀ target, t.find? (d ++ [name]) ≠ some (.link target)) :
    walk t purpose links d (name :: rest) = walk t purpose links (d ++ [name]) rest := by
  obtain ⟨onLink, hwalk⟩ := walk_eq_walkWith t purpose links
  rw [hwalk, walkWith_step hd hstep hshort hslash]
  split
  · next target hlink => exact absurd hlink (hunlinked target)
  · rfl

theorem walk_follow {target : Route} (hd : t.find? d = some .directory) (hstep : IsStep name)
    (hshort : Route.isTooLong name = false) (hslash : purpose ≠ .content ∨ rest ≠ [[]])
    (hlink : t.find? (d ++ [name]) = some (.link target)) (hlast : rest ≠ [] ∨ purpose ≠ .entry) :
    walk t purpose (links + 1) d (name :: rest) =
      walk t purpose links (if target.absolute then [] else d) (target.names ++ rest) := by
  have hgoes : ¬(rest.isEmpty && decide (purpose = .entry)) = true := by
    simpa [imp_iff_not_or] using hlast
  rw [walk, walkWith_step hd hstep hshort hslash, hlink]
  exact if_neg hgoes

theorem walk_entry (hd : t.find? d = some .directory) (hstep : IsStep name)
    (hshort : Route.isTooLong name = false) : walk t .entry links d [name] = .ok (d ++ [name]) := by
  obtain ⟨onLink, hwalk⟩ := walk_eq_walkWith t .entry links
  rw [hwalk, walkWith_step hd hstep hshort (.inl entry_ne_content)]
  split <;> rfl

theorem walk_of_none (hplace : t.find? place = none) (hrest : rest ≠ []) :
    walk t purpose links place rest = .error .missing := by
  obtain ⟨onLink, hwalk⟩ := walk_eq_walkWith t purpose links
  obtain ⟨name, rest, rfl⟩ := List.exists_cons_of_ne_nil hrest
  rw [hwalk, walkWith, hplace]

theorem short_of_walkWith {q : Place} (hstep : IsStep name)
    (h : walkWith t onLink purpose place (name :: rest) = .ok q) :
    Route.isTooLong name = false := by
  rw [← Bool.not_eq_true]
  intro hlong
  have hidle : ¬(decide (name = []) || decide (name = Path.here)) = true := by
    simpa using ⟨hstep.1, hstep.2.1⟩
  rw [walkWith, if_neg hidle, if_neg hstep.2.2, if_pos hlong] at h
  repeat' split at h
  all_goals cases h

end Steps

section Walks

variable {t u w : FileTree} {links : Nat} {place q q' d : Place} {names rest : List Segment}

theorem walks_of_walkWith {onLink : Place → List Segment → Except Fault Place}
    (hlink : ∀ place names target d name rest, t.find? d = some .directory → IsStep name →
      Route.isTooLong name = false → t.find? (d ++ [name]) = some (.link target) →
      place = (if target.absolute then [] else d) → names = target.names ++ rest →
      onLink place names = .ok q → Walks t links d (name :: rest) q)
    (h : walkWith t onLink .target place names = .ok q) : Walks t links place names q := by
  induction names generalizing place with
  | nil =>
    cases h
    exact .done links _
  | cons name rest ih =>
    obtain ⟨hplace, ⟨hidle, hnext⟩ | ⟨rfl, hnext⟩ |
      ⟨hstep, ⟨target, htarget, hnext⟩ | ⟨hunlinked, hnext⟩⟩⟩ :=
      walkWith_cons_ok h
    · exact .stay hplace hidle (ih hnext)
    · exact .up hplace (ih hnext)
    · rcases hnext with ⟨-, hentry, -⟩ | ⟨-, hnext⟩
      · cases hentry
      · exact hlink _ _ target place name rest hplace hstep (short_of_walkWith hstep h) htarget rfl
          rfl hnext
    · exact .enter hplace hstep (short_of_walkWith hstep h) hunlinked (ih hnext)

theorem walks_iff : Walks t links place names q ↔ walk t .target links place names = .ok q := by
  constructor
  · intro h
    induction h with
    | done links place => obtain ⟨_, hwalk⟩ := walk_eq_walkWith t .target links; rw [hwalk]; rfl
    | stay directory idle next ih => rw [walk_idle directory idle, ih]
    | up directory next ih => rw [walk_parent directory, ih]
    | enter directory step short unlinked next ih =>
      rw [walk_enter directory step short (.inl target_ne_content) unlinked, ih]
    | follow directory step short link next ih =>
      rw [walk_follow directory step short (.inl target_ne_content) link (.inr target_ne_entry), ih]
  · intro h
    induction links generalizing place names q with
    | zero => exact walks_of_walkWith (fun _ _ _ _ _ _ _ _ _ _ _ _ hnext => by cases hnext) h
    | succ links ih =>
      refine walks_of_walkWith (fun _ _ target d name rest hd hstep hshort htarget hplace hnames
        hnext => ?_) h
      subst hplace hnames
      exact .follow hd hstep hshort htarget (ih hnext)

theorem Walks.leads (h : Walks t links place names q) : Leads t place names q :=
  leads_of_walk (by decide) (walks_iff.mp h)

theorem walk_append {purpose : Purpose} (h : Walks t links place names d) (hrest : rest ≠ [])
    (hslash : purpose ≠ .content ∨ rest.head? ≠ some []) :
    ∃ left, walk t purpose links place (names ++ rest) = walk t purpose left d rest := by
  have hlast (before : List Segment) : purpose ≠ .content ∨ before ++ rest ≠ [[]] := by
    refine hslash.imp_right fun hhead happend => ?_
    rcases List.append_eq_singleton_iff.mp happend with ⟨-, rfl⟩ | ⟨-, rfl⟩
    · exact hhead rfl
    · exact hrest rfl
  induction h with
  | done links place => exact ⟨links, rfl⟩
  | stay directory idle next ih =>
    rw [List.cons_append, walk_idle directory idle]
    exact ih
  | up directory next ih =>
    rw [List.cons_append, walk_parent directory]
    exact ih
  | enter directory step short unlinked next ih =>
    rw [List.cons_append, walk_enter directory step short (hlast _) unlinked]
    exact ih
  | follow directory step short link next ih =>
    rw [List.cons_append, walk_follow directory step short (hlast _) link
      (.inl (List.append_ne_nil_of_right_ne_nil _ hrest)), ← List.append_assoc]
    exact ih

theorem Walks.append (h : Walks t links place names d) (h' : ∀ left, Walks t left d rest q) :
    Walks t links place (names ++ rest) q := by
  induction h with
  | done links place => exact h' links
  | stay directory idle next ih => exact .stay directory idle (ih h')
  | up directory next ih => exact .up directory (ih h')
  | enter directory step short unlinked next ih =>
    exact .enter directory step short unlinked (ih h')
  | follow directory step short link next ih =>
    have hrest := ih h'
    rw [List.append_assoc] at hrest
    exact .follow directory step short link hrest

theorem Walks.split (h : Walks t links place (names ++ rest) q) :
    ∃ d left, Walks t links place names d ∧ Walks t left d rest q := by
  generalize hall : names ++ rest = all at h
  induction h generalizing names with
  | done links place =>
    obtain ⟨rfl, rfl⟩ := List.append_eq_nil_iff.mp hall
    exact ⟨place, links, .done links place, .done links place⟩
  | stay directory idle next ih =>
    rcases List.append_eq_cons_iff.mp hall with ⟨rfl, rfl⟩ | ⟨names, rfl, rfl⟩
    · exact ⟨_, _, .done _ _, .stay directory idle next⟩
    · obtain ⟨d, left, hd, hrest⟩ := ih rfl
      exact ⟨d, left, .stay directory idle hd, hrest⟩
  | up directory next ih =>
    rcases List.append_eq_cons_iff.mp hall with ⟨rfl, rfl⟩ | ⟨names, rfl, rfl⟩
    · exact ⟨_, _, .done _ _, .up directory next⟩
    · obtain ⟨d, left, hd, hrest⟩ := ih rfl
      exact ⟨d, left, .up directory hd, hrest⟩
  | enter directory step short unlinked next ih =>
    rcases List.append_eq_cons_iff.mp hall with ⟨rfl, rfl⟩ | ⟨names, rfl, rfl⟩
    · exact ⟨_, _, .done _ _, .enter directory step short unlinked next⟩
    · obtain ⟨d, left, hd, hrest⟩ := ih rfl
      exact ⟨d, left, .enter directory step short unlinked hd, hrest⟩
  | follow directory step short link next ih =>
    rcases List.append_eq_cons_iff.mp hall with ⟨rfl, rfl⟩ | ⟨names, rfl, rfl⟩
    · exact ⟨_, _, .done _ _, .follow directory step short link next⟩
    · obtain ⟨d, left, hd, hrest⟩ := ih (List.append_assoc ..)
      exact ⟨d, left, .follow directory step short link hd, hrest⟩

/-- A walk of names that lead to a directory in another tree is a walk in that one, if it has its
links from the first and makes no directory of any other. -/
theorem walks_of_leads (h : Walks u links place names q) (hleads : Leads w place names q')
    (hq' : w.find? q' = some .directory)
    (hlink : ∀ p target, w.find? p = some (.link target) → u.find? p = some (.link target))
    (hback : ∀ p target, u.find? p = some (.link target) → w.find? p ≠ some .directory) :
    Walks w links place names q' := by
  induction h with
  | done links place =>
    cases hleads
    exact .done links _
  | stay directory idle next ih =>
    exact .stay (hleads.directory_start hq') idle (ih (hleads.of_cons.1 idle))
  | up directory next ih => exact .up (hleads.directory_start hq') (ih (hleads.of_cons.2.1 rfl))
  | enter directory step short unlinked next ih =>
    have hfree (target : Route) := mt (hlink _ target) (unlinked target)
    exact .enter (hleads.directory_start hq') step short hfree
      (ih ((hleads.of_cons.2.2 step).2 hfree))
  | @follow _ place _ name _ _ directory step short link next ih =>
    obtain ⟨hfollow, henter⟩ := hleads.of_cons.2.2 step
    by_cases hfree : ∀ target, w.find? (place ++ [name]) ≠ some (.link target)
    · exact absurd ((henter hfree).directory_start hq') (hback _ _ link)
    · obtain ⟨target, htarget⟩ := not_forall_not.mp hfree
      have hsame := hlink _ _ htarget
      rw [link] at hsame
      cases hsame
      exact .follow (hleads.directory_start hq') step short htarget
        (ih (hfollow _ htarget))

/-- What names lead to is found, or a link to it is, if the last name is read as it stands. -/
theorem entry_of_walks (h : Walks t links place names q) (hnames : names ≠ [])
    (hq : t.find? q ≠ none) :
    ∃ q', walk t .entry links place names = .ok q' ∧ t.find? q' ≠ none := by
  have hnil (links : Nat) (place : Place) : walk t .entry links place [] = .ok place := by
    obtain ⟨_, hwalk⟩ := walk_eq_walkWith t .entry links
    rw [hwalk]
    rfl
  induction h with
  | done => exact absurd rfl hnames
  | @stay links place _ _ rest directory idle next ih =>
    rw [walk_idle directory idle]
    by_cases hrest : rest = []
    · subst hrest
      exact ⟨place, hnil links place, by rw [directory]; nofun⟩
    · exact ih hrest hq
  | @up links place q rest directory next ih =>
    rw [walk_parent directory]
    by_cases hrest : rest = []
    · subst hrest
      cases next
      exact ⟨_, hnil links _, hq⟩
    · exact ih hrest hq
  | @enter links place q name rest directory step short unlinked next ih =>
    rw [walk_enter directory step short (.inl entry_ne_content) unlinked]
    by_cases hrest : rest = []
    · subst hrest
      cases next
      exact ⟨_, hnil links _, hq⟩
    · exact ih hrest hq
  | @follow links place q name rest target directory step short link next ih =>
    by_cases hrest : rest = []
    · subst hrest
      exact ⟨_, walk_entry directory step short, by rw [link]; nofun⟩
    · rw [walk_follow directory step short (.inl entry_ne_content) link (.inl hrest)]
      exact ih (List.append_ne_nil_of_right_ne_nil _ hrest) hq

end Walks

/-- The system takes a path: it can be written in bytes, none of which is zero, and neither the path
nor one of its names is too long. -/
def takes (p : Path) : Bool :=
  (Route.ofText p.text).isOk && (namesOf p).all fun name => !Route.isTooLong name

section Takes

variable {t : FileTree} {purpose : Purpose} {p : Path} {root : Root} {segments rest : List Segment}

theorem isOk_ofText_iff {s : Text} : (Route.ofText s).isOk = true ↔ ∃ bytes,
    s.bytes? = some bytes ∧ (0 : UInt8) ∉ bytes ∧ bytes ≠ [] ∧
      bytes.length ≤ Route.longestPath := by
  unfold Route.ofText
  cases s.bytes? with
  | none => simp [Except.isOk, Except.toBool]
  | some bytes =>
    simp only [Option.some.injEq, exists_eq_left', ← Nat.not_lt]
    by_cases hzero : (0 : UInt8) ∈ bytes
    · simp [hzero, Except.isOk, Except.toBool]
    by_cases hempty : bytes = []
    · simp [hempty, Except.isOk, Except.toBool]
    by_cases hlong : Route.longestPath < bytes.length <;>
      simp [hzero, hempty, hlong, Except.isOk, Except.toBool]

theorem isOk_ofText_front {s more : Text} (hs : s ≠ [])
    (h : (Route.ofText (s ++ more)).isOk = true) : (Route.ofText s).isOk = true := by
  obtain ⟨bytes, hbytes, hzero, -, hlength⟩ := isOk_ofText_iff.mp h
  rw [Text.bytes?_append, Option.bind_eq_some_iff] at hbytes
  obtain ⟨front, hfront, hbytes⟩ := hbytes
  obtain ⟨others, -, rfl⟩ := Option.map_eq_some_iff.mp hbytes
  refine isOk_ofText_iff.mpr
    ⟨front, hfront, fun hmem => hzero (List.mem_append_left _ hmem), ?_, ?_⟩
  · rintro rfl
    obtain ⟨c, s, rfl⟩ := List.exists_cons_of_ne_nil hs
    rw [Text.bytes?_cons, Option.bind_eq_some_iff] at hfront
    obtain ⟨point, hpoint, hfront⟩ := hfront
    obtain ⟨others, -, hnil⟩ := Option.map_eq_some_iff.mp hfront
    exact Text.pointBytes?_ne_nil c ((List.append_eq_nil_iff.mp hnil).1 ▸ hpoint)
  · rw [List.length_append] at hlength
    omega

theorem joinWith_append {sep : CodePoint} {pieces more : List Text} (hpieces : pieces ≠ [])
    (hmore : more ≠ []) : Text.joinWith sep (pieces ++ more) =
      Text.joinWith sep pieces ++ sep :: Text.joinWith sep more := by
  induction pieces with
  | nil => exact absurd rfl hpieces
  | cons piece pieces ih =>
    cases pieces with
    | nil =>
      obtain ⟨next, more, rfl⟩ := List.exists_cons_of_ne_nil hmore
      rfl
    | cons next pieces =>
      have hcons (others : List Text) : Text.joinWith sep (piece :: next :: others) =
          piece ++ sep :: Text.joinWith sep (next :: others) := rfl
      rw [hcons, List.cons_append, List.cons_append, hcons, ← List.cons_append,
        ih (List.cons_ne_nil next pieces), List.append_assoc, List.cons_append]

theorem isOk_text_nil (root : Root) : (Route.ofText (Path.mk root []).text).isOk = true := by
  cases root <;> decide +kernel

theorem isOk_text_front (hp : (Path.mk root (segments ++ rest)).Clean)
    (h : (Route.ofText (Path.mk root (segments ++ rest)).text).isOk = true) :
    (Route.ofText (Path.mk root segments).text).isOk = true := by
  by_cases hsegments : segments = []
  · rw [hsegments]
    exact isOk_text_nil root
  by_cases hrest : rest = []
  · rwa [hrest, List.append_nil] at h
  have hwritten (segments : List Segment) (hne : segments ≠ []) :
      (Path.mk root segments).text = root.text ++ Text.joinWith '/' segments := by
    simp [Path.text, hne]
  have hjoined : Text.joinWith '/' segments ≠ [] := by
    intro hnil
    have hsplit := Text.splitAll_joinWith hsegments fun s hs =>
      hp.noSlash s (List.mem_append_left _ hs)
    rw [hnil] at hsplit
    have hmem : [] ∈ segments := by rw [← hsplit]; exact List.mem_singleton_self []
    exact absurd (hp.isName [] (List.mem_append_left _ hmem)) (by decide)
  rw [hwritten _ (List.append_ne_nil_of_left_ne_nil hsegments _),
    joinWith_append hsegments hrest, ← List.append_assoc] at h
  rw [hwritten _ hsegments]
  exact isOk_ofText_front (List.append_ne_nil_of_right_ne_nil _ hjoined) h

theorem takes_front (hp : (Path.mk root (segments ++ rest)).Clean)
    (h : takes ⟨root, segments ++ rest⟩ = true) : takes ⟨root, segments⟩ = true := by
  obtain ⟨htext, hnames⟩ := Bool.and_eq_true_iff.mp h
  rw [namesOf, List.map_append, List.all_append] at hnames
  exact Bool.and_eq_true_iff.mpr ⟨isOk_text_front hp htext, (Bool.and_eq_true_iff.mp hnames).1⟩

theorem short_of_takes (h : takes p = true) {name : Segment} (hname : name ∈ p.segments) :
    Route.isTooLong name.canonical = false := by
  have hall := List.all_eq_true.mp (Bool.and_eq_true_iff.mp h).2 _ (List.mem_map_of_mem hname)
  simpa using hall

theorem isOk_of_locate {s : Text} {q : Place} (h : t.locate purpose s = .ok q) :
    (Route.ofText s).isOk = true := by
  unfold locate at h
  cases hroute : Route.ofText s with
  | error e => rw [hroute] at h; cases h
  | ok route => rfl

theorem locate_eq_walk (hp : p.Clean) (h : (Route.ofText p.text).isOk = true)
    (hsegments : p.segments ≠ []) :
    t.locate purpose p.text = walk t purpose linkLimit (t.start p) (namesOf p) := by
  obtain ⟨route, hroute⟩ := exists_ok h
  obtain ⟨habsolute, ⟨-, hnames⟩ | ⟨hnil, -⟩⟩ := ofText_text_ok hp hroute
  · rw [locate, hroute, ← hnames, start, ← habsolute]
  · exact absurd hnil hsegments

theorem locate_nil (hstart : t.find? (t.start ⟨root, []⟩) = some .directory) :
    t.locate purpose (Path.mk root []).text = .ok (t.start ⟨root, []⟩) := by
  have hclean : (Path.mk root []).Clean := ⟨nofun, nofun⟩
  obtain ⟨route, hroute⟩ := exists_ok (isOk_text_nil root)
  obtain ⟨habsolute, ⟨hne, -⟩ | ⟨-, name, hidle, hnames⟩⟩ := ofText_text_ok hclean hroute
  · exact absurd rfl hne
  · have hplace : (if route.absolute then [] else t.cwd) = t.start ⟨root, []⟩ := by
      rw [start, ← habsolute]
    rw [locate, hroute]
    dsimp only
    rw [hplace, hnames, walk_idle hstart hidle]
    obtain ⟨_, hwalk⟩ := walk_eq_walkWith t purpose linkLimit
    rw [hwalk]
    rfl

end Takes

structure Keeps (t u : FileTree) : Prop where
  cwd : u.cwd = t.cwd
  links : SameLinks t u
  directories : ∀ p, t.find? p = some .directory → u.find? p = some .directory

namespace Keeps

variable {t u v : FileTree}

theorem refl (t : FileTree) : Keeps t t := ⟨rfl, .refl t, fun _ h => h⟩

theorem trans (h : Keeps t u) (h' : Keeps u v) : Keeps t v :=
  ⟨h'.cwd.trans h.cwd, h.links.trans h'.links, fun p hp => h'.directories p (h.directories p hp)⟩

theorem start (h : Keeps t u) (p : Path) : u.start p = t.start p := by
  rw [FileTree.start, FileTree.start, h.cwd]

theorem onWay (h : Keeps t u) {p : Path} {q : Place} (hq : u.OnWay p q) : t.OnWay p q :=
  hq.of_sameLinks h.cwd h.links

end Keeps

theorem Grows.keeps {made : Place → Prop} {t u : FileTree} (h : Grows made t u) : Keeps t u :=
  ⟨h.cwd, h.sameLinks, fun p => h.kept p _⟩

def Reaches (t : FileTree) (p : Path) (d : Place) : Prop :=
  t.locate .target p.text = .ok d ∧ t.find? d = some .directory

section Reaches

variable {t u w : FileTree} {p : Path} {d q : Place}

theorem reaches_iff (hp : p.Clean) (hok : (Route.ofText p.text).isOk = true)
    (hstart : t.find? (t.start p) = some .directory) : t.Reaches p d ↔
      Walks t linkLimit (t.start p) (namesOf p) d ∧ t.find? d = some .directory := by
  refine and_congr_left fun _ => ?_
  by_cases hsegments : p.segments = []
  · obtain ⟨root, segments⟩ := p
    cases hsegments
    rw [locate_nil hstart, namesOf, List.map_nil, walks_iff]
    obtain ⟨_, hwalk⟩ := walk_eq_walkWith t .target linkLimit
    rw [hwalk]
    rfl
  · rw [locate_eq_walk hp hok hsegments, walks_iff]

namespace Reaches

theorem leads (h : t.Reaches p d) (hp : p.Clean) : Leads t (t.start p) (namesOf p) d :=
  leads_of_locate hp (by decide) h.1

theorem directory_start (h : t.Reaches p d) (hp : p.Clean) :
    t.find? (t.start p) = some .directory := (h.leads hp).directory_start h.2

theorem walks (h : t.Reaches p d) (hp : p.Clean) :
    Walks t linkLimit (t.start p) (namesOf p) d :=
  ((reaches_iff hp (isOk_of_locate h.1) (h.directory_start hp)).mp h).1

theorem isDirectory (h : t.Reaches p d) : t.isDirectory p = true := isDirectory_iff.mpr ⟨d, h⟩

theorem front {root : Root} {segments rest : List Segment}
    (h : t.Reaches ⟨root, segments ++ rest⟩ d) (hp : (Path.mk root (segments ++ rest)).Clean) :
    ∃ q, t.Reaches ⟨root, segments⟩ q := by
  have hwalks := h.walks hp
  rw [namesOf, List.map_append] at hwalks
  obtain ⟨q, left, hq, hrest⟩ := hwalks.split
  have hfront : (Path.mk root segments).Clean :=
    hp.of_subset (List.subset_append_left segments rest)
  have hok := isOk_text_front hp (isOk_of_locate h.1)
  exact ⟨q, (reaches_iff hfront hok (h.directory_start hp)).mpr
    ⟨hq, hrest.leads.directory_start h.2⟩⟩

theorem of_leads (h : u.Reaches p d) (hp : p.Clean) (hcwd : w.cwd = u.cwd)
    (hleads : Leads w (w.start p) (namesOf p) q) (hq : w.find? q = some .directory)
    (hlink : ∀ p target, w.find? p = some (.link target) → u.find? p = some (.link target))
    (hback : ∀ p target, u.find? p = some (.link target) → w.find? p ≠ some .directory) :
    w.Reaches p q := by
  have hstart : w.start p = u.start p := by rw [start, start, hcwd]
  refine (reaches_iff hp (isOk_of_locate h.1) (hleads.directory_start hq)).mpr ⟨?_, hq⟩
  rw [hstart] at hleads ⊢
  exact walks_of_leads (h.walks hp) hleads hq hlink hback

theorem of_keeps (h : t.Reaches p d) (hp : p.Clean) (hkeeps : Keeps t u) : u.Reaches p d := by
  refine h.of_leads hp hkeeps.cwd ?_ (hkeeps.directories d h.2)
    (fun q target => (hkeeps.links q target).mpr) ?_
  · rw [hkeeps.start]
    exact (h.leads hp).mono hkeeps.links hkeeps.directories
  · intro q target hlink hother
    rw [(hkeeps.links q target).mp hlink] at hother
    cases hother

end Reaches

end Reaches

end RouterLayer.FileTree
