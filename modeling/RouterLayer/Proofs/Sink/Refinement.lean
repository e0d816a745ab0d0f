import Mathlib.Data.List.Nodup
import RouterLayer.Proofs.Outcome
import RouterLayer.Proofs.Sink.Files

/-!
The two kinds of sinks side by side. A sink on a tree keeps its files back until they are saved,
while a sink in memory has them at once. What both have taken is the same all along (`Mirrors`), so
after each save the files in the tree are those in memory (`mirrors_follow`).
-/

set_option autoImplicit false

namespace RouterLayer

inductive Sink.Step
  | reset
  | createFile (path content : Text)
  | save

namespace Sink

def Step.on {σ : Type} (sink : Sink σ) (s : σ) : Step → Stepped σ
  | .reset => sink.reset s
  | .createFile path content => ⟨sink.createFile s path content, .ok ()⟩
  | .save => sink.save s

def follow {σ : Type} (sink : Sink σ) (s : σ) : List Step → Except Failure σ
  | [] => .ok s
  | step :: rest =>
    match (step.on sink s).outcome with
    | .error e => .error e
    | .ok () => follow sink (step.on sink s).state rest

theorem follow_append {σ : Type} {sink : Sink σ} {s : σ} (steps others : List Step) :
    sink.follow s (steps ++ others) = sink.follow s steps >>= fun s' => sink.follow s' others := by
  induction steps generalizing s with
  | nil => rfl
  | cons step rest ih =>
    rw [List.cons_append, follow, follow]
    cases (step.on sink s).outcome with
    | error e => rfl
    | ok _ => exact ih

theorem follow_singleton {σ : Type} {sink : Sink σ} {s s' : σ} {step : Step}
    (h : sink.follow s [step] = .ok s') : step.on sink s = ⟨s', .ok ()⟩ := by
  rw [follow] at h
  cases hon : step.on sink s with
  | mk state outcome =>
    rw [hon] at h
    cases outcome with
    | error e => cases h
    | ok _ => cases h; rfl

end Sink

def MemorySink.step (m : MemorySink) (step : Sink.Step) : MemorySink :=
  (step.on MemorySink.sink m).state

theorem MemorySink.follow_eq (m : MemorySink) (steps : List Sink.Step) :
    MemorySink.sink.follow m steps = .ok (steps.foldl step m) := by
  induction steps generalizing m with
  | nil => rfl
  | cons step rest ih => cases step <;> exact ih _

namespace FileSink

open FileTree

/-- A sink on a tree and a sink in memory have taken the same files. Those that do not wait to be
saved are in the tree. -/
structure Mirrors (root : Path) (place : Place) (s : FileSink) (m : MemorySink) : Prop where
  rooted : Rooted s.tree root place
  pendingNodup : s.pending.keys.Nodup
  pendingPlain : ∀ f ∈ s.pending, isPlain f.1 = true
  filesNodup : m.files.keys.Nodup
  filesPlain : ∀ f ∈ m.files, isPlain f.1 = true
  files : ∀ names, names ≠ [] → (∀ name ∈ names, isProper name = true) →
    m.files.find? (Text.joinWith '/' names) =
      (s.pending.find? (Text.joinWith '/' names)).or (s.tree.fileAt (place ++ names))

theorem plain_put {m : OrderedMap Text} (h : ∀ f ∈ m, isPlain f.1 = true) {path : Text}
    (content : Text) (hpath : isPlain path = true) :
    ∀ f ∈ m.put path content, isPlain f.1 = true := by
  intro f hf
  have hkey : f.1 ∈ (m.put path content).keys := List.mem_map_of_mem hf
  rw [OrderedMap.keys_put] at hkey
  have hkeys : f.1 ∈ m.keys ∨ f.1 = path := by
    split at hkey
    · exact .inl hkey
    · simpa using hkey
  rcases hkeys with hold | rfl
  · obtain ⟨g, hg, hgf⟩ := List.mem_map.mp hold
    exact hgf ▸ h g hg
  · exact hpath

section

variable {root : Path} {place : Place} {s s' : FileSink} {m : MemorySink}

theorem mirrors_reset (h : Emptied s.tree root place s'.tree) (hpending : s'.pending = [])
    (hrooted : Rooted s'.tree root place) : Mirrors root place s' (m.step .reset) := by
  refine ⟨hrooted, ?_, ?_, List.nodup_nil, nofun, fun names hnames _ => ?_⟩
  · rw [hpending]
    exact List.nodup_nil
  · rw [hpending]
    nofun
  · rw [hpending, fileAt, h.empty _ (isBelow_append hnames)]
    rfl

theorem Mirrors.step (hroot : root.Clean) (h : Mirrors root place s m) (step : Sink.Step)
    (hplain : ∀ path content, step = .createFile path content → isPlain path = true)
    (hs : step.on (sink root) s = ⟨s', .ok ()⟩) : Mirrors root place s' (m.step step) := by
  cases step with
  | reset =>
    obtain ⟨hpending, other, hemptied⟩ := reset_ok h.rooted.wellFormed hroot hs
    have hother := hemptied.points.unique h.rooted.points
    subst hother
    exact mirrors_reset hemptied hpending
      (hemptied.rooted h.rooted.wellFormed h.rooted.steady)
  | createFile path content =>
    cases hs
    have hpath := hplain path content rfl
    refine ⟨h.rooted, OrderedMap.nodup_keys_put h.pendingNodup path content,
      plain_put h.pendingPlain content hpath, OrderedMap.nodup_keys_put h.filesNodup path content,
      plain_put h.filesPlain content hpath, fun names hnames hproper => ?_⟩
    have hmemory : (m.step (.createFile path content)).files = m.files.put path content := rfl
    have hpending : ((sink root).createFile s path content).pending = s.pending.put path content :=
      rfl
    rw [hmemory, hpending, OrderedMap.find?_put, OrderedMap.find?_put,
      h.files names hnames hproper]
    split
    · rfl
    · rfl
  | save =>
    obtain ⟨hpending, hall⟩ := save_eq_ok hs
    have hsaved := saveAll_ok h.rooted hroot h.pendingPlain hall
    refine ⟨hsaved.rooted, ?_, ?_, h.filesNodup, h.filesPlain, fun names hnames hproper => ?_⟩
    · rw [hpending]
      exact List.nodup_nil
    · rw [hpending]
      nofun
    · rw [hpending, hsaved.written names hnames hproper,
        OrderedMap.latest?_of_nodup h.pendingNodup]
      exact h.files names hnames hproper

theorem Mirrors.perm (h : Mirrors root place s m) (hpending : s.pending = []) :
    (s.tree.filesBelow place).Perm m.files := by
  have hwf := h.rooted.wellFormed
  have hnodup {files : List (Text × Text)} (hkeys : (files.map (·.1)).Nodup) : files.Nodup :=
    List.Nodup.of_map _ hkeys
  rw [List.perm_ext_iff_of_nodup (hnodup (hwf.nodup_filesBelow place)) (hnodup h.filesNodup)]
  rintro ⟨path, content⟩
  rw [hwf.mem_filesBelow, ← OrderedMap.find?_eq_some h.filesNodup]
  have hfiles := h.files
  rw [hpending] at hfiles
  constructor
  · rintro ⟨names, hnames, rfl, hfile⟩
    refine (hfiles names hnames fun name hname => ?_).trans hfile
    unfold fileAt at hfile
    split at hfile
    · next hfind => exact hwf.proper_of_find? hfind name (List.mem_append_right _ hname)
    · cases hfile
  · intro hfile
    have hpath := h.filesPlain _ ((OrderedMap.find?_eq_some h.filesNodup).mp hfile)
    have hnames := Text.splitAll_ne_nil '/' path
    have hthere := hfiles _ hnames (List.all_eq_true.mp hpath)
    rw [Text.joinWith_splitAll, hfile] at hthere
    exact ⟨_, hnames, (Text.joinWith_splitAll '/' path).symm, hthere.symm⟩

theorem Mirrors.follow {steps : List Sink.Step} (hroot : root.Clean) (h : Mirrors root place s m)
    (hplain : ∀ path content, .createFile path content ∈ steps → isPlain path = true)
    (hs : (sink root).follow s steps = .ok s') :
    Mirrors root place s' (steps.foldl MemorySink.step m) := by
  induction steps generalizing s m with
  | nil => cases hs; exact h
  | cons step rest ih =>
    rw [← List.singleton_append, Sink.follow_append] at hs
    obtain ⟨next, hnext, hrest⟩ := bind_eq_ok.mp hs
    refine ih (h.step hroot step (fun path content hstep => ?_) (Sink.follow_singleton hnext))
      (fun path content hmem => hplain path content (List.mem_cons_of_mem step hmem)) hrest
    exact hplain path content (hstep ▸ List.mem_cons_self)

/-- Steps of which the first is a reset bring both sinks to the same files, below the place that
the path pointed to at first. -/
theorem mirrors_of_first {steps : List Sink.Step} (hroot : root.Clean) (hs : s.tree.WellFormed)
    (hsteady : s.tree.Steady root)
    (hplain : ∀ path content, Sink.Step.createFile path content ∈ steps → isPlain path = true)
    (h : (sink root).follow s (.reset :: steps) = .ok s') :
    ∃ place, s.tree.Points (s.tree.start root) (namesOf root) place ∧
      Mirrors root place s' ((Sink.Step.reset :: steps).foldl MemorySink.step m) := by
  rw [← List.singleton_append, Sink.follow_append] at h
  obtain ⟨first, hreset, hrest⟩ := bind_eq_ok.mp h
  obtain ⟨hpending, place, hemptied⟩ := reset_ok hs hroot (Sink.follow_singleton hreset)
  have hmirrors := mirrors_reset (m := m) hemptied hpending (hemptied.rooted hs hsteady)
  have hafter := hmirrors.follow hroot hplain hrest
  exact ⟨place, hemptied.points, hafter⟩

theorem empty_of_reset (hroot : root.Clean) (hs : s.tree.WellFormed)
    (hpoints : s.tree.Points (s.tree.start root) (namesOf root) place)
    (h : reset root s = ⟨s', .ok ()⟩) (other : Place) (hbelow : isBelow place other = true) :
    s'.tree.find? other = none := by
  obtain ⟨-, q, hemptied⟩ := reset_ok hs hroot h
  have hq := hemptied.points.unique hpoints
  subst hq
  exact hemptied.empty other hbelow

end

/-- After steps of which the first is a reset, whatever sinks they begin with, the path of the sink
points where it pointed before. There, a reset leaves nothing, a file that is created changes
nothing, and saving leaves the files that the sink in memory has. -/
theorem mirrors_follow (s : FileSink) (m : MemorySink) (rootText : Text) (steps : List Sink.Step)
    (last : Sink.Step) (after : FileSink) (hs : s.tree.WellFormed)
    (hsteady : s.tree.Steady (Path.ofText rootText))
    (hfirst : (steps ++ [last]).head? = some .reset)
    (hplain : ∀ path content, .createFile path content ∈ steps ++ [last] → isPlain path = true)
    (h : (sink (Path.ofText rootText)).follow s (steps ++ [last]) = .ok after) :
    let root := Path.ofText rootText
    ∃ place before m', s.tree.Points (s.tree.start root) (namesOf root) place ∧
      after.tree.Points (after.tree.start root) (namesOf root) place ∧
      after.tree.find? place = some .directory ∧
      (sink root).follow s steps = .ok before ∧
      MemorySink.sink.follow m (steps ++ [last]) = .ok m' ∧
      match last with
      | .reset => (∀ other, isBelow place other = true → after.tree.find? other = none) ∧
          m'.files = []
      | .createFile _ _ => after.tree = before.tree
      | .save => (after.tree.filesBelow place).Perm m'.files := by
  intro root
  have hroot : root.Clean := Path.clean_ofText rootText
  have hall := h
  rw [Sink.follow_append] at h
  obtain ⟨before, hbefore, hlast⟩ := bind_eq_ok.mp h
  replace hlast := Sink.follow_singleton hlast
  obtain ⟨rest, hrest⟩ := List.head?_eq_some_iff.mp hfirst
  rw [hrest] at hall
  obtain ⟨place, hpoints, hafter⟩ := mirrors_of_first (m := m) hroot hs hsteady
    (fun path content hmem => hplain path content (hrest ▸ List.mem_cons_of_mem .reset hmem)) hall
  refine ⟨place, before, _, hpoints, hafter.rooted.points, hafter.rooted.there, hbefore,
    m.follow_eq _, ?_⟩
  rw [← hrest] at hafter
  cases last with
  | reset =>
    have hbefore : before.tree.WellFormed ∧
        before.tree.Points (before.tree.start root) (namesOf root) place := by
      cases steps with
      | nil =>
        cases hbefore
        exact ⟨hs, hpoints⟩
      | cons first others =>
        cases List.head?_cons.symm.trans hfirst
        obtain ⟨q, hq, hmirrors⟩ := mirrors_of_first (m := m) hroot hs hsteady
          (fun path content hmem => hplain path content (by simp [hmem])) hbefore
        rw [hpoints.unique hq]
        exact ⟨hmirrors.rooted.wellFormed, hmirrors.rooted.points⟩
    refine ⟨empty_of_reset hroot hbefore.1 hbefore.2 hlast, by rw [List.foldl_append]; rfl⟩
  | createFile path content =>
    cases hlast
    rfl
  | save => exact hafter.perm (save_eq_ok hlast).1

def stocked : FileTree where
  cwd := ["w"]
  entries := [(["w"], .directory), (["w", "out"], .directory), (["w", "out", "old"], .file "x"),
    (["w", "out", "sub"], .directory), (["w", "out", "sub", "l"], .link ⟨false, ["..", ".."]⟩)]

def overwriting : List Sink.Step :=
  [.reset, .createFile "a/b" "1", .save, .createFile "a/b" "2", .createFile "c" "3"]

theorem mirrors_follow_overwriting :
    stocked.WellFormed ∧ stocked.Steady (Path.ofText "out") ∧
    ∃ after, (sink (Path.ofText "out")).follow ⟨stocked, [("c", "4")]⟩ (overwriting ++ [.save]) =
        .ok after ∧
      (after.tree.filesBelow ["w", "out"]).Perm [("a/b", "2"), ("c", "3")] := by
  have hwf : stocked.WellFormed := ⟨by decide +kernel, by decide +kernel, by decide +kernel⟩
  have hlocate : stocked.locate .target (Path.ofText "out").text = .ok ["w", "out"] := by
    decide +kernel
  have hsteady : stocked.Steady (Path.ofText "out") :=
    steady_of_locate (Path.clean_ofText "out") hlocate (by decide +kernel)
  obtain ⟨after, hafter⟩ : ∃ after, (sink (Path.ofText "out")).follow ⟨stocked, [("c", "4")]⟩
      (overwriting ++ [.save]) = .ok after := exists_ok (by decide +kernel)
  refine ⟨hwf, hsteady, after, hafter, ?_⟩
  have hplain : ∀ path content, .createFile path content ∈ overwriting ++ [.save] →
      isPlain path = true := by
    intro path content hmem
    simp only [overwriting, List.cons_append, List.nil_append, List.mem_cons, reduceCtorEq,
      Sink.Step.createFile.injEq, List.not_mem_nil, or_false, false_or] at hmem
    rcases hmem with ⟨rfl, -⟩ | ⟨rfl, -⟩ | ⟨rfl, -⟩ <;> decide +kernel
  obtain ⟨place, before, m', hplace, -, -, -, hm', hperm⟩ := mirrors_follow ⟨stocked, [("c", "4")]⟩
    .empty "out" overwriting .save after hwf hsteady rfl hplain hafter
  have hout := hplace.unique
    (leads_of_locate (Path.clean_ofText "out") (by decide) hlocate).points
  subst hout
  have hfiles : m'.files = ([("a/b", "2"), ("c", "3")] : List (Text × Text)) :=
    congrArg MemorySink.files (Except.ok.inj hm').symm
  exact hfiles ▸ hperm

/-- Two names that are written with the same bytes: one with a character, the other with what stands
for each of its bytes. -/
def doubled : List (Text × Text) :=
  [("é", "a"), ([Text.byteSurrogate 0xC3, Text.byteSurrogate 0xA9], "b")]

def doubling : List Sink.Step := .reset :: doubled.map fun f => .createFile f.1 f.2

/-- A link in a directory that a path to the directory passes through, and a file where the path
leads without the link. -/
def entangled : FileTree where
  cwd := []
  entries := [(["e"], .directory), (["e", "f"], .directory), (["w"], .directory),
    (["w", "d"], .directory), (["w", "d", "l"], .link ⟨false, ["..", "..", "e", "f"]⟩),
    (["w", "w"], .directory), (["w", "w", "d"], .directory), (["w", "w", "d", "old"], .file "x")]

def disentangled : FileTree where
  cwd := []
  entries := [(["e"], .directory), (["e", "f"], .directory), (["w"], .directory),
    (["w", "d"], .directory), (["w", "w"], .directory), (["w", "w", "d"], .directory),
    (["w", "w", "d", "old"], .file "x"), (["w", "d", "l"], .directory),
    (["w", "w", "d", "a"], .file "1")]

/-- Two names with the same bytes are two files in memory and one in the tree. And when a reset
removes a link that the path of the sink passes through, the files are saved to another directory,
which was not emptied. -/
theorem not_mirrors_follow :
    ((∀ f ∈ doubled, ∀ name ∈ Text.splitAll '/' f.1, IsStep name) ∧
      ∃ after m', (sink (Path.ofText "out")).follow ⟨.empty [], []⟩ (doubling ++ [.save]) =
          .ok after ∧
        MemorySink.sink.follow .empty (doubling ++ [.save]) = .ok m' ∧
        ¬(after.tree.filesBelow ["out"]).Perm m'.files) ∧
    entangled.WellFormed ∧
    ∃ after m', (sink (Path.ofText "w/d/l/../../w/d")).follow ⟨entangled, []⟩
        [.reset, .createFile "a" "1", .save] = .ok after ∧
      MemorySink.sink.follow .empty [.reset, .createFile "a" "1", .save] = .ok m' ∧
      after.tree.locate .target (Path.ofText "w/d/l/../../w/d").text = .ok ["w", "w", "d"] ∧
      ¬(after.tree.filesBelow ["w", "w", "d"]).Perm m'.files := by
  refine ⟨⟨by decide +kernel, ⟨⟨[], [(["out"], .directory), (["out", "é"], .file "b")]⟩, []⟩, _,
    by decide +kernel, rfl, fun h => absurd h.length_eq (by decide +kernel)⟩,
    ⟨by decide +kernel, by decide +kernel, by decide +kernel⟩, ⟨disentangled, []⟩, _,
    by decide +kernel, rfl, by decide +kernel, fun h => absurd h.length_eq (by decide +kernel)⟩

end FileSink

end RouterLayer
