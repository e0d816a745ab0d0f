import RouterLayer.Proofs.FileTree.Emptying
import RouterLayer.Proofs.Sink.Files

/-!
When a reset succeeds, and what it leaves. It fails without a change where the path of the sink
leads to a file; where directories can be made and the path does not lead through the directory that
it empties, it leaves that directory empty and everything else as it was (`empties_reset`).
-/

set_option autoImplicit false

namespace RouterLayer.FileSink

open FileTree

variable {s : FileSink} {root : Path} {place : Place}

theorem reset_returns (hs : s.tree.WellFormed) (hroot : root.Clean)
    (hstart : s.tree.find? (s.tree.start root) = some .directory) (hpass : s.tree.Passable root)
    (hskirts : s.tree.Skirts root place) (htakes : takes root = true)
    (hnames : ∀ name entry, s.tree.find? (place ++ [name]) = some entry →
      takes ⟨root.root, root.segments ++ [name]⟩ = true) :
    ∃ u, reset root s = ⟨⟨u, []⟩, .ok ()⟩ ∧ Emptied s.tree root place u ∧ u.Reaches root place := by
  obtain ⟨w, q, hensure, hw⟩ := ensureDirectories_reaches hs hroot htakes hpass hstart
  obtain ⟨hwf, hgrows, -⟩ : Made s.tree root w := by
    have hmade := ensureDirectories_ok hs hroot (by rw [hensure])
    rwa [hensure] at hmade
  obtain ⟨rfl, hclear⟩ := hskirts.reaches hroot hgrows.keeps hw
  -- whatever is in the directory was there before
  have hheld : ∀ name ∈ w.namesIn q, takes ⟨root.root, root.segments ++ [name]⟩ = true := by
    intro name hname
    obtain ⟨entry, hentry⟩ := hwf.mem_namesIn.mp hname
    cases hfind : s.tree.find? (q ++ [name]) with
    | some held => exact hnames name held hfind
    | none =>
      have hbelow := hskirts.not_below (hgrows.fresh _ _ hfind hentry).2
      rw [isBelow_append (by simp)] at hbelow
      cases hbelow
  obtain ⟨u, hempty, -, hu⟩ := emptyDirectory_returns hroot hw hclear hwf hheld
  have hreset : reset root s = ⟨⟨u, []⟩, .ok ()⟩ := by
    rw [reset, hensure]
    dsimp only
    rw [hempty]
  obtain ⟨-, place, hemptied⟩ := reset_ok hs hroot hreset
  have hsame : place = q := hemptied.points.unique <| by
    rw [← hgrows.start]
    exact (hw.leads hroot).points.of_sameLinks hgrows.sameLinks
  exact ⟨u, hreset, hsame ▸ hemptied, hu⟩

theorem reset_of_file {content : String} (hroot : root.Clean)
    (h : s.tree.lookUp root.text = .ok (.file content)) :
    reset root s = ⟨s, .error (.files .occupied)⟩ := by
  unfold lookUp at h
  cases hlocate : s.tree.locate .target root.text with
  | error e => rw [hlocate] at h; cases h
  | ok q =>
    rw [hlocate] at h
    dsimp only at h
    split at h
    · next entry hfind =>
      cases h
      rw [reset, ensureDirectories_of_other hroot hlocate hfind nofun]
    · cases h

/-- Where nothing keeps the directories of the sink's path from being made, the path does not lead
through the directory that it ends in, and the system takes the paths that a reset follows, a reset
leaves that directory empty, and the path leads to it. What does not lie below it is as it was, but
for directories that were made on the way, and nothing waits to be saved. Where the path leads to a
file, a reset fails and changes nothing. -/
theorem empties_reset (s : FileSink) (rootText : Text) (hs : s.tree.WellFormed) :
    let root := Path.ofText rootText
    (∀ place, s.tree.find? (s.tree.start root) = some .directory → s.tree.Passable root →
      s.tree.Skirts root place → takes root = true →
      (∀ name entry, s.tree.find? (place ++ [name]) = some entry →
        takes ⟨root.root, root.segments ++ [name]⟩ = true) →
      ∃ u, reset root s = ⟨⟨u, []⟩, .ok ()⟩ ∧ Emptied s.tree root place u ∧
        u.Reaches root place) ∧
    ∀ content, s.tree.lookUp root.text = .ok (.file content) →
      reset root s = ⟨s, .error (.files .occupied)⟩ := by
  intro root
  have hroot : root.Clean := Path.clean_ofText rootText
  exact ⟨fun place hstart hpass hskirts htakes hnames =>
      reset_returns hs hroot hstart hpass hskirts htakes hnames,
    fun content hfile => reset_of_file hroot hfile⟩

/-- A directory behind a link, with links to a file, to directories inside and outside, and to
nothing. -/
def furnished : FileTree where
  cwd := ["w"]
  entries := [(["w"], .directory), (["w", "keep"], .directory), (["w", "keep", "x"], .file "1"),
    (["w", "up"], .link ⟨false, ["o"]⟩), (["w", "o"], .directory), (["w", "o", "out"], .directory),
    (["w", "o", "out", "d"], .directory), (["w", "o", "out", "d", "f"], .file "2"),
    (["w", "o", "out", "d", "l"], .link ⟨false, [".."]⟩),
    (["w", "o", "out", "file"], .link ⟨false, ["..", "..", "keep", "x"]⟩),
    (["w", "o", "out", "inside"], .link ⟨false, ["d"]⟩),
    (["w", "o", "out", "outside"], .link ⟨false, ["..", "..", "keep"]⟩),
    (["w", "o", "out", "nowhere"], .link ⟨false, ["none"]⟩)]

theorem empties_reset_furnished :
    furnished.WellFormed ∧
    (∃ u, reset (Path.ofText "up/out") ⟨furnished, [("old", "3")]⟩ = ⟨⟨u, []⟩, .ok ()⟩ ∧
      u.Reaches (Path.ofText "up/out") ["w", "o", "out"] ∧
      (∀ other, isBelow ["w", "o", "out"] other = true → u.find? other = none) ∧
      u.find? ["w", "keep", "x"] = some (.file "1")) ∧
    reset (Path.ofText "keep/x") ⟨furnished, [("old", "3")]⟩ =
      ⟨⟨furnished, [("old", "3")]⟩, .error (.files .occupied)⟩ := by
  have hwf : furnished.WellFormed := ⟨by decide +kernel, by decide +kernel, by decide +kernel⟩
  have hclean := Path.clean_ofText "up/out"
  have hthere : furnished.Reaches (Path.ofText "up/out") ["w", "o", "out"] :=
    ⟨by decide +kernel, by decide +kernel⟩
  have hskirts : furnished.Skirts (Path.ofText "up/out") ["w", "o", "out"] :=
    skirts_of_reaches hclean ⟨by decide +kernel, by decide +kernel⟩
  have hnames : ∀ name ∈ furnished.namesIn ["w", "o", "out"],
      takes ⟨.none, (Path.ofText "up/out").segments ++ [name]⟩ = true := by decide +kernel
  obtain ⟨u, hreset, hemptied, hu⟩ := (empties_reset ⟨furnished, [("old", "3")]⟩ "up/out" hwf).1 _
    (by decide +kernel) (hthere.passable hclean) hskirts (by decide +kernel)
    fun name entry hfind => hnames name (hwf.mem_namesIn.mpr ⟨entry, hfind⟩)
  refine ⟨hwf, ⟨u, hreset, hu, hemptied.empty, ?_⟩, ?_⟩
  · exact hemptied.kept _ _ (by decide +kernel) (by decide +kernel)
  · exact (empties_reset ⟨furnished, [("old", "3")]⟩ "keep/x" hwf).2 "1" (by decide +kernel)

def nested : FileTree where
  cwd := []
  entries := [(["out"], .directory), (["out", "a"], .directory), (["out", "b"], .file "1")]

/-- Names that the system does not take: too long, with a zero byte, without bytes. -/
def refused : List Segment :=
  [List.replicate 256 (.char 'a'), [.char (Char.ofNat 0)], [Text.byteSurrogate 0]]

def longName (c : Char) : Segment := List.replicate 60 (.char c)

def spacious : FileTree where
  cwd := []
  entries := [([longName '𝑎'], .directory), ([longName '𝑏'], .directory),
    ([longName '𝑏', longName '𝑐'], .file "1")]

/-- A path that leads through the one directory and back, again and again, and then to the other. -/
def winding : Text :=
  Text.joinWith '/' ((List.replicate 15 [longName '𝑎', Path.parent]).flatten ++ [longName '𝑏'])

/-- The system takes only some names, and no path that is too long, be it that of a name in the
directory. A path can lead through what its directory holds: then it leads nowhere as soon as that
is removed, before the rest is or in the end. And the directory in which the path begins can be
missing. -/
theorem not_empties_reset :
    ((FileTree.empty []).WellFormed ∧
      ∀ name ∈ refused, (reset (Path.ofText name) ⟨.empty [], []⟩).outcome ≠ .ok ()) ∧
    (spacious.WellFormed ∧ spacious.isDirectory (Path.ofText winding) = true ∧
      (reset (Path.ofText winding) ⟨spacious, []⟩).outcome = .error (.files .tooLong)) ∧
    (nested.WellFormed ∧
      (∀ text ∈ (["out", "out/a", "out/a/.."] : List Text),
        nested.isDirectory (Path.ofText text) = true) ∧
      (reset (Path.ofText "out/a/..") ⟨nested, []⟩).outcome = .error (.files .missing)) ∧
    ((reset (Path.ofText "out/a/..") ⟨.empty [], []⟩).outcome = .ok () ∧
      (reset (Path.ofText "out/a/..") ⟨.empty [], []⟩).state.tree.isDirectory
        (Path.ofText "out/a/..") = false) ∧
    (FileTree.empty ["w"]).WellFormed ∧
      (reset (Path.ofText "out") ⟨.empty ["w"], []⟩).outcome = .error (.files .missing) := by
  have hspacious : spacious.WellFormed := ⟨by decide +kernel, by decide +kernel, by decide +kernel⟩
  have hnested : nested.WellFormed := ⟨by decide +kernel, by decide +kernel, by decide +kernel⟩
  refine ⟨⟨⟨by decide, nofun, nofun⟩, ?_⟩, ⟨hspacious, ?_, ?_⟩, ⟨hnested, ?_, ?_⟩, ⟨?_, ?_⟩,
    ⟨by decide, nofun, nofun⟩, ?_⟩ <;> decide +kernel

end RouterLayer.FileSink
