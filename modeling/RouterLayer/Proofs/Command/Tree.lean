import RouterLayer.Proofs.Command.Ending
import RouterLayer.Proofs.Run.PlainPaths
import RouterLayer.Proofs.Sink.Delivery

set_option autoImplicit false

namespace RouterLayer.Command

open FileTree

theorem Stop.not_late_of_interim {stop : Stop} (h : stop.isInterim = true) :
    stop.isLate = false := by
  cases stop with
  | help => rfl
  | usage fault => rfl
  | failure e =>
    rw [isInterim, Bool.not_eq_true'] at h
    exact h

theorem Stop.not_late_of_refuses {e : Failure} (h : e.refuses = true) :
    (Stop.failure e).isLate = false := by
  cases e <;> first | rfl | cases h

theorem Stop.not_early_of_interrupts {e : Failure} (h : e.interrupts = true) :
    (Stop.failure e).isEarly = false := by
  cases e <;> first | rfl | cases h

section Course

variable {t : FileTree} {root : Path} {report : Report FileSink}

/-- A run that stops early has touched nothing, and one that stops late has only emptied the
directory. Where the sink itself fails it is neither. -/
theorem left_of_course (ht : t.WellFormed) (hroot : root.Clean) {source : OptionSource}
    {d : Document} (hcourse : Run.Course (FileSink.sink root) ⟨t, []⟩ (Run.vet source d) report)
    {e : Failure} (he : report.outcome = .error e) :
    ((Stop.failure e).isEarly = true → report.sink.tree = t ∧ report.calls = []) ∧
    ((Stop.failure e).isLate = true → ∃ place, Emptied t root place report.sink.tree) := by
  cases hcourse with
  | refused e' refusal outcome untouched uncalled =>
    cases he.symm.trans outcome
    rw [Stop.not_late_of_refuses (Run.refuses_of_vet source d e refusal), untouched]
    exact ⟨fun _ => ⟨rfl, uncalled⟩, nofun⟩
  | unready _ _ e' outcome reset =>
    cases he.symm.trans outcome
    obtain ⟨fault, rfl⟩ := FileSink.reset_eq_error reset
    exact ⟨nofun, nofun⟩
  | interrupted _ _ e' outcome cause reset =>
    cases he.symm.trans outcome
    rw [Stop.not_early_of_interrupts cause]
    exact ⟨nofun, fun _ => (FileSink.reset_ok ht hroot reset).2⟩
  | undelivered _ _ e' outcome empty g delivery =>
    cases he.symm.trans outcome
    obtain ⟨fault, rfl⟩ := FileSink.deliver_eq_error delivery
    exact ⟨nofun, nofun⟩
  | delivered _ _ g outcome => cases he.symm.trans outcome

theorem filled_of_course (ht : t.WellFormed) (hroot : root.Clean) (hsteady : t.Steady root)
    {vetted : Except Failure Options}
    (hcourse : Run.Course (FileSink.sink root) ⟨t, []⟩ vetted report) {g : Generated}
    (hg : report.outcome = .ok g)
    (hplain : (∀ f ∈ g.files, f.2.isEncodable = true) → ∀ f ∈ g.files, isPlain f.1 = true) :
    ∃ place, Filled t root place g.files report.sink.tree := by
  cases hcourse with
  | refused e _ outcome => cases hg.symm.trans outcome
  | unready _ _ e outcome => cases hg.symm.trans outcome
  | interrupted _ _ e outcome => cases hg.symm.trans outcome
  | undelivered _ _ e outcome => cases hg.symm.trans outcome
  | delivered _ _ g' outcome empty reset distinct delivery =>
    cases hg.symm.trans outcome
    obtain ⟨hempty, place, hemptied⟩ := FileSink.reset_ok ht hroot reset
    have hencodable :=
      FileSink.isEncodable_of_saveAll (FileSink.saveAll_of_deliver hempty distinct delivery)
    exact ⟨place, FileSink.deliver_ok ht hroot hsteady hemptied hempty distinct (hplain hencodable)
      delivery⟩

end Course

variable {around : Surroundings} {arguments : List Text} {width : Nat}

theorem left_of_stop (ht : around.tree.WellFormed) {stop : Stop}
    (h : ending around arguments = .error stop) :
    (∃ log, run around arguments width =
      stopped width (run around arguments width).tree log (run around arguments width).calls
        stop) ∧
    (stop.isEarly = true → (run around arguments width).tree = around.tree ∧
      (run around arguments width).calls = []) ∧
    (stop.isLate = true → ∃ i place, Invocation.ofArguments around arguments = .ok i ∧
      Emptied around.tree (Path.ofText i.output) place (run around arguments width).tree) := by
  cases way around arguments width with
  | helped _ hhelp hresult =>
    cases h.symm.trans hhelp
    rw [hresult]
    exact ⟨⟨[], rfl⟩, fun _ => ⟨rfl, rfl⟩, nofun⟩
  | stopped other hother hinterim hresult =>
    cases h.symm.trans hother
    obtain ⟨log, hresult⟩ := hresult
    obtain ⟨htree, hcalls⟩ := tree_stopped width around.tree log [] stop
    rw [hresult, htree, hcalls, Stop.not_late_of_interim hinterim]
    exact ⟨⟨log, rfl⟩, fun _ => ⟨rfl, rfl⟩, nofun⟩
  | ran i d options delegates report hread hloaded hperformed hending hresult =>
    rw [hending] at h
    cases he : report.outcome with
    | ok g => rw [he] at h; cases h
    | error e =>
      rw [he] at h
      cases h
      have hleft := left_of_course ht (Path.clean_ofText i.output)
        (hperformed ▸ Run.course_generate ..) he
      obtain ⟨log, hresult⟩ := hresult
      obtain ⟨htree, hcalls⟩ := tree_stopped width report.sink.tree log report.calls (.failure e)
      rw [conclude, he] at hresult
      rw [hresult, htree, hcalls]
      refine ⟨⟨log, rfl⟩, hleft.1, fun hlate => ?_⟩
      obtain ⟨place, hemptied⟩ := hleft.2 hlate
      exact ⟨i, place, hread, hemptied⟩

theorem run_of_help (h : asksForHelp arguments = true) :
    run around arguments width = ⟨0, helpText width, [], [], around.tree, none⟩ := by
  rw [run, ofArguments_of_help around h]
  rfl

theorem filled_of_exitCode (ht : around.tree.WellFormed)
    (h : (run around arguments width).exitCode = 0) :
    asksForHelp arguments = true ∨
    ∃ i d g, Invocation.ofArguments around arguments = .ok i ∧
      (loadSchema around i.schema).outcome = .ok d ∧ ending around arguments = .ok g ∧
      tally g.files.length <:+ (run around arguments width).stdout ∧
      (around.tree.Steady (Path.ofText i.output) →
        (∀ m ∈ d.visible, ∀ model, m.name = .str model → CodePoint.char '/' ∉ model) →
        ∃ place, Filled around.tree (Path.ofText i.output) place g.files
          (run around arguments width).tree) := by
  cases way around arguments width with
  | helped hasked _ _ => exact .inl hasked
  | stopped stop _ hinterim hresult =>
    obtain ⟨log, hresult⟩ := hresult
    rw [hresult] at h
    cases exitCode_stopped _ _ _ _ h
    cases hinterim
  | ran i d options delegates report hread hloaded hperformed hending hresult =>
    obtain ⟨log, hresult⟩ := hresult
    unfold conclude at hresult
    cases hg : report.outcome with
    | error e =>
      rw [hg] at hresult
      rw [hresult] at h
      cases exitCode_stopped _ _ _ _ h
    | ok g =>
      rw [hg] at hending hresult
      rw [hresult] at h ⊢
      obtain ⟨htree, hstdout⟩ := finished_exitCode _ _ _ _ h
      rw [htree]
      refine .inr ⟨i, d, g, hread, hloaded, hending, ?_, fun hsteady hslash => ?_⟩
      · rwa [Generated.files, List.length_map]
      · rw [← hperformed] at hg
        obtain ⟨resolved, -, hbuild⟩ := Run.generate_ok _ _ _ _ _ _ _ hg
        rw [hperformed] at hg
        exact filled_of_course ht (Path.clean_ofText i.output) hsteady
          (hperformed ▸ Run.course_generate ..) hg (Run.isPlain_files hbuild hslash)

/-- What a command leaves in a tree. Asked for help it prints that and does nothing. Stopped early
it leaves the tree as it was and has called no delegate. Stopped late it leaves an empty directory
where its output path pointed. When it exits with zero and was not asked for help, that directory
has the files that were generated, and as many are reported. -/
theorem tree_run (around : Surroundings) (arguments : List Text) (width : Nat)
    (ht : around.tree.WellFormed) :
    let result := run around arguments width
    (asksForHelp arguments = true →
      result = ⟨0, helpText width, [], [], around.tree, none⟩) ∧
    (∀ stop, ending around arguments = .error stop →
      (∃ log, result = stopped width result.tree log result.calls stop) ∧
      (stop.isEarly = true → result.tree = around.tree ∧ result.calls = []) ∧
      (stop.isLate = true → ∃ i place, Invocation.ofArguments around arguments = .ok i ∧
        Emptied around.tree (Path.ofText i.output) place result.tree ∧
        (around.tree.Steady (Path.ofText i.output) →
          Rooted result.tree (Path.ofText i.output) place))) ∧
    (result.exitCode = 0 → asksForHelp arguments = true ∨
      ∃ i d g, Invocation.ofArguments around arguments = .ok i ∧
        (loadSchema around i.schema).outcome = .ok d ∧ ending around arguments = .ok g ∧
        (around.tree.Steady (Path.ofText i.output) →
          (∀ m ∈ d.visible, ∀ model, m.name = .str model → CodePoint.char '/' ∉ model) →
          ∃ place, Filled around.tree (Path.ofText i.output) place g.files result.tree ∧
            tally (result.tree.filesBelow place).length <:+ result.stdout)) := by
  intro result
  refine ⟨run_of_help, ?_, ?_⟩
  · intro stop hstop
    obtain ⟨hreport, hearly, hlate⟩ := left_of_stop ht hstop
    refine ⟨hreport, hearly, fun h => ?_⟩
    obtain ⟨i, place, hread, hemptied⟩ := hlate h
    exact ⟨i, place, hread, hemptied, hemptied.rooted ht⟩
  · intro hexit
    rcases filled_of_exitCode ht hexit with hhelp | hgenerated
    · exact .inl hhelp
    · obtain ⟨i, d, g, hread, hloaded, hending, htally, hfilled⟩ := hgenerated
      refine .inr ⟨i, d, g, hread, hloaded, hending, fun hsteady hslash => ?_⟩
      obtain ⟨place, hplace⟩ := hfilled hsteady hslash
      refine ⟨place, hplace, ?_⟩
      rw [hplace.written.length_eq]
      exact htally

def documentText (models : String) : String :=
  "\x7b\"datamodel\":\x7b\"models\":[" ++ models ++ "]\x7d," ++
    "\"generators\":[\x7b\"provider\":\"prisma-client-js\"\x7d]\x7d"

/-- A directory with an old file and a link, beside a document with one model and a document with
two models that have the same key. -/
def workshop : Surroundings where
  tree := ⟨["w"], [(["w"], .directory),
    (["w", "one"], .file (documentText "\x7b\"name\":\"a\"\x7d")),
    (["w", "two"], .file (documentText "\x7b\"name\":\"A\"\x7d,\x7b\"name\":\"a\"\x7d")),
    (["w", "out"], .directory), (["w", "out", "old"], .file "x"),
    (["w", "out", "up"], .link ⟨false, [".."]⟩)]⟩
  cwd := Path.ofText "/w"
  modules := []

theorem tree_run_workshop :
    workshop.tree.WellFormed ∧ workshop.tree.Steady (Path.ofText "out") ∧
    (run workshop ["one", "-oout", "--help"]).stdout = helpText 80 ∧
    (run workshop ["one"]).tree = workshop.tree ∧
    Emptied workshop.tree (Path.ofText "out") ["w", "out"] (run workshop ["two", "-oout"]).tree ∧
    ∃ g, ending workshop ["one", "-oout", "--set", "withShield=0"] = .ok g ∧
      Filled workshop.tree (Path.ofText "out") ["w", "out"] g.files
        (run workshop ["one", "-oout", "--set", "withShield=0"]).tree := by
  have ht : workshop.tree.WellFormed := ⟨by decide +kernel, by decide +kernel, by decide +kernel⟩
  have hlocate : workshop.tree.locate .target (Path.ofText "out").text = .ok ["w", "out"] := by
    decide +kernel
  have hsteady : workshop.tree.Steady (Path.ofText "out") :=
    steady_of_locate (Path.clean_ofText "out") hlocate (by decide +kernel)
  have hplace {place : Place}
      (h : workshop.tree.Points (workshop.tree.start (Path.ofText "out"))
        (namesOf (Path.ofText "out")) place) : place = (["w", "out"] : Place) :=
    h.unique (leads_of_locate (Path.clean_ofText "out") (by decide) hlocate).points
  refine ⟨ht, hsteady, ?_, ?_, ?_, ?_⟩
  · have hhelp : asksForHelp ["one", "-oout", "--help"] = true := by decide
    rw [(tree_run workshop ["one", "-oout", "--help"] 80 ht).1 hhelp]
  · have hstop : ending workshop ["one"] = .error (.usage .missingOutput) := by decide +kernel
    exact (((tree_run workshop ["one"] 80 ht).2.1 _ hstop).2.1 rfl).1
  · have hstop : ending workshop ["two", "-oout"] = .error (.failure (.collision "a" "A" "a")) := by
      decide +kernel
    have hout : (Invocation.ofArguments workshop ["two", "-oout"]).map (·.output) = .ok "out" := by
      decide +kernel
    obtain ⟨i, place, hread, hemptied, -⟩ :=
      ((tree_run workshop ["two", "-oout"] 80 ht).2.1 _ hstop).2.2 rfl
    rw [hread] at hout
    have houtput : i.output = "out" := Except.ok.inj hout
    rw [houtput] at hemptied
    have hpoints := hplace hemptied.points
    subst hpoints
    exact hemptied
  · have hexit : (run workshop ["one", "-oout", "--set", "withShield=0"]).exitCode = 0 := by
      decide +kernel
    have hout : (Invocation.ofArguments workshop ["one", "-oout", "--set", "withShield=0"]).map
        (fun i => (i.schema, i.output)) = .ok ("one", "out") := by
      decide +kernel
    have hnames : (loadSchema workshop "one").outcome.map (fun d => d.visible.map (·.name)) =
        .ok [.str "a"] := by
      decide +kernel
    have hhelp : asksForHelp ["one", "-oout", "--set", "withShield=0"] ≠ true := by decide
    obtain ⟨i, d, g, hread, hloaded, hending, hfilled⟩ :=
      ((tree_run workshop ["one", "-oout", "--set", "withShield=0"] 80 ht).2.2 hexit).resolve_left
        hhelp
    rw [hread] at hout
    obtain ⟨hschema, houtput⟩ := Prod.mk.inj (Except.ok.inj hout)
    rw [hschema] at hloaded
    rw [hloaded] at hnames
    replace hnames : d.visible.map (·.name) = [.str "a"] := Except.ok.inj hnames
    rw [houtput] at hfilled
    obtain ⟨place, hfilled, -⟩ := hfilled hsteady fun m hm model hmodel => by
      have hname : m.name ∈ d.visible.map (·.name) := List.mem_map_of_mem hm
      rw [hnames, hmodel, List.mem_singleton] at hname
      rw [Json.str.inj hname]
      decide
    have hpoints := hplace hfilled.points
    subst hpoints
    exact ⟨g, hending, hfilled⟩

/-- A tree in which the output path passes through a link in the output directory, beside a document
without models. -/
def tangled : Surroundings where
  tree := ⟨[], (["none"], .file (documentText "")) :: FileSink.entangled.entries⟩
  cwd := Path.ofText "/"
  modules := []

/-- A directory that the output path only passes through is made, though the output directory does
not lie in it. Where the path passes through a link that is removed, the files come to lie in
another directory, beside a file that was there. And a command that gives help exits with zero, with
the old file still in the output directory. -/
theorem not_tree_run :
    (ending workshop ["two", "-oa/x/../b"] = .error (.failure (.collision "a" "A" "a")) ∧
      let u := (run workshop ["two", "-oa/x/../b"]).tree
      u.locate .target "a/x/../b" = .ok ["w", "a", "b"] ∧
        workshop.tree.find? ["w", "a", "x"] = none ∧ u.find? ["w", "a", "x"] = some .directory ∧
        isBelow ["w", "a", "b"] ["w", "a", "x"] = false ∧
        isBelow ["w", "a", "x"] ["w", "a", "b"] = false) ∧
    (tangled.tree.locate .target "w/d/l/../../w/d" = .ok ["w", "d"] ∧
      let result := run tangled ["none", "-ow/d/l/../../w/d"]
      result.exitCode = 0 ∧ result.tree.filesBelow ["w", "d"] = [] ∧
        result.tree.locate .target "w/d/l/../../w/d" = .ok ["w", "w", "d"] ∧
        result.tree.find? ["w", "w", "d", "old"] = some (.file "x")) ∧
    let result := run workshop ["one", "-oout", "--help"]
    result.exitCode = 0 ∧ result.tree.find? ["w", "out", "old"] = some (.file "x") := by
  decide +kernel

end RouterLayer.Command
