import RouterLayer.Proofs.Run.Calls
import RouterLayer.Proofs.Run.Course

/-!
A sink over a session of runs and of steps that are made by hand. Main statement: a run that is
refused leaves the sink as it is, one that stops later leaves it empty, and one that returns leaves
exactly its files (`sink_generate`, `sink_of_run`).
-/

set_option autoImplicit false

namespace RouterLayer

namespace Run

variable (s : MemorySink)

theorem foldl_createFile (files : List (Text × Text)) :
    files.foldl (fun s f => MemorySink.sink.createFile s f.1 f.2) s =
      { s with files := s.files.merge files } := by
  induction files generalizing s with
  | nil => rfl
  | cons f files ih =>
    rw [List.foldl_cons, ih]
    rfl

theorem state_deliver {files : OrderedMap Text} (hfiles : files.keys.Nodup) :
    (deliver MemorySink.sink s.reset files).state = ⟨files, true, s.resets + 1⟩ := by
  unfold deliver
  rw [foldl_createFile]
  have hmerge : OrderedMap.merge [] files = [] ++ files := OrderedMap.merge_of_nodup hfiles
  simp [MemorySink.sink, MemorySink.save, MemorySink.reset, hmerge]

/-- A delegate is not told of the sink, so the sink does not decide how it ends. -/
theorem outcome_callDelegates {σ τ : Type} (site : Router.Site) (delegates : Delegates)
    (context : RunContext) (s : σ) (t : τ) :
    (callDelegates site delegates context s).outcome =
      (callDelegates site delegates context t).outcome := by
  have hcall (role : Delegate.Role) (delegate : Option Delegate) (announcement warning : Text)
      (context : RunContext) :
      (callDelegate role delegate announcement warning context s).outcome =
        (callDelegate role delegate announcement warning context t).outcome := by
    cases delegate <;> rfl
  have hvalidation : (callValidation delegates context s).outcome =
      (callValidation delegates context t).outcome := by
    unfold callValidation
    split
    · exact hcall _ _ _ _ _
    · rfl
  have hpolicy : (callPolicyStarter site delegates context s).outcome =
      (callPolicyStarter site delegates context t).outcome := by
    unfold callPolicyStarter
    split
    · exact hcall _ _ _ _ _
    · rfl
  unfold callDelegates
  dsimp only
  rw [hvalidation]
  split
  · rfl
  · exact hpolicy

theorem outcome_generate_memory (cwd : Path) (d : Document) (outputDir : Text)
    (source : OptionSource) (delegates : Delegates) :
    (generate MemorySink.sink s cwd d outputDir source delegates).outcome =
      vet source d >>= fun options =>
        (callDelegates ⟨cwd, Path.ofText outputDir⟩ delegates
          ⟨d, options, (Path.ofText outputDir).text, none⟩ s.reset).outcome >>= fun _ =>
        (build ⟨cwd, Path.ofText outputDir⟩ d options).outcome := by
  have hdeliver (site : Router.Site) (options : Options) :
      ((build site d options).outcome >>= fun g =>
        (deliver MemorySink.sink s.reset g.files).outcome >>= fun _ => pure g) =
        (build site d options).outcome := by
    cases (build site d options).outcome <;> rfl
  rw [outcome_generate]
  congr 1
  funext options
  rw [outcome_perform]
  exact congrArg ((callDelegates ⟨cwd, Path.ofText outputDir⟩ delegates
    ⟨d, options, (Path.ofText outputDir).text, none⟩ s.reset).outcome >>= fun _ => ·)
    (hdeliver ⟨cwd, Path.ofText outputDir⟩ options)

end Run

/-- A run leaves the sink as it was, or empty, or with exactly what it generated. -/
theorem sink_generate {s : MemorySink} {cwd : Path} {d : Document} {outputDir : Text}
    {source : OptionSource} {delegates : Delegates} {r : Report MemorySink}
    (h : generate MemorySink.sink s cwd d outputDir source delegates = r) :
    (∀ c ∈ r.calls, c.sink = s.reset) ∧
      match r.outcome with
      | .ok g => r.sink = ⟨g.files, true, s.resets + 1⟩
      | .error e =>
        (Run.vet source d = .error e ∧ e.refuses = true ∧ r.sink = s) ∨
          ∃ options, Run.vet source d = .ok options ∧ e.interrupts = true ∧
            r.sink = s.reset := by
  have hcalls {options : Options} (accepted : Run.vet source d = .ok options) :
      ∀ c ∈ r.calls, c.sink = s.reset := fun c hc =>
    (Run.calls_generate delegates s MemorySink.sink cwd d outputDir source
      (Run.resolve_of_vet accepted) c (h ▸ hc)).1
  have hcourse := Run.course_generate MemorySink.sink s cwd d outputDir source delegates
  rw [h] at hcourse
  cases hcourse with
  | refused e refusal outcome untouched uncalled =>
    rw [outcome, uncalled]
    exact ⟨nofun, .inl ⟨refusal, Run.refuses_of_vet source d e refusal, untouched⟩⟩
  | interrupted options accepted e outcome cause reset =>
    rw [outcome]
    exact ⟨hcalls accepted, .inr ⟨options, accepted, cause, (congrArg Stepped.state reset).symm⟩⟩
  | delivered options accepted g outcome empty reset distinct delivery =>
    cases reset
    rw [outcome]
    exact ⟨hcalls accepted,
      (congrArg Stepped.state delivery).symm.trans (Run.state_deliver s distinct)⟩
  -- a sink in memory cannot fail
  | unready options accepted e outcome reset =>
    have hreset : (Except.ok () : Except Failure Unit) = .error e := congrArg Stepped.outcome reset
    cases hreset
  | undelivered options accepted e outcome empty g delivery =>
    have hsave : (Except.ok () : Except Failure Unit) = .error e :=
      congrArg Stepped.outcome delivery
    cases hsave

/-- A sink with what happened to it: the runs that returned and the files created by hand. -/
structure Session where
  sink : MemorySink
  returned : List Generated
  created : List (Text × Text)

namespace Session

inductive Step
  | generate (cwd : Path) (d : Document) (outputDir : Text) (source : OptionSource)
      (delegates : Delegates)
  | createFile (path content : Text)
  | reset
  | save

def start : Session := ⟨.empty, [], []⟩

def step (s : Session) : Step → Session
  | .generate cwd d outputDir source delegates =>
    let r := RouterLayer.generate MemorySink.sink s.sink cwd d outputDir source delegates
    { s with sink := r.sink, returned := s.returned ++ r.outcome.toOption.toList }
  | .createFile path content =>
    { s with
      sink := s.sink.createFile path content
      created := s.created ++ [(path, content)] }
  | .reset => { s with sink := s.sink.reset }
  | .save => { s with sink := s.sink.save }

def run (steps : List Step) : Session := steps.foldl step start

/-- The sink holds all files of one run, or none, and over them files created by hand. -/
def Whole (s : Session) : Prop :=
  ∃ base byHand, (base = [] ∨ ∃ g ∈ s.returned, base = g.files) ∧ byHand ⊆ s.created ∧
    s.sink.files = OrderedMap.merge base byHand

theorem whole_start : Whole start := ⟨[], [], .inl rfl, List.Subset.refl _, rfl⟩

theorem whole_of_empty {s : Session} (h : s.sink.files = []) : s.Whole :=
  ⟨[], [], .inl rfl, List.nil_subset _, h⟩

theorem whole_step {s : Session} (h : s.Whole) (step : Step) : (s.step step).Whole := by
  obtain ⟨base, byHand, hbase, hbyHand, hfiles⟩ := h
  cases step with
  | generate cwd d outputDir source delegates =>
    unfold Session.step
    dsimp only
    generalize hg : RouterLayer.generate MemorySink.sink s.sink cwd d outputDir source delegates = r
    have hsink := (sink_generate hg).2
    cases hr : r.outcome with
    | ok g =>
      rw [hr] at hsink
      refine ⟨g.files, [], .inr ⟨g, ?_, rfl⟩, List.nil_subset _, ?_⟩
      · exact List.mem_append_right _ (List.mem_singleton_self g)
      · rw [hsink]; rfl
    | error e =>
      rw [hr] at hsink
      rcases hsink with ⟨_, _, hsame⟩ | ⟨_, _, _, hreset⟩
      · refine ⟨base, byHand, ?_, hbyHand, hsame ▸ hfiles⟩
        rcases hbase with rfl | ⟨g, hg, rfl⟩
        · exact .inl rfl
        · exact .inr ⟨g, List.mem_append_left _ hg, rfl⟩
      · exact whole_of_empty (by rw [hreset]; rfl)
  | createFile path content =>
    refine ⟨base, byHand ++ [(path, content)], hbase, ?_, ?_⟩
    · exact List.append_subset.mpr
        ⟨List.subset_append_of_subset_left _ hbyHand, List.subset_append_right _ _⟩
    · have hput : OrderedMap.merge base (byHand ++ [(path, content)]) =
          (OrderedMap.merge base byHand).put path content := List.foldl_append ..
      rw [hput, ← hfiles]
      rfl
  | reset => exact whole_of_empty rfl
  | save => exact ⟨base, byHand, hbase, hbyHand, hfiles⟩

theorem whole_foldl {s : Session} (h : s.Whole) (steps : List Step) :
    (steps.foldl step s).Whole := by
  induction steps generalizing s with
  | nil => exact h
  | cons step steps ih => exact ih (whole_step h step)

/-- What a further run does to the sink of a session, whatever the session did to it before. No
delegate finds a file of an earlier run there, and no session comes to hold a part of a run. -/
theorem sink_of_run (steps : List Step) (cwd : Path) (d : Document) (outputDir : Text)
    (source : OptionSource) (delegates : Delegates) :
    let before := (run steps).sink
    let r := RouterLayer.generate MemorySink.sink before cwd d outputDir source delegates
    (run steps).Whole ∧ (∀ c ∈ r.calls, c.sink = ⟨[], false, before.resets + 1⟩) ∧
      match r.outcome with
      | .ok g =>
        r.sink.files = (g.sources.map fun f => (f.path, f.render)) ∧ r.sink.saved = true ∧
          r.sink.resets = before.resets + 1
      | .error e =>
        (Run.vet source d = .error e ∧ e.refuses = true ∧ r.sink.files = before.files ∧
          r.sink.saved = before.saved ∧ r.sink.resets = before.resets) ∨
        ((∃ options, Run.vet source d = .ok options) ∧ e.interrupts = true ∧
          r.sink.files = [] ∧ r.sink.saved = false ∧ r.sink.resets = before.resets + 1) := by
  intro before r
  obtain ⟨hcalls, hsink⟩ := sink_generate (rfl : _ = r)
  refine ⟨whole_foldl whole_start steps, hcalls, ?_⟩
  cases hr : r.outcome with
  | ok g =>
    rw [hr] at hsink
    dsimp only at hsink ⊢
    rw [hsink]
    exact ⟨rfl, rfl, rfl⟩
  | error e =>
    rw [hr] at hsink
    dsimp only at hsink ⊢
    rcases hsink with ⟨hvet, he, hsame⟩ | ⟨options, hvet, he, hreset⟩
    · rw [hsame]
      exact .inl ⟨hvet, he, rfl, rfl, rfl⟩
    · rw [hreset]
      exact .inr ⟨⟨options, hvet⟩, he, rfl, rfl, rfl⟩

end Session

end RouterLayer
