import RouterLayer.Proofs.Log.Hierarchy

set_option autoImplicit false

namespace RouterLayer.Log

/-- The loggers, the standard error stream of the moment, and all lines that were written so far,
each with its stream. -/
structure Session where
  hierarchy : Hierarchy
  stderr : Nat
  written : List (Nat × Text)

namespace Session

inductive Step
  | redirect (stream : Nat)
  | configure (flags : Flags)
  | log (logger : Option Text) (level : Level) (message : Text)
  deriving DecidableEq, Repr

def Step.isConfigure : Step → Bool
  | .configure _ => true
  | _ => false

def step (s : Session) : Step → Session
  | .redirect stream => { s with stderr := stream }
  | .configure flags => { s with hierarchy := s.hierarchy.configure flags s.stderr }
  | .log logger level message =>
    { s with
      written := s.written ++ s.hierarchy.emit s.stderr ⟨level, loggerName logger, message⟩ }

def run (s : Session) (steps : List Step) : Session := steps.foldl step s

variable {s : Session} {flags : Flags} {stream : Nat}

theorem run_append (s : Session) (before after : List Step) :
    s.run (before ++ after) = (s.run before).run after := List.foldl_append

theorem untouched_step (h : s.hierarchy.Untouched) (step : Step) :
    (s.step step).hierarchy.Untouched := by
  cases step with
  | redirect stream => exact h
  | configure flags => exact (h.configured flags s.stderr).untouched
  | log logger level message => exact h

theorem untouched_run (h : s.hierarchy.Untouched) (steps : List Step) :
    (s.run steps).hierarchy.Untouched := by
  induction steps generalizing s with
  | nil => exact h
  | cons step rest ih => exact ih (untouched_step h step)

theorem configured_step (h : Configured s.hierarchy flags stream) {step : Step}
    (hstep : step.isConfigure = false) : Configured (s.step step).hierarchy flags stream := by
  cases step with
  | redirect _ => exact h
  | configure _ => cases hstep
  | log _ _ _ => exact h

theorem configured_run (h : Configured s.hierarchy flags stream) {steps : List Step}
    (hsteps : ∀ step ∈ steps, step.isConfigure = false) :
    Configured (s.run steps).hierarchy flags stream := by
  induction steps generalizing s with
  | nil => exact h
  | cons step rest ih =>
    obtain ⟨hstep, hrest⟩ := List.forall_mem_cons.mp hsteps
    exact ih (configured_step h hstep) hrest

theorem configured_last (h : s.hierarchy.Untouched) (before : List Step) (flags : Flags)
    {between : List Step} (hbetween : ∀ step ∈ between, step.isConfigure = false) :
    Configured (s.run (before ++ .configure flags :: between)).hierarchy flags
      (s.run before).stderr := by
  rw [run_append]
  exact configured_run (s := (s.run before).step (.configure flags))
    ((untouched_run h before).configured flags _) hbetween

/-- After any steps, a configuration, and any steps without a further one, a record of the program
adds one line on the stream that was current at the configuration if its level reaches the threshold
of the flags, and nothing otherwise. The line carries the level only above information. The record
comes to its own logger and the root logger of the program alone, so never to the topmost logger. -/
theorem shows_once (h : s.hierarchy.Untouched) (before between : List Step) (flags : Flags)
    (hbetween : ∀ step ∈ between, step.isConfigure = false) (logger : Option Text) (level : Level)
    (message : Text) :
    let session := s.run (before ++ .configure flags :: between)
    let least : Int := if flags.verbose then 10 else if flags.quiet then 30 else 20
    (session.step (.log logger level message)).written =
        session.written ++
          (if least ≤ level.number then
            [((s.run before).stderr,
              (if 20 < level.number then "[" ++ Text.lower level.name ++ "] " else []) ++
                message ++ "\n")]
          else []) ∧
      session.hierarchy.reached (lineage (loggerName logger)) =
        (if loggerName logger = rootLogger then [rootLogger]
        else [loggerName logger, rootLogger]) ∧
      [] ∉ session.hierarchy.reached (lineage (loggerName logger)) := by
  intro session least
  have hc : Configured session.hierarchy flags (s.run before).stderr :=
    configured_last h before flags hbetween
  have hleast : flags.threshold.admits level = true ↔ least ≤ level.number := by
    obtain ⟨verbose, quiet⟩ := flags
    cases verbose <;> cases quiet <;> exact decide_eq_true_iff
  refine ⟨congrArg (session.written ++ ·) ?_, hc.reached logger, hc.top_not_mem_reached logger⟩
  rw [hc.emit, Format.tagged_line]
  simp only [hleast]

/-- A process in which others have logged: two handlers for a stream that is gone stand on the root
logger of the program, and one for the stream 8 on the topmost logger. -/
def crowded : Session :=
  ⟨⟨[([], ⟨.warning, [⟨.unset, 8, .message⟩], true⟩),
    (rootLogger, ⟨.debug, [⟨.debug, 9, .message⟩, ⟨.debug, 9, .message⟩], true⟩)]⟩, 2, []⟩

theorem untouched_crowded : crowded.hierarchy.Untouched := by
  intro short
  have htop : ([] : Text) ≠ child short := (List.cons_ne_nil _ _).symm
  rw [Hierarchy.logger, crowded, OrderedMap.find?, if_neg htop, OrderedMap.find?,
    if_neg (child_ne_rootLogger short).symm]
  rfl

/-- The second configuration counts, and the stream that was current then, though the standard error
stream is another by the time of the message. -/
theorem shows_once_crowded :
    let before : List Step := [.configure ⟨true, false⟩, .redirect 5]
    let between : List Step := [.redirect 6, .log none .info "passed over"]
    crowded.hierarchy.Untouched ∧ (∀ step ∈ between, step.isConfigure = false) ∧
      ((crowded.run (before ++ .configure ⟨false, true⟩ :: between)).step
          (.log (some "routergen.policy") .warning "no rule")).written =
        [(5, ("[warning] no rule\n" : Text))] ∧
      [] ∉ (crowded.run (before ++ .configure ⟨false, true⟩ :: between)).hierarchy.reached
        (lineage (loggerName (some "routergen.policy"))) := by
  intro before between
  have hbetween : ∀ step ∈ between, step.isConfigure = false := by decide
  obtain ⟨hwritten, -, htop⟩ := shows_once untouched_crowded before between ⟨false, true⟩ hbetween
    (some "routergen.policy") .warning "no rule"
  refine ⟨untouched_crowded, hbetween, hwritten.trans ?_, htop⟩
  decide

end Session

end RouterLayer.Log
