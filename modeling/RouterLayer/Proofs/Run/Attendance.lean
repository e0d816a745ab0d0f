import RouterLayer.Proofs.Run.Calls
import RouterLayer.Proofs.Sink.Files

set_option autoImplicit false

namespace RouterLayer

def Call.raised? {σ : Type} (c : Call σ) : Option Text :=
  match c.delegate.run c.context with
  | .error message => some message
  | .ok () => none

def Delegate.Role.announcement : Role → Log.Record
  | .validation => Log.record .info .run "Running validation delegate"
  | .policy => Log.record .info .run "Running policy-starter delegate"

namespace Run

section Owed

variable {σ : Type} (delegates : Delegates) (d : Document) (outputDir : Text) (options : Options)
  (s : σ)

def dueValidation : List (Call σ) :=
  due s options.withZod .validation delegates.validation
    ⟨d, options, (Path.ofText outputDir).text, none⟩

def duePolicyStarter : List (Call σ) :=
  due s options.withShield .policy delegates.policy
    ⟨d, options, ((Path.ofText outputDir).join (Path.ofText "shield")).text,
      some (Path.configured (Path.ofText outputDir) (Path.ofText options.contextPath)).text⟩

/-- The calls of a run whose options and client are known and whose sink is reset, in order. -/
def owed : List (Call σ) :=
  let first := dueValidation delegates d outputDir options s
  first ++ if first.all (·.raised?.isNone) then duePolicyStarter delegates d outputDir options s
    else []

end Owed

section Stops

variable {σ : Type}

/-- The records announce the calls. Only the run itself logs before a call, and nothing is logged
after a call that raises. -/
def Announces (records : List Log.Record) (c : Call σ) : Prop :=
  ∃ before after, records = before ++ c.role.announcement :: after ∧
    (∀ record ∈ before, record.logger = Log.Part.run.logger) ∧
    (c.raised?.isSome = true → after = [])

/-- The calls of delegates when one may raise: the first that does is called last, and its error is
the outcome. -/
structure Stops (calls : List (Call σ)) (records : List Log.Record)
    (outcome : Except Failure Unit) : Prop where
  loggers : ∀ record ∈ records, record.logger = Log.Part.run.logger
  announces : ∀ c ∈ calls, Announces records c
  failed : ∀ e, outcome = .error e → ∃ c ∈ calls, c.raised?.isSome = true
  raised : ∀ c ∈ calls, ∀ message, c.raised? = some message →
    outcome = .error (.delegateRaised message) ∧ ∃ before, calls = before ++ [c]

namespace Stops

variable {calls later : List (Call σ)} {records others : List Log.Record}
  {outcome : Except Failure Unit}

theorem none_raised (h : Stops calls records (.ok ())) : ∀ c ∈ calls, c.raised? = none := by
  intro c hc
  cases hraised : c.raised? with
  | none => rfl
  | some message =>
    obtain ⟨herror, _⟩ := h.raised c hc message hraised
    cases herror

theorem nil (h : ∀ record ∈ records, record.logger = Log.Part.run.logger) :
    Stops ([] : List (Call σ)) records (.ok ()) :=
  ⟨h, fun _ h => (nomatch h), fun _ h => (nomatch h), fun _ h => nomatch h⟩

theorem append (h : Stops calls records (.ok ())) (hlater : Stops later others outcome) :
    Stops (calls ++ later) (records ++ others) outcome where
  loggers _ hrecord := (List.mem_append.mp hrecord).elim (h.loggers _) (hlater.loggers _)
  announces c hc := by
    rcases List.mem_append.mp hc with hc | hc
    · obtain ⟨before, after, rfl, hbefore, _⟩ := h.announces c hc
      refine ⟨before, after ++ others, by simp, hbefore, fun hraised => ?_⟩
      rw [h.none_raised c hc] at hraised
      cases hraised
    · obtain ⟨before, after, rfl, hbefore, hafter⟩ := hlater.announces c hc
      refine ⟨records ++ before, after, (List.append_assoc ..).symm, fun record hrecord => ?_,
        hafter⟩
      exact (List.mem_append.mp hrecord).elim (h.loggers record) (hbefore record)
  failed e he := by
    obtain ⟨c, hc, hraised⟩ := hlater.failed e he
    exact ⟨c, List.mem_append_right calls hc, hraised⟩
  raised c hc message hraised := by
    rcases List.mem_append.mp hc with hc | hc
    · rw [h.none_raised c hc] at hraised
      cases hraised
    · obtain ⟨houtcome, before, rfl⟩ := hlater.raised c hc message hraised
      exact ⟨houtcome, calls ++ before, (List.append_assoc ..).symm⟩

end Stops

variable (site : Router.Site) (delegates : Delegates) (context : RunContext) (s : σ)

theorem stops_callDelegate {role : Delegate.Role} (delegate : Option Delegate)
    {announcement : Text} (warning : Text)
    (h : role.announcement = Log.record .info .run announcement) :
    Stops (callDelegate role delegate announcement warning context s).calls
      (callDelegate role delegate announcement warning context s).records
      (callDelegate role delegate announcement warning context s).outcome := by
  cases delegate with
  | none => exact .nil (List.forall_mem_singleton.mpr rfl)
  | some given =>
    have hraised : (Call.mk role given context s).raised? = match given.run context with
        | .error message => some message
        | .ok () => none := rfl
    refine ⟨List.forall_mem_singleton.mpr rfl, List.forall_mem_singleton.mpr ?_, fun e he => ?_,
      fun c hc message hmessage => ?_⟩
    · exact ⟨[], [], by rw [h]; rfl, fun _ h => (nomatch h), fun _ => rfl⟩
    · refine ⟨⟨role, given, context, s⟩, List.mem_singleton_self _, ?_⟩
      cases hrun : given.run context with
      | ok _ =>
        rw [callDelegate, hrun] at he
        cases he
      | error message => rw [hraised, hrun]; rfl
    · rw [List.mem_singleton.mp hc] at hmessage ⊢
      refine ⟨?_, [], rfl⟩
      cases hrun : given.run context with
      | ok _ =>
        rw [hraised, hrun] at hmessage
        cases hmessage
      | error raised =>
        rw [hraised, hrun] at hmessage
        cases hmessage
        rw [callDelegate, hrun]
        rfl

theorem stops_callValidation : Stops (callValidation delegates context s).calls
    (callValidation delegates context s).records
    (callValidation delegates context s).outcome := by
  unfold callValidation
  split
  · exact stops_callDelegate _ _ _ _ rfl
  · exact .nil fun _ h => nomatch h

theorem stops_callPolicyStarter : Stops (callPolicyStarter site delegates context s).calls
    (callPolicyStarter site delegates context s).records
    (callPolicyStarter site delegates context s).outcome := by
  unfold callPolicyStarter
  split
  · exact stops_callDelegate _ _ _ _ rfl
  · exact .nil fun _ h => nomatch h

theorem stops_callDelegates : Stops (callDelegates site delegates context s).calls
    (callDelegates site delegates context s).records
    (callDelegates site delegates context s).outcome := by
  have hfirst := stops_callValidation delegates context s
  unfold callDelegates
  dsimp only
  split
  · next e he => rwa [he] at hfirst
  · next hreturned =>
    rw [hreturned] at hfirst
    exact hfirst.append (stops_callPolicyStarter site delegates context s)

theorem calls_eq_owed (cwd : Path) (d : Document) (outputDir : Text) (options : Options) :
    (callDelegates ⟨cwd, Path.ofText outputDir⟩ delegates
      ⟨d, options, (Path.ofText outputDir).text, none⟩ s).calls =
        owed delegates d outputDir options s := by
  generalize hcontext : RunContext.mk d options (Path.ofText outputDir).text none = context
  have hfirst := stops_callValidation delegates context s
  have hdue : (callValidation delegates context s).calls =
      dueValidation delegates d outputDir options s := by
    rw [due_callValidation, ← hcontext]
    rfl
  unfold callDelegates owed
  dsimp only
  split
  · next e he =>
    obtain ⟨c, hc, hraised⟩ := hfirst.failed e he
    rw [hdue] at hc ⊢
    rw [if_neg, List.append_nil]
    intro hall
    have hnone := Option.isNone_iff_eq_none.mp (List.all_eq_true.mp hall c hc)
    rw [hnone] at hraised
    cases hraised
  · next hreturned =>
    rw [hreturned] at hfirst
    rw [hdue, due_callPolicyStarter, if_pos]
    · rw [← hcontext]
      rfl
    · rw [List.all_eq_true]
      intro c hc
      rw [hfirst.none_raised c (hdue ▸ hc)]
      rfl

end Stops

/-- How a run deals with its delegates. They are called only when the options are valid, the client
is there and the sink could be reset. After one that raises the run calls, logs, creates and saves
nothing more. -/
structure Attends {σ : Type} (sink : Sink σ) (s : σ) (d : Document) (outputDir : Text)
    (source : OptionSource) (delegates : Delegates) (r : Report σ) : Prop where
  calls : r.calls = match source.resolve d, d.clientGenerator, sink.reset s with
    | .ok options, .ok _, ⟨empty, .ok ()⟩ => owed delegates d outputDir options empty
    | _, _, _ => []
  announces : ∀ c ∈ r.calls, Announces r.records c
  raised : ∀ c ∈ r.calls, ∀ message, c.raised? = some message →
    r.outcome = .error (.delegateRaised message) ∧ r.sink = c.sink ∧
      ∃ before, r.calls = before ++ [c]

section Attends

variable {σ : Type} (sink : Sink σ) (s : σ) (cwd : Path) (d : Document) (outputDir : Text)
  (source : OptionSource) (delegates : Delegates)

theorem sink_of_mem_owed {options : Options} :
    ∀ c ∈ owed delegates d outputDir options s, c.sink = s := by
  intro c hc
  rcases List.mem_append.mp hc with hc | hc
  · exact (of_mem_due hc).2.2
  · split at hc
    · exact (of_mem_due hc).2.2
    · cases hc

/-- Once the sink is reset the delegates are called; how the run goes on is up to them first. -/
theorem perform_of_reset (site : Router.Site) (options : Options) {empty : σ}
    (h : sink.reset s = ⟨empty, .ok ()⟩) :
    let delegated := callDelegates site delegates ⟨d, options, site.output.text, none⟩ empty
    let r := perform sink s site d options delegates
    r.calls = delegated.calls ∧ (∃ later, r.records = delegated.records ++ later) ∧
      ∀ e, delegated.outcome = .error e →
        r = ⟨.error e, delegated.records, delegated.calls, empty⟩ := by
  dsimp only
  rw [perform, h]
  dsimp only
  split
  · next e he =>
    refine ⟨rfl, ⟨[], (List.append_nil _).symm⟩, fun e' he' => ?_⟩
    rw [he] at he'
    cases he'
    rfl
  · next hok =>
    refine ⟨?_, ?_, fun e he => ?_⟩
    · split
      · rfl
      · split <;> rfl
    · split
      · exact ⟨_, rfl⟩
      · split
        · exact ⟨_, rfl⟩
        · exact ⟨_, List.append_assoc ..⟩
    · rw [hok] at he
      cases he

theorem attends_generate : Attends sink s d outputDir source delegates
    (generate sink s cwd d outputDir source delegates) := by
  unfold generate
  cases hsource : source.resolve d with
  | error e => exact ⟨by rw [hsource], fun _ h => (nomatch h), fun _ h => nomatch h⟩
  | ok options =>
  cases hclient : d.clientGenerator with
  | error e => exact ⟨by rw [hsource, hclient], fun _ h => (nomatch h), fun _ h => nomatch h⟩
  | ok client =>
  dsimp only
  cases hreset : sink.reset s with
  | mk empty outcome =>
  cases outcome with
  | error e =>
    rw [perform, hreset]
    exact ⟨by rw [hsource, hclient, hreset], fun _ h => (nomatch h), fun _ h => nomatch h⟩
  | ok _ =>
  obtain ⟨hcalls, ⟨later, hrecords⟩, hstop⟩ :=
    perform_of_reset sink s d delegates ⟨cwd, Path.ofText outputDir⟩ options hreset
  have howed := hcalls.trans (calls_eq_owed delegates empty cwd d outputDir options)
  have hstops := stops_callDelegates ⟨cwd, Path.ofText outputDir⟩ delegates
    ⟨d, options, (Path.ofText outputDir).text, none⟩ empty
  refine ⟨by rw [hsource, hclient, hreset]; exact howed, fun c hc => ?_,
    fun c hc message hraised => ?_⟩
  · obtain ⟨before, after, hsplit, hbefore, hafter⟩ := hstops.announces c (hcalls ▸ hc)
    refine ⟨clientRecord client :: before, after ++ later, ?_,
      List.forall_mem_cons.mpr ⟨rfl, hbefore⟩, fun hraised => ?_⟩
    · rw [hrecords, hsplit]
      simp
    · obtain ⟨message, hmessage⟩ := Option.isSome_iff_exists.mp hraised
      have hsame := hstop _ (hstops.raised c (hcalls ▸ hc) message hmessage).1
      rw [hsame] at hrecords
      rw [hafter hraised, List.self_eq_append_right.mp hrecords, List.nil_append]
  · obtain ⟨houtcome, hlast⟩ := hstops.raised c (hcalls ▸ hc) message hraised
    have hsink := sink_of_mem_owed empty d outputDir delegates c (howed ▸ hc)
    rw [hstop _ houtcome]
    exact ⟨rfl, hsink.symm, hlast⟩

theorem sink_of_attends {r : Report σ} (h : Attends sink s d outputDir source delegates r) :
    ∀ c ∈ r.calls, sink.reset s = ⟨c.sink, .ok ()⟩ := by
  intro c hc
  rw [h.calls] at hc
  split at hc
  · next hreset =>
    rw [sink_of_mem_owed _ d outputDir delegates c hc]
    exact hreset
  · cases hc

end Attends

end Run

/-- Delegates run at most once, in order, on a sink that is reset and empty, before anything is
built; the error of one that raises ends the run, with nothing created. -/
theorem attends_delegates (cwd : Path) (d : Document) (outputDir : Text) (source : OptionSource)
    (delegates : Delegates) :
    (∀ s : MemorySink,
      let r := generate MemorySink.sink s cwd d outputDir source delegates
      Run.Attends MemorySink.sink s d outputDir source delegates r ∧
        ∀ c ∈ r.calls, c.sink = ⟨[], false, s.resets + 1⟩) ∧
      ∀ (s : FileSink) (root : Text), s.tree.WellFormed →
        let r := generate (FileSink.sink (Path.ofText root)) s cwd d outputDir source delegates
        Run.Attends (FileSink.sink (Path.ofText root)) s d outputDir source delegates r ∧
          ∀ c ∈ r.calls, c.sink.pending = [] ∧
            ∃ place, s.tree.Emptied (Path.ofText root) place c.sink.tree := by
  refine ⟨fun s => ?_, fun s root hs => ?_⟩
  · have hattends := Run.attends_generate MemorySink.sink s cwd d outputDir source delegates
    refine ⟨hattends, fun c hc => ?_⟩
    exact (congrArg Stepped.state (Run.sink_of_attends _ s d outputDir source delegates hattends
      c hc)).symm
  · have hattends := Run.attends_generate (FileSink.sink (Path.ofText root)) s cwd d outputDir
      source delegates
    refine ⟨hattends, fun c hc => ?_⟩
    exact FileSink.reset_ok hs (Path.clean_ofText root)
      (Run.sink_of_attends _ s d outputDir source delegates hattends c hc)

namespace Run

def cluttered : FileTree where
  cwd := ["work"]
  entries := [(["work"], .directory), (["work", "gen"], .directory),
    (["work", "gen", "old.ts"], .file "export {}")]

/-- The validation minds a place of the context, the policy starter minds that it is given one. -/
def strict : Delegates where
  validation := some ⟨"validate", fun context => if context.contextPath.isSome then .error "early"
    else .ok ()⟩
  policy := some ⟨"start", fun context => match context.contextPath with
    | some path => .error ("no context at " ++ path)
    | none => .ok ()⟩

def clientOnly : Document := ⟨[], [], [⟨.null, .str "prisma-client-js", []⟩], .null, []⟩

def strictRun : Report FileSink :=
  generate (FileSink.sink (Path.ofText "gen")) ⟨cluttered, [("left.ts", "")]⟩
    (Path.ofText "/work") clientOnly "gen" (.checked Options.default) strict

end Run

/-- Both delegates are called after the old file is gone, and the second one ends the run. -/
theorem attends_delegates_strict :
    Run.cluttered.WellFormed ∧
      Run.Attends (FileSink.sink (Path.ofText "gen")) ⟨Run.cluttered, [("left.ts", "")]⟩
        Run.clientOnly "gen" (.checked Options.default) Run.strict Run.strictRun ∧
      Run.strictRun.calls.map (·.role) = [.validation, .policy] ∧
      Run.strictRun.calls.map (·.context.outputDir) = ["gen", "gen/shield"] ∧
      Run.strictRun.calls.map (·.raised?) =
        [none, some ("no context at ../../../src/context" : Text)] ∧
      (∀ c ∈ Run.strictRun.calls, c.sink.pending = [] ∧
        ∃ place, Run.cluttered.Emptied (Path.ofText "gen") place c.sink.tree) ∧
      Run.strictRun.sink.tree =
        ⟨["work"], [(["work"], .directory), (["work", "gen"], .directory)]⟩ := by
  have hs : Run.cluttered.WellFormed := ⟨by decide +kernel, by decide +kernel, by decide +kernel⟩
  have hrun := (attends_delegates (Path.ofText "/work") Run.clientOnly "gen"
    (.checked Options.default) Run.strict).2 ⟨Run.cluttered, [("left.ts", "")]⟩ "gen" hs
  exact ⟨hs, hrun.1, by decide +kernel, by decide +kernel, by decide +kernel, hrun.2,
    by decide +kernel⟩

end RouterLayer
