import RouterLayer.Proofs.Run.Failures
import RouterLayer.Proofs.Run.Paths

/-!
How a run goes with a sink of any kind. It is refused before the sink is touched, or it resets the
sink; then it is interrupted, or it delivers its files, no two of them under one path
(`course_generate`). What a run does to a sink depends on nothing else.
-/

set_option autoImplicit false

namespace RouterLayer.Run

variable {σ : Type} (sink : Sink σ) (s : σ)

/-- The ways in which a run can go after its checks. In two of them it is the sink that fails. -/
inductive Course (vetted : Except Failure Options) (r : Report σ) : Prop
  | refused (e : Failure) (refusal : vetted = .error e) (outcome : r.outcome = .error e)
      (untouched : r.sink = s) (uncalled : r.calls = [])
  | unready (options : Options) (accepted : vetted = .ok options) (e : Failure)
      (outcome : r.outcome = .error e) (reset : sink.reset s = ⟨r.sink, .error e⟩)
  | interrupted (options : Options) (accepted : vetted = .ok options) (e : Failure)
      (outcome : r.outcome = .error e) (cause : e.interrupts = true)
      (reset : sink.reset s = ⟨r.sink, .ok ()⟩)
  | undelivered (options : Options) (accepted : vetted = .ok options) (e : Failure)
      (outcome : r.outcome = .error e) (empty : σ) (g : Generated)
      (delivery : deliver sink empty g.files = ⟨r.sink, .error e⟩)
  | delivered (options : Options) (accepted : vetted = .ok options) (g : Generated)
      (outcome : r.outcome = .ok g) (empty : σ) (reset : sink.reset s = ⟨empty, .ok ()⟩)
      (distinct : (OrderedMap.keys g.files).Nodup)
      (delivery : deliver sink empty g.files = ⟨r.sink, .ok ()⟩)

theorem course_perform {vetted : Except Failure Options} {options : Options}
    (h : vetted = .ok options) (site : Router.Site) (d : Document) (delegates : Delegates) :
    Course sink s vetted (perform sink s site d options delegates) := by
  have hbuild := interrupts_of_build site d options
  unfold perform
  cases hreset : sink.reset s with
  | mk empty outcome =>
    cases outcome with
    | error e => exact .unready options h e rfl hreset
    | ok _ =>
      have hdelegates := interrupts_of_callDelegates site delegates
        ⟨d, options, site.output.text, none⟩ empty
      dsimp only
      generalize callDelegates site delegates _ empty = delegated at hdelegates ⊢
      cases hd : delegated.outcome with
      | error e => exact .interrupted options h e rfl (hdelegates e hd) hreset
      | ok _ =>
        dsimp only
        cases hb : (build site d options).outcome with
        | error e => exact .interrupted options h e rfl (hbuild e hb) hreset
        | ok g =>
          dsimp only
          cases hdelivery : deliver sink empty g.files with
          | mk after outcome =>
            cases outcome with
            | error e => exact .undelivered options h e rfl empty g hdelivery
            | ok _ => exact .delivered options h g rfl empty hreset (nodup_files hb) hdelivery

theorem Course.withRecords {vetted : Except Failure Options} {r : Report σ}
    (h : Course sink s vetted r) (records : List Log.Record) :
    Course sink s vetted { r with records := records } := by
  cases h with
  | refused e refusal outcome untouched uncalled =>
    exact .refused e refusal outcome untouched uncalled
  | unready options accepted e outcome reset => exact .unready options accepted e outcome reset
  | interrupted options accepted e outcome cause reset =>
    exact .interrupted options accepted e outcome cause reset
  | undelivered options accepted e outcome empty g delivery =>
    exact .undelivered options accepted e outcome empty g delivery
  | delivered options accepted g outcome empty reset distinct delivery =>
    exact .delivered options accepted g outcome empty reset distinct delivery

theorem course_generate (cwd : Path) (d : Document) (outputDir : Text) (source : OptionSource)
    (delegates : Delegates) :
    Course sink s (vet source d) (generate sink s cwd d outputDir source delegates) := by
  unfold generate vet
  cases source.resolve d with
  | error e => exact .refused e rfl rfl rfl rfl
  | ok options =>
    cases d.clientGenerator with
    | error e => exact .refused e rfl rfl rfl rfl
    | ok client => exact (course_perform sink s rfl _ d delegates).withRecords sink s _

end RouterLayer.Run
