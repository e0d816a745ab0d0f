import RouterLayer.Command.Run
import RouterLayer.Proofs.Delegate.Reference
import RouterLayer.Proofs.Document.Unguarded
import RouterLayer.Proofs.Run.Failures
import RouterLayer.Proofs.Text.Plain

/-!
How a command ends. What it does before its run cannot touch a file, so whatever stops it there
leaves the tree as it was, and it is neither a collision of names nor an error of a delegate
(`way`). A command that exits with zero was asked for help (`exitCode_stopped`), or it has generated
something and said how many files there are (`finished_exitCode`).
-/

set_option autoImplicit false

namespace RouterLayer.Command

/-- What a command comes to: what it generated, or what stopped it. -/
def ending (around : Surroundings) (arguments : List Text) : Except Stop Generated := do
  let i ← Invocation.ofArguments around arguments
  let document ← (loadSchema around i.schema).outcome.mapError Stop.failure
  let (options, delegates) ← prepare around i document
  (generate (FileSink.sink (Path.ofText i.output)) ⟨around.tree, []⟩ around.cwd document i.output
    (.given options) delegates).outcome.mapError Stop.failure

/-- Whether the words of a command line can be read and one of them asks for help. -/
def asksForHelp (arguments : List Text) : Bool :=
  match readWords arguments with
  | .ok words => words.isGiven .help
  | .error _ => false

namespace Stop

/-- What the program foresees to stop a command before anything is generated: the wish for help,
wrong usage, a document, options or a reference at fault, a client generator that is missing. -/
def isEarly : Stop → Bool
  | .help | .usage _ => true
  | .failure (.document _) | .failure (.options _) | .failure (.noClient _) => true
  | .failure (.delegateReference _) => true
  | _ => false

/-- What stops a command once its output directory is empty: names that collide, and errors that
delegates raise. -/
def isLate : Stop → Bool
  | .failure (.collision ..) | .failure (.delegateRaised _) => true
  | _ => false

/-- What stops a command before its run, but for the wish for help. -/
def isInterim : Stop → Bool
  | .help => false
  | .usage _ => true
  | .failure e => !isLate (.failure e)

end Stop

/-- A part of a command that cannot be stopped otherwise. -/
def Interim {α : Type} (x : Except Stop α) : Prop := ∀ stop, x = .error stop → stop.isInterim = true

namespace Interim

variable {α β : Type}

theorem ok (a : α) : Interim (.ok a) := fun _ h => nomatch h

theorem error {stop : Stop} (h : stop.isInterim = true) :
    Interim (.error stop : Except Stop α) := by
  rintro _ ⟨⟩
  exact h

theorem bind {x : Except Stop α} {f : α → Except Stop β} (hx : Interim x)
    (hf : ∀ a, Interim (f a)) : Interim (x >>= f) := by
  cases x with
  | error stop => exact error (hx stop rfl)
  | ok a => exact hf a

theorem usage (x : Except UsageFault α) : Interim (x.mapError Stop.usage) := by
  cases x with
  | error fault => exact error rfl
  | ok a => exact ok a

theorem failure {x : Except Failure α}
    (hx : ∀ e, x = .error e → (Stop.failure e).isInterim = true) :
    Interim (x.mapError Stop.failure) := by
  cases x with
  | error e => exact error (hx e rfl)
  | ok a => exact ok a

theorem forM {f : α → Except Stop Unit} (hf : ∀ a, Interim (f a)) (xs : List α) :
    Interim (xs.forM f) := by
  induction xs with
  | nil => exact ok ()
  | cons x xs ih => exact bind (hf x) fun _ => ih

end Interim

section Stages

variable (around : Surroundings)

theorem interim_findEntry (path : Text) : Interim (findEntry around path) := by
  unfold findEntry
  split
  · exact .ok _
  · exact .error rfl
  · exact .error rfl
  · exact .ok _

theorem interim_checkFile (p : Parameter) (path : Text) :
    Interim (checkFile around p path) := by
  refine .bind (interim_findEntry around path) fun entry => ?_
  split
  · exact .error rfl
  · exact .error rfl
  · exact .ok _

theorem interim_checkDirectory (p : Parameter) (path : Text) :
    Interim (checkDirectory around p path) := by
  refine .bind (interim_findEntry around path) fun entry => ?_
  split
  · exact .error rfl
  · exact .ok _

theorem interim_checkParameter (w : Words) (p : Parameter) :
    Interim (checkParameter around w p) := by
  unfold checkParameter
  split
  · split
    · exact interim_checkFile around _ _
    · exact .error rfl
  · split
    · exact interim_checkDirectory around _ _
    · exact .error rfl
  · split
    · exact interim_checkFile around _ _
    · exact .ok _
  · exact .ok _

/-- Help that is asked for comes before anything else that could stop the command. -/
theorem ofArguments_of_help {arguments : List Text} (h : asksForHelp arguments = true) :
    Invocation.ofArguments around arguments = .error .help := by
  unfold asksForHelp at h
  unfold Invocation.ofArguments
  cases hwords : readWords arguments with
  | error fault => rw [hwords] at h; cases h
  | ok w =>
    rw [hwords] at h
    change Invocation.ofWords around w = _
    rw [Invocation.ofWords, checkHelp, if_pos h]
    rfl

theorem interim_ofArguments {arguments : List Text} (h : asksForHelp arguments = false) :
    Interim (Invocation.ofArguments around arguments) := by
  unfold asksForHelp at h
  unfold Invocation.ofArguments
  cases hwords : readWords arguments with
  | error fault => exact .error rfl
  | ok w =>
    rw [hwords] at h
    change Interim (Invocation.ofWords around w)
    rw [Invocation.ofWords, checkHelp, if_neg (Bool.eq_false_iff.mp h)]
    exact .bind (.ok _) fun _ => .bind (.forM (interim_checkParameter around w) _) fun _ =>
      .bind (.usage _) fun _ => .ok _

theorem interim_loadSchema (path : Text) :
    Interim ((loadSchema around path).outcome.mapError Stop.failure) := by
  refine .failure fun e h => ?_
  by_cases he : ∃ f, e = .document f
  · obtain ⟨f, rfl⟩ := he
    rfl
  · replace he (f : Document.Fault) : e ≠ .document f := fun hf => he ⟨f, hf⟩
    unfold loadSchema at h
    dsimp only at h
    split at h
    · rw [Document.readText_eq_error he] at h
      split at h
      · rw [h.1]
        rfl
      · cases h
      · rw [h]
        rfl
      · rw [h]
        rfl
    · exact absurd h (Document.fault_ne_error he _)
    · exact absurd h (Document.fault_ne_error he _)

theorem interim_readConfig (path : Text) : Interim (readConfig around path) := by
  unfold readConfig
  dsimp only
  split
  · split <;> first | exact .ok _ | exact .error rfl
  · exact .error rfl
  · exact .error rfl

theorem interim_of_load {modules : List Delegate.Module} {reference : Text} {e : Failure}
    (h : Delegate.load modules reference = .error e) : (Stop.failure e).isInterim = true := by
  rcases (Delegate.Registry.load_eq_error.mp h).cases with ⟨-, rfl⟩ | ⟨fault, rfl⟩
  · rfl
  · rfl

theorem interim_of_loadDelegates {modules : List Delegate.Module} {i : Invocation} {e : Failure}
    (h : loadDelegates modules i = .error e) : (Stop.failure e).isInterim = true := by
  have hoptional {reference : Option Text} (h : loadOptional modules reference = .error e) :
      (Stop.failure e).isInterim = true := by
    cases reference with
    | none => cases h
    | some reference => exact interim_of_load (map_eq_error.mp h)
  rcases bind_eq_error.mp h with h | ⟨_, _, h⟩
  · exact hoptional h
  · rcases bind_eq_error.mp h with h | ⟨_, _, h⟩
    · exact hoptional h
    · cases h

theorem interim_prepare (i : Invocation) (d : Document) : Interim (prepare around i d) := by
  have hsettle : Interim (settleOptions around i d) := by
    unfold settleOptions
    dsimp only
    split
    · exact .bind (interim_readConfig around _) fun _ => .bind (.usage _) fun _ => .ok _
    · exact .bind (.ok _) fun _ => .bind (.usage _) fun _ => .ok _
  exact .bind hsettle fun _ => .bind (.failure fun e => interim_of_loadDelegates) fun _ => .ok _

end Stages

def conclude (width : Nat) (log : Text) (output : Path) (report : Report FileSink) : Result :=
  match report.outcome with
  | .error e => stopped width report.sink.tree log report.calls (.failure e)
  | .ok g => finished width report.sink log report.calls output g

/-- The ways that a command can go: it gives help, it is stopped before its run, or it runs with
what it has read. -/
inductive Way (around : Surroundings) (arguments : List Text) (width : Nat) : Prop
  | helped (asked : asksForHelp arguments = true) (ending : ending around arguments = .error .help)
      (result : run around arguments width = stopped width around.tree [] [] .help)
  | stopped (stop : Stop) (ending : ending around arguments = .error stop)
      (interim : stop.isInterim = true)
      (result : ∃ log, run around arguments width = stopped width around.tree log [] stop)
  | ran (i : Invocation) (d : Document) (options : OrderedMap Json) (delegates : Delegates)
      (report : Report FileSink) (read : Invocation.ofArguments around arguments = .ok i)
      (loaded : (loadSchema around i.schema).outcome = .ok d)
      (performed : generate (FileSink.sink (Path.ofText i.output)) ⟨around.tree, []⟩ around.cwd d
        i.output (.given options) delegates = report)
      (ending : ending around arguments = report.outcome.mapError Stop.failure)
      (result : ∃ log, run around arguments width =
        conclude width log (Path.ofText i.output) report)

theorem way (around : Surroundings) (arguments : List Text) (width : Nat) :
    Way around arguments width := by
  cases hi : Invocation.ofArguments around arguments with
  | error stop =>
    have hending : ending around arguments = .error stop := by
      rw [ending, hi]
      rfl
    have hrun : run around arguments width = stopped width around.tree [] [] stop := by
      rw [run, hi]
    cases hhelp : asksForHelp arguments with
    | false => exact .stopped stop hending (interim_ofArguments around hhelp stop hi) ⟨[], hrun⟩
    | true =>
      cases hi.symm.trans (ofArguments_of_help around hhelp)
      exact .helped hhelp hending hrun
  | ok i =>
    have hending : ending around arguments =
        (loadSchema around i.schema).outcome.mapError Stop.failure >>= fun d =>
          prepare around i d >>= fun settled =>
            (generate (FileSink.sink (Path.ofText i.output)) ⟨around.tree, []⟩ around.cwd d i.output
              (.given settled.1) settled.2).outcome.mapError Stop.failure := by
      rw [ending, hi]
      rfl
    have hrun : run around arguments width = runInvocation width around i := by rw [run, hi]
    have hload := interim_loadSchema around i.schema
    unfold runInvocation at hrun
    dsimp only at hrun
    cases hd : (loadSchema around i.schema).outcome with
    | error e =>
      rw [hd] at hending hrun hload
      exact .stopped (.failure e) hending (hload _ rfl) ⟨_, hrun⟩
    | ok d =>
      rw [hd] at hending hrun
      change _ = prepare around i d >>= _ at hending
      dsimp only at hrun
      cases hprepare : prepare around i d with
      | error stop =>
        rw [hprepare] at hending hrun
        exact .stopped stop hending (interim_prepare around i d stop hprepare) ⟨_, hrun⟩
      | ok settled =>
        rw [hprepare] at hending hrun
        exact .ran i d settled.1 settled.2 _ hi hd rfl hending ⟨_, hrun⟩

section Result

variable (width : Nat) (tree : FileTree) (sink : FileSink) (log : Text)
variable (calls : List (Call FileSink))

theorem tree_stopped (stop : Stop) : (stopped width tree log calls stop).tree = tree ∧
    (stopped width tree log calls stop).calls = calls := by
  cases stop with
  | help => exact ⟨rfl, rfl⟩
  | usage fault => exact ⟨rfl, rfl⟩
  | failure e =>
    unfold stopped
    dsimp only
    split
    · exact ⟨rfl, rfl⟩
    · exact ⟨rfl, rfl⟩

theorem exitCode_stopped {stop : Stop} (h : (stopped width tree log calls stop).exitCode = 0) :
    stop = .help := by
  cases stop with
  | help => rfl
  | usage fault => cases h
  | failure e =>
    unfold stopped at h
    dsimp only at h
    split at h
    · cases h
    · cases h

def tally (n : Nat) : Text := (" (" : Text) ++ toString n ++ " files)\n"

theorem ofString_toString (n : Nat) :
    Text.ofString (toString n) = Text.ofChars (Nat.toDigits 10 n) := by
  rw [Text.ofString, show toString n = String.ofList (Nat.toDigits 10 n) from rfl,
    String.toList_ofList]

theorem isDigit_of_mem {c : Char} {n : Nat} (h : c ∈ Nat.toDigits 10 n) :
    0x30 ≤ c.toNat ∧ c.toNat ≤ 0x39 := by
  have hdigit := Nat.isDigit_of_mem_toDigits (by decide) (by decide) h
  simpa [Char.isDigit, UInt32.le_iff_toNat_le] using hdigit

theorem not_mem_tally {c : Char} (hopening : CodePoint.char c ∉ (" (" : Text))
    (hclosing : CodePoint.char c ∉ (" files)\n" : Text)) (hdigit : c.toNat < 0x30) (n : Nat) :
    CodePoint.char c ∉ tally n := by
  rw [tally, ofString_toString]
  simp only [List.mem_append, not_or]
  refine ⟨⟨hopening, fun hmem => ?_⟩, hclosing⟩
  obtain ⟨digit, hmem, heq⟩ := List.mem_map.mp hmem
  cases heq
  exact absurd (isDigit_of_mem hmem).1 (Nat.not_le_of_lt hdigit)

/-- Whatever path stands in front of it, the number is shown. -/
theorem tally_isSuffix (front : Text) (n : Nat) :
    tally n <:+ unifyPairs (Text.plain (front ++ tally n)) := by
  obtain ⟨d, digits, hdigits⟩ := List.exists_cons_of_ne_nil (Nat.toDigits_ne_nil (b := 10) (n := n))
  have htally : tally n = .char ' ' :: .char '(' :: .char d ::
      (Text.ofChars digits ++ (" files)\n" : Text)) := by
    rw [tally, ofString_toString, hdigits]
    rfl
  have hd := isDigit_of_mem (hdigits ▸ List.mem_cons_self : d ∈ Nat.toDigits 10 n)
  have hintermediate : Text.isControlIntermediate (.char d) = false :=
    Bool.and_eq_false_iff.mpr (.inr (decide_eq_false (Nat.not_le_of_lt hd.1)))
  have hfinal : Text.isControlFinal (.char d) = false :=
    Bool.and_eq_false_iff.mpr
      (.inl (decide_eq_false (Nat.not_le_of_lt (Nat.lt_of_le_of_lt hd.2 (by decide)))))
  obtain ⟨shown, hshown⟩ := Text.plain_append (fun s hs => by
      rw [htally]
      exact Text.controlLength_append_le hs hintermediate hfinal _)
    (not_mem_tally (by decide) (by decide) (by decide) n) front
  obtain ⟨printed, hprinted⟩ : ∃ printed, unifyPairs (shown ++ tally n) = printed ++ tally n :=
    Text.replaceAll_append (not_mem_tally (by decide) (by decide) (by decide) n)
      (by rw [htally]; nofun) shown
  rw [hshown]
  exact ⟨printed, hprinted.symm⟩

theorem finished_exitCode {output : Path} {g : Generated}
    (h : (finished width sink log calls output g).exitCode = 0) :
    (finished width sink log calls output g).tree = sink.tree ∧
      tally g.sources.length <:+ (finished width sink log calls output g).stdout := by
  unfold finished at h ⊢
  dsimp only at h ⊢
  split at h
  · next hencodable =>
    rw [if_pos hencodable]
    refine ⟨rfl, ?_⟩
    have hline := tally_isSuffix ("Generated " ++ output.text) g.sources.length
    rw [tally, ← List.append_assoc, ← List.append_assoc] at hline
    exact hline
  · cases exitCode_stopped _ _ _ _ h

end Result

end RouterLayer.Command
