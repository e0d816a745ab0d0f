import RouterLayer.Log.Hierarchy

set_option autoImplicit false

namespace RouterLayer.Log

def child (short : Text) : Text := rootLogger ++ "." ++ short

/-- The loggers of the parts are as they were made, so they hand everything to the root logger. -/
def Hierarchy.Untouched (h : Hierarchy) : Prop := ∀ short, h.logger (child short) = .blank

theorem child_ne_rootLogger (short : Text) : child short ≠ rootLogger := by
  intro h
  have hlength : (child short).length = rootLogger.length + 1 + short.length := by
    rw [child, List.length_append, List.length_append]
    rfl
  rw [h] at hlength
  omega

theorem loggerName_cases (name : Option Text) :
    loggerName name = rootLogger ∨ ∃ short, .char '.' ∉ short ∧ loggerName name = child short := by
  cases name with
  | none => exact .inl rfl
  | some s =>
    rw [loggerName]
    split
    · exact .inl rfl
    · refine .inr ⟨Text.afterLast '.' s, fun hdot => ?_, rfl⟩
      have hall := List.all_eq_true.mp List.all_takeWhile _ (List.mem_reverse.mp hdot)
      exact absurd rfl (of_decide_eq_true hall)

theorem loggerName_ne_nil (name : Option Text) : loggerName name ≠ [] := by
  rcases loggerName_cases name with hname | ⟨short, -, hname⟩
  · rw [hname]
    exact List.cons_ne_nil _ _
  · rw [hname]
    exact List.cons_ne_nil _ _

theorem lineage_rootLogger : lineage rootLogger = [rootLogger, "routergen", []] := by decide

theorem lineage_child {short : Text} (h : .char '.' ∉ short) :
    lineage (child short) = child short :: lineage rootLogger := by
  have hparts : child short =
      Text.ofString "routergen" ++ .char '.' :: (Text.ofString "gen" ++ .char '.' :: short) := rfl
  have hsplit : Text.splitAll '.' (child short) =
      [Text.ofString "routergen", Text.ofString "gen", short] := by
    rw [hparts, Text.splitAll_append_sep (by decide), Text.splitAll_append_sep (by decide),
      Text.splitAll_of_not_mem h]
  rw [lineage_rootLogger, lineage, hsplit]
  rfl

namespace Logger

theorem foldl_removeHandler (threshold : Threshold) (handlers : List Handler)
    (propagates : Bool) :
    handlers.foldl removeHandler ⟨threshold, handlers, propagates⟩ =
      ⟨threshold, [], propagates⟩ := by
  induction handlers with
  | nil => rfl
  | cons handler rest ih =>
    rw [List.foldl_cons, removeHandler, List.erase_cons_head]
    exact ih

theorem configure_eq (l : Logger) (flags : Flags) (stream : Nat) :
    l.configure flags stream =
      ⟨flags.threshold, [⟨flags.threshold, stream, .tagged⟩], false⟩ := by
  rw [configure, foldl_removeHandler]
  rfl

end Logger

theorem Format.tagged_line (r : Record) : Format.tagged.line r =
    (if 20 < r.level.number then "[" ++ Text.lower r.level.name ++ "] " else []) ++ r.message := by
  have hline : Format.tagged.line r =
      if 20 < r.level.number then r.level.tag ++ r.message else r.message := rfl
  rw [hline]
  split
  · rfl
  · rfl

/-- What configuring leaves behind, and what no use of the loggers changes. -/
structure Configured (h : Hierarchy) (flags : Flags) (stream : Nat) : Prop where
  level : h.level = flags.threshold
  handlers : h.handlers = [⟨flags.threshold, stream, .tagged⟩]
  keeps : (h.logger rootLogger).propagates = false
  untouched : h.Untouched

namespace Hierarchy.Untouched

variable {h : Hierarchy}

theorem configured (hh : h.Untouched) (flags : Flags) (stream : Nat) :
    Configured (h.configure flags stream) flags stream := by
  have hroot : (h.configure flags stream).logger rootLogger =
      ⟨flags.threshold, [⟨flags.threshold, stream, .tagged⟩], false⟩ := by
    rw [Hierarchy.configure, logger_setLogger, if_pos rfl, Logger.configure_eq]
  refine ⟨congrArg Logger.threshold hroot, congrArg Logger.handlers hroot,
    congrArg Logger.propagates hroot, fun short => ?_⟩
  rw [Hierarchy.configure, logger_setLogger, if_neg (child_ne_rootLogger short).symm]
  exact hh short

end Hierarchy.Untouched

theorem Flags.threshold_ne_unset (flags : Flags) : flags.threshold ≠ .unset := by
  obtain ⟨verbose, quiet⟩ := flags
  cases verbose <;> cases quiet <;> decide

theorem Flags.pos_of_admits {flags : Flags} {level : Level}
    (h : flags.threshold.admits level = true) : 0 < level.number := by
  have hpos : 0 < flags.threshold.number :=
    Nat.pos_of_ne_zero fun hzero => flags.threshold_ne_unset (congrArg Threshold.mk hzero)
  have hle := of_decide_eq_true h
  omega

namespace Configured

variable {h : Hierarchy} {flags : Flags} {stream : Nat}

/-- A record comes to its own logger and to the root logger of the program, and no further. -/
theorem reached (hc : Configured h flags stream) (name : Option Text) :
    h.reached (lineage (loggerName name)) =
      if loggerName name = rootLogger then [rootLogger] else [loggerName name, rootLogger] := by
  have hroot : h.reached (lineage rootLogger) = [rootLogger] := by
    rw [lineage_rootLogger, Hierarchy.reached, hc.keeps]
    rfl
  rcases loggerName_cases name with hname | ⟨short, hshort, hname⟩
  · rw [hname, if_pos rfl, hroot]
  · rw [hname, if_neg (child_ne_rootLogger short), lineage_child hshort, Hierarchy.reached,
      hc.untouched short]
    exact congrArg _ hroot

theorem top_not_mem_reached (hc : Configured h flags stream) (name : Option Text) :
    [] ∉ h.reached (lineage (loggerName name)) := by
  have hroot : ([] : Text) ≠ rootLogger := (loggerName_ne_nil none).symm
  rw [hc.reached]
  split
  · rw [List.mem_singleton]
    exact hroot
  · rw [List.mem_cons, List.mem_singleton, not_or]
    exact ⟨(loggerName_ne_nil name).symm, hroot⟩

theorem effective (hc : Configured h flags stream) (name : Option Text) :
    h.effective (loggerName name) = flags.threshold := by
  have hroot : ((lineage rootLogger).map fun n => (h.logger n).threshold).find? (· ≠ .unset) =
      some flags.threshold := by
    have hlevel : (h.logger rootLogger).threshold = flags.threshold := hc.level
    rw [lineage_rootLogger, List.map_cons, hlevel]
    exact List.find?_cons_of_pos (decide_eq_true flags.threshold_ne_unset)
  rw [Hierarchy.effective]
  rcases loggerName_cases name with hname | ⟨short, hshort, hname⟩
  · rw [hname, hroot]
    rfl
  · rw [hname, lineage_child hshort, List.map_cons, hc.untouched short,
      List.find?_cons_of_neg (by decide), hroot]
    rfl

theorem handlersFor (hc : Configured h flags stream) (name : Option Text) :
    h.handlersFor (loggerName name) = [⟨flags.threshold, stream, .tagged⟩] := by
  rw [Hierarchy.handlersFor, hc.reached]
  rcases loggerName_cases name with hname | ⟨short, -, hname⟩
  · rw [if_pos hname, List.flatMap_singleton]
    exact hc.handlers
  · rw [hname, if_neg (child_ne_rootLogger short), List.flatMap_cons, List.flatMap_singleton,
      hc.untouched short]
    exact hc.handlers

theorem takers (hc : Configured h flags stream) (stderr : Nat) (name : Option Text)
    (level : Level) (message : Text) :
    h.takers stderr ⟨level, loggerName name, message⟩ =
      if flags.threshold.admits level then [⟨flags.threshold, stream, .tagged⟩] else [] := by
  have henabled : h.isEnabled ⟨level, loggerName name, message⟩ = flags.threshold.admits level := by
    rw [Hierarchy.isEnabled, hc.effective]
    cases hadmits : flags.threshold.admits level with
    | false => exact Bool.and_false _
    | true => rw [decide_eq_true (Flags.pos_of_admits hadmits)]; rfl
  rw [Hierarchy.takers, henabled, hc.handlersFor]
  cases hadmits : flags.threshold.admits level with
  | false => rfl
  | true =>
    rw [if_pos rfl]
    exact List.filter_cons_of_pos hadmits

theorem emit (hc : Configured h flags stream) (stderr : Nat) (name : Option Text)
    (level : Level) (message : Text) :
    h.emit stderr ⟨level, loggerName name, message⟩ =
      if flags.threshold.admits level then
        [(stream, Format.tagged.line ⟨level, loggerName name, message⟩ ++ "\n")]
      else [] := by
  rw [Hierarchy.emit, hc.takers]
  split
  · rfl
  · rfl

end Configured

end RouterLayer.Log
