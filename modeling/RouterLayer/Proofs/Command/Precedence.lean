import RouterLayer.Command.Run
import RouterLayer.Proofs.OrderedMap
import RouterLayer.Proofs.Options
import RouterLayer.Proofs.Outcome

/-!
Which source an option of the command takes its value from. The sources are merged by spelling, and
of the two spellings of an option the one in camel case is read first. So the foremost source that
gives an option decides, except when its entry has the other spelling and some entry is in camel
case (`settled_options`).
-/

set_option autoImplicit false

namespace RouterLayer.Command

/-- What gives options, from the foremost on: the assignments of the command line in their order,
the configuration file, the document. -/
structure Sources where
  assignments : List (Text × Json)
  config : OrderedMap Json
  document : OrderedMap Json

namespace Sources

variable (s : Sources)

def merged : OrderedMap Json := mergedOptions s.document s.config s.assignments

def ranked (name : Text) : Option Json :=
  (OrderedMap.latest? s.assignments name).or
    ((OrderedMap.latest? s.config name).or (s.document.find? name))

def chosen (key : Options.Key) : Option (Text × Json) :=
  ((s.ranked key.camel).map (key.camel, ·)).or ((s.ranked key.snake).map (key.snake, ·))

def assigned (key : Options.Key) : Option (Text × Json) :=
  s.assignments.reverse.find? fun e => [key.camel, key.snake].contains e.1

/-- What the foremost source that mentions an option in either spelling gives for it. Of a key that
the configuration file repeats, the last value counts. -/
def foremost (key : Options.Key) : Option (Text × Json) :=
  (s.assigned key).or ((key.find? s.config.reverse).or (key.find? s.document))

theorem find?_merged (name : Text) : s.merged.find? name = s.ranked name := by
  rw [merged, mergedOptions, OrderedMap.find?_merge, OrderedMap.find?_merge, ranked]

theorem find?_key (raw : OrderedMap Json) (key : Options.Key) : key.find? raw =
    ((raw.find? key.camel).map (key.camel, ·)).or ((raw.find? key.snake).map (key.snake, ·)) := by
  unfold Options.Key.find?
  cases raw.find? key.camel <;> rfl

theorem find?_merged_key (key : Options.Key) : key.find? s.merged = s.chosen key := by
  rw [find?_key, find?_merged, find?_merged, chosen]

section Foremost

variable {s} {key : Options.Key} {name : Text} {value : Json}

theorem find?_of_key {raw : OrderedMap Json} (h : key.find? raw = some (name, value)) :
    name ∈ [key.camel, key.snake] ∧ raw.find? name = some value := by
  rw [find?_key, Option.or_eq_some_iff, Option.map_eq_some_iff, Option.map_eq_some_iff] at h
  rcases h with ⟨v, hv, h⟩ | ⟨_, v, hv, h⟩
  · cases h
    exact ⟨by simp, hv⟩
  · cases h
    exact ⟨by simp, hv⟩

theorem find?_of_key_none {raw : OrderedMap Json} (h : key.find? raw = none)
    (hname : name ∈ [key.camel, key.snake]) : raw.find? name = none := by
  rw [find?_key, Option.or_eq_none_iff, Option.map_eq_none_iff, Option.map_eq_none_iff] at h
  simp only [List.mem_cons, List.not_mem_nil, or_false] at hname
  rcases hname with rfl | rfl
  · exact h.1
  · exact h.2

theorem latest?_assignments_of_none (h : s.assigned key = none)
    (hname : name ∈ [key.camel, key.snake]) : OrderedMap.latest? s.assignments name = none :=
  OrderedMap.find?_of_list_find?_none h (List.contains_iff_mem.mpr hname)

theorem ranked_of_foremost (h : s.foremost key = some (name, value)) :
    name ∈ [key.camel, key.snake] ∧ s.ranked name = some value := by
  rw [foremost, Option.or_eq_some_iff, Option.or_eq_some_iff] at h
  -- a source that is passed over mentions neither spelling, so none outranks the entry
  rcases h with h | ⟨hassigned, h | ⟨hconfig, h⟩⟩
  · obtain ⟨hname, hvalue⟩ := OrderedMap.find?_of_list_find? h
    refine ⟨List.contains_iff_mem.mp hname, ?_⟩
    rw [ranked, OrderedMap.latest?, hvalue, Option.some_or]
  · obtain ⟨hname, hvalue⟩ := find?_of_key h
    refine ⟨hname, ?_⟩
    rw [ranked, latest?_assignments_of_none hassigned hname, Option.none_or, OrderedMap.latest?,
      hvalue, Option.some_or]
  · obtain ⟨hname, hvalue⟩ := find?_of_key h
    refine ⟨hname, ?_⟩
    rw [ranked, latest?_assignments_of_none hassigned hname, Option.none_or, OrderedMap.latest?,
      find?_of_key_none hconfig hname, Option.none_or, hvalue]

theorem ranked_of_foremost_none (h : s.foremost key = none)
    (hname : name ∈ [key.camel, key.snake]) : s.ranked name = none := by
  rw [foremost, Option.or_eq_none_iff, Option.or_eq_none_iff] at h
  obtain ⟨hassigned, hconfig, hdocument⟩ := h
  rw [ranked, latest?_assignments_of_none hassigned hname, OrderedMap.latest?,
    find?_of_key_none hconfig hname, find?_of_key_none hdocument hname]
  rfl

theorem chosen_eq_foremost (hkey : key ∈ Options.Key.all) : s.chosen key = s.foremost key ↔
    (∃ value, s.foremost key = some (key.camel, value)) ∨ s.ranked key.camel = none := by
  have hne := Options.Key.camel_ne_snake key hkey
  cases h : s.foremost key with
  | none =>
    have hcamel : s.ranked key.camel = none := ranked_of_foremost_none h (by simp)
    have hsnake : s.ranked key.snake = none := ranked_of_foremost_none h (by simp)
    simp [chosen, hcamel, hsnake]
  | some e =>
    obtain ⟨name, value⟩ := e
    obtain ⟨hname, hranked⟩ := ranked_of_foremost h
    simp only [List.mem_cons, List.not_mem_nil, or_false] at hname
    rcases hname with rfl | rfl
    · simp [chosen, hranked]
    -- in snake case, the entry is lost to any camel-case one, whichever source has that
    · cases hcamel : s.ranked key.camel with
      | none => simp [chosen, hcamel, hranked]
      | some v => simp [chosen, hcamel, hne, Ne.symm hne]

/-- An option that is read from an entry has the value that this entry alone gives it. -/
theorem parse_chosen (hkey : key ∈ Options.Key.all) {options : Options}
    (h : Options.parse s.merged = .ok options) :
    Options.parse (s.chosen key).toList = .ok (options.only key) := by
  refine Options.parse_only h ?_ fun other hother hne => ?_
  · rw [find?_merged_key]
    cases hchosen : s.chosen key with
    | none => rfl
    | some e =>
      exact Options.Key.find?_own hkey (find?_of_key (find?_merged_key s key ▸ hchosen)).1 _
  · cases hchosen : s.chosen key with
    | none => rfl
    | some e =>
      exact Options.Key.find?_other hkey hother hne
        (find?_of_key (find?_merged_key s key ▸ hchosen)).1 _

end Foremost

end Sources

def configGiven (around : Surroundings) (i : Invocation) : Except Stop (OrderedMap Json) :=
  match i.config with
  | some path => readConfig around path
  | none => .ok []

theorem settleOptions_ok {around : Surroundings} {i : Invocation} {d : Document}
    {raw : OrderedMap Json} (h : settleOptions around i d = .ok raw) :
    ∃ s : Sources, configGiven around i = .ok s.config ∧
      i.assignments.mapM readAssignment = .ok s.assignments ∧ s.document = d.options ∧
      raw = s.merged := by
  have hsettle : settleOptions around i d = do
      let config ← configGiven around i
      let assignments ← (i.assignments.mapM readAssignment).mapError Stop.usage
      return mergedOptions d.options config assignments := by
    unfold settleOptions configGiven
    cases i.config <;> rfl
  rw [hsettle] at h
  obtain ⟨config, hconfig, h⟩ := bind_eq_ok.mp h
  obtain ⟨assignments, hassignments, h⟩ := bind_eq_ok.mp h
  cases h
  refine ⟨⟨assignments, config, d.options⟩, hconfig, ?_, rfl, rfl⟩
  cases hread : i.assignments.mapM readAssignment with
  | error e => rw [hread] at hassignments; cases hassignments
  | ok read =>
    rw [hread] at hassignments
    exact congrArg Except.ok (Except.ok.inj hassignments)

/-- The entry of an option is chosen by spelling before source. It is the one that the foremost
source gives exactly if that source uses the spelling in camel case, or no source does. -/
theorem settled_options (around : Surroundings) (i : Invocation) (d : Document)
    (raw : OrderedMap Json) (options : Options) (h : settleOptions around i d = .ok raw)
    (ho : (OptionSource.given raw).resolve d = .ok options) :
    ∃ s : Sources, configGiven around i = .ok s.config ∧
      i.assignments.mapM readAssignment = .ok s.assignments ∧ s.document = d.options ∧
      ∀ key ∈ Options.Key.all,
        Options.parse (s.chosen key).toList = .ok (options.only key) ∧
        (s.foremost key = none → options.only key = Options.default) ∧
        (s.chosen key = s.foremost key ↔
          (∃ value, s.foremost key = some (key.camel, value)) ∨ s.ranked key.camel = none) := by
  obtain ⟨s, hconfig, hassignments, hdocument, rfl⟩ := settleOptions_ok h
  refine ⟨s, hconfig, hassignments, hdocument, fun key hkey => ?_⟩
  have hparse := s.parse_chosen hkey ho
  refine ⟨hparse, fun hnone => ?_, s.chosen_eq_foremost hkey⟩
  have hunset : s.chosen key = none := by
    rw [(s.chosen_eq_foremost hkey).mpr (.inr (s.ranked_of_foremost_none hnone (by simp))), hnone]
  rw [hunset] at hparse
  exact (Except.ok.inj hparse).symm

def shieldedDocument : Document :=
  ⟨[], [], [⟨.str "client", .str "prisma-client-js", []⟩], .null, [("withShield", .bool true)]⟩

def unshield : Invocation where
  schema := "schema.json"
  output := "out"
  config := none
  assignments := ["with_shield=false"]
  validation := none
  policy := none
  verbose := false
  quiet := false

/-- The foremost source turns the shield off, and the run has it on. -/
theorem settled_options_unshield :
    ∃ raw, settleOptions ⟨FileTree.empty [], ⟨.single, ["work"]⟩, []⟩ unshield shieldedDocument =
        .ok raw ∧
      (OptionSource.given raw).resolve shieldedDocument = .ok Options.default ∧
      Options.default.withShield = true ∧
      ∃ s : Sources, s.document = shieldedDocument.options ∧
        unshield.assignments.mapM readAssignment = .ok s.assignments ∧
        (s.foremost .withShield).map (·.2) = some (.str "false") ∧
        (s.chosen .withShield).map (·.2) = some (.bool true) ∧
        Options.parse (s.chosen .withShield).toList = .ok (Options.default.only .withShield) := by
  have hsettle : settleOptions ⟨FileTree.empty [], ⟨.single, ["work"]⟩, []⟩ unshield
      shieldedDocument =
        .ok [("withShield", .bool true), ("with_shield", .str "false")] := rfl
  obtain ⟨s, hconfig, hassignments, hdocument, hkeys⟩ := settled_options _ _ _ _ Options.default
    hsettle rfl
  have hentries : (s.foremost .withShield).map (·.2) = some (.str "false") ∧
      (s.chosen .withShield).map (·.2) = some (.bool true) := by
    obtain ⟨assignments, config, document⟩ := s
    cases hconfig
    cases hassignments
    cases hdocument
    decide +kernel
  exact ⟨_, hsettle, rfl, rfl, s, hdocument, hassignments, hentries.1, hentries.2,
    (hkeys .withShield (by decide)).1⟩

end RouterLayer.Command
