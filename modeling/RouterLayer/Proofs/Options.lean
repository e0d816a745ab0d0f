import RouterLayer.Options

set_option autoImplicit false

namespace RouterLayer.Options

def Key.all : List Key := [.withZod, .withShield, .middleware, .contextPath, .emitterPath,
  .trpcOptionsPath, .showModelName, .actions]

def only (options : Options) (key : Key) : Options where
  withZod := if key = .withZod then options.withZod else default.withZod
  withShield := if key = .withShield then options.withShield else default.withShield
  middleware := if key = .middleware then options.middleware else default.middleware
  contextPath := if key = .contextPath then options.contextPath else default.contextPath
  emitterPath := if key = .emitterPath then options.emitterPath else default.emitterPath
  trpcOptionsPath :=
    if key = .trpcOptionsPath then options.trpcOptionsPath else default.trpcOptionsPath
  showModelName := if key = .showModelName then options.showModelName else default.showModelName
  actions := if key = .actions then options.actions else default.actions

section Congruence

variable {raw raw' : OrderedMap Json} {key : Key}

theorem flag_congr (h : key.find? raw = key.find? raw') (b : Bool) :
    flag raw key b = flag raw' key b := by
  unfold flag
  rw [h]

theorem readMiddleware_congr (h : Key.middleware.find? raw = Key.middleware.find? raw') :
    readMiddleware raw = readMiddleware raw' := by
  unfold readMiddleware
  rw [h]

theorem readPath_congr (h : key.find? raw = key.find? raw') (path : Text) :
    readPath raw key path = readPath raw' key path := by
  unfold readPath
  rw [h]

theorem readOptionalPath_congr (h : key.find? raw = key.find? raw') :
    readOptionalPath raw key = readOptionalPath raw' key := by
  unfold readOptionalPath
  rw [h]

theorem readActions_congr (h : Key.actions.find? raw = Key.actions.find? raw') :
    readActions raw = readActions raw' := by
  unfold readActions
  rw [h]

end Congruence

structure Reads (raw : OrderedMap Json) (options : Options) : Prop where
  withZod : flag raw .withZod default.withZod = .ok options.withZod
  withShield : flag raw .withShield default.withShield = .ok options.withShield
  middleware : readMiddleware raw = .ok options.middleware
  contextPath : readPath raw .contextPath default.contextPath = .ok options.contextPath
  emitterPath : readPath raw .emitterPath default.emitterPath = .ok options.emitterPath
  trpcOptionsPath : readOptionalPath raw .trpcOptionsPath = .ok options.trpcOptionsPath
  showModelName : flag raw .showModelName default.showModelName = .ok options.showModelName
  actions : readActions raw = .ok options.actions

theorem parse_eq_ok {raw : OrderedMap Json} {options : Options} :
    parse raw = .ok options ↔ Reads raw options := by
  constructor
  · intro h
    unfold parse at h
    dsimp only at h
    split at h
    · next a b c d e f g hh ha hb hc hd he hf hg hhh =>
      cases h
      exact ⟨ha, hb, hc, hd, he, hf, hg, hhh⟩
    · cases h
  · intro h
    unfold parse
    dsimp only
    rw [h.withZod, h.withShield, h.middleware, h.contextPath, h.emitterPath, h.trpcOptionsPath,
      h.showModelName, h.actions]

/-- A reader whose key is given as before finds the same value, and otherwise the default. -/
theorem read_only {α : Type} {read : OrderedMap Json → Reading α} {own key : Key}
    (hread : ∀ {raw raw'}, own.find? raw = own.find? raw' → read raw = read raw')
    {raw raw' : OrderedMap Json} {value unset : α} (hvalue : read raw = .ok value)
    (hunset : read [] = .ok unset) (hsame : key.find? raw' = key.find? raw)
    (hother : ∀ other ∈ Key.all, other ≠ key → other.find? raw' = none) (hown : own ∈ Key.all) :
    read raw' = .ok (if key = own then value else unset) := by
  split
  · next h =>
    subst h
    rw [hread hsame, hvalue]
  · next h =>
    have hnone : own.find? raw' = own.find? [] := hother own hown (Ne.symm h)
    rw [hread hnone, hunset]

theorem parse_only {raw raw' : OrderedMap Json} {options : Options} {key : Key}
    (h : parse raw = .ok options) (hsame : key.find? raw' = key.find? raw)
    (hother : ∀ other ∈ Key.all, other ≠ key → other.find? raw' = none) :
    parse raw' = .ok (options.only key) := by
  have hr := parse_eq_ok.mp h
  refine parse_eq_ok.mpr ⟨?_, ?_, ?_, ?_, ?_, ?_, ?_, ?_⟩
  · exact read_only (fun e => flag_congr e _) hr.withZod rfl hsame hother (by decide)
  · exact read_only (fun e => flag_congr e _) hr.withShield rfl hsame hother (by decide)
  · exact read_only readMiddleware_congr hr.middleware rfl hsame hother (by decide)
  · exact read_only (fun e => readPath_congr e _) hr.contextPath rfl hsame hother (by decide)
  · exact read_only (fun e => readPath_congr e _) hr.emitterPath rfl hsame hother (by decide)
  · exact read_only readOptionalPath_congr hr.trpcOptionsPath rfl hsame hother (by decide)
  · exact read_only (fun e => flag_congr e _) hr.showModelName rfl hsame hother (by decide)
  · exact read_only readActions_congr hr.actions rfl hsame hother (by decide)

namespace Key

theorem camel_ne_snake : ∀ key ∈ all, key.camel ≠ key.snake := by decide

theorem spellings_ne : ∀ key ∈ all, ∀ other ∈ all, other ≠ key →
    ∀ name ∈ [key.camel, key.snake], name ≠ other.camel ∧ name ≠ other.snake := by decide +kernel

variable {key other : Key} {name : Text}

theorem find?_own (hkey : key ∈ all) (hname : name ∈ [key.camel, key.snake]) (value : Json) :
    key.find? [(name, value)] = some (name, value) := by
  have hne := camel_ne_snake key hkey
  simp only [List.mem_cons, List.not_mem_nil, or_false] at hname
  rcases hname with rfl | rfl
  · simp [find?, OrderedMap.find?]
  · simp [find?, OrderedMap.find?, hne.symm]

theorem find?_other (hkey : key ∈ all) (hother : other ∈ all) (h : other ≠ key)
    (hname : name ∈ [key.camel, key.snake]) (value : Json) :
    other.find? [(name, value)] = none := by
  obtain ⟨hcamel, hsnake⟩ := spellings_ne key hkey other hother h name hname
  simp [find?, OrderedMap.find?, hcamel, hsnake]

end Key

end RouterLayer.Options
