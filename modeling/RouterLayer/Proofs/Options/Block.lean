import RouterLayer.Proofs.Options
import RouterLayer.Proofs.Text.Case
import RouterLayer.Proofs.Text.Padded

/-!
Options as texts, the way the block of a generator gives them. The texts of an option differ in
case, in blanks and in empty items, and every one of them is read as the option itself: options
that were accepted once, from values of any kind, survive being written (`parse_block`).
-/

set_option autoImplicit false

namespace RouterLayer.Options

def flagWord : Bool → Text
  | true => "true"
  | false => "false"

def SpellsFlag (b : Bool) (s : Text) : Prop :=
  ∃ word, Text.asciiLower word = flagWord b ∧ Text.Padded word s

def SpellsMiddleware : MiddlewareSetting → Text → Prop
  | .off, s => SpellsFlag false s
  | .passThrough, s => SpellsFlag true s
  | .module path, s => s = path

/-- Items between commas stand for actions: some are blank, and each of the others is the name of
the next action with blanks around it. -/
inductive SpellsActions : List Action → List Text → Prop
  | nil : SpellsActions [] []
  | blank {actions : List Action} {items : List Text} {item : Text}
      (blank : Text.isBlankText item = true) (rest : SpellsActions actions items) :
      SpellsActions actions (item :: items)
  | action {a : Action} {actions : List Action} {items : List Text} {item : Text}
      (name : Text.Padded a.name item) (rest : SpellsActions actions items) :
      SpellsActions (a :: actions) (item :: items)

/-- A block gives the text of an option under one spelling of its key, and nothing under the
other. -/
def Gives (block : OrderedMap Json) (key : Key) (s : Text) : Prop :=
  ∃ name ∈ [key.camel, key.snake], OrderedMap.find? block name = some (.str s) ∧
    ∀ other ∈ [key.camel, key.snake], other ≠ name → OrderedMap.find? block other = none

def Omits (block : OrderedMap Json) (key : Key) : Prop :=
  ∀ name ∈ [key.camel, key.snake], OrderedMap.find? block name = none

/-- A block of texts that says what the options are. What it has under other keys does not
matter. -/
structure Block (options : Options) (block : OrderedMap Json) : Prop where
  withZod : ∃ s, Gives block .withZod s ∧ SpellsFlag options.withZod s
  withShield : ∃ s, Gives block .withShield s ∧ SpellsFlag options.withShield s
  middleware : ∃ s, Gives block .middleware s ∧ SpellsMiddleware options.middleware s
  contextPath : Gives block .contextPath options.contextPath
  emitterPath : Gives block .emitterPath options.emitterPath
  trpcOptionsPath : match options.trpcOptionsPath with
    | some path => Gives block .trpcOptionsPath path
    | none => Omits block .trpcOptionsPath
  showModelName : ∃ s, Gives block .showModelName s ∧ SpellsFlag options.showModelName s
  actions : ∃ items, Gives block .actions (Text.joinWith ',' items) ∧
    SpellsActions options.actions items

/-- What options have in common that were accepted: no path is blank, paths that are stripped have
nothing more to lose, and the path of a middleware is no word for a truth value. -/
structure Settled (options : Options) : Prop where
  middleware : ∀ path, options.middleware = .module path →
    truthWord? path = none ∧ Text.isBlankText path = false
  contextPath : Text.isBlankText options.contextPath = false ∧
    Text.strip options.contextPath = options.contextPath
  emitterPath : Text.isBlankText options.emitterPath = false ∧
    Text.strip options.emitterPath = options.emitterPath
  trpcOptionsPath : ∀ path ∈ options.trpcOptionsPath, Text.isBlankText path = false

section Settled

variable {raw : OrderedMap Json}

theorem settled_middleware {path : Text} (h : readMiddleware raw = .ok (.module path)) :
    truthWord? path = none ∧ Text.isBlankText path = false := by
  unfold readMiddleware at h
  dsimp only at h
  split at h
  · cases h
  · split at h
    · split at h <;> cases h
    · next hword =>
      split at h
      · cases h
      · next hblank =>
        cases h
        exact ⟨hword, Bool.not_eq_true _ ▸ hblank⟩
  · split at h
    · split at h <;> cases h
    · cases h

theorem settled_path {key : Key} {unset path : Text} (hunset : Text.isBlankText unset = false)
    (htrimmed : Text.strip unset = unset) (h : readPath raw key unset = .ok path) :
    Text.isBlankText path = false ∧ Text.strip path = path := by
  unfold readPath at h
  split at h
  · cases h
    exact ⟨hunset, htrimmed⟩
  · split at h
    · cases h
    · next s _ hblank =>
      cases h
      have hstrip := Text.strip_strip s
      refine ⟨?_, hstrip⟩
      rw [← Bool.not_eq_true, Text.isBlankText_iff, hstrip, ← Text.isBlankText_iff]
      exact hblank
  · cases h

theorem settled_optionalPath {key : Key} {found : Option Text}
    (h : readOptionalPath raw key = .ok found) :
    ∀ path ∈ found, Text.isBlankText path = false := by
  unfold readOptionalPath at h
  split at h
  · cases h
    nofun
  · cases h
    nofun
  · next s _ =>
    intro path hpath
    cases h
    split at hpath
    · cases hpath
    · next hblank =>
      cases hpath
      exact Bool.not_eq_true _ ▸ hblank
  · cases h

theorem Reads.settled {options : Options} (h : Reads raw options) : Settled options where
  middleware path hpath := settled_middleware (hpath ▸ h.middleware)
  contextPath := settled_path (by decide) (by decide) h.contextPath
  emitterPath := settled_path (by decide) (by decide) h.emitterPath
  trpcOptionsPath := settled_optionalPath h.trpcOptionsPath

end Settled

section Words

theorem truthWord?_of_spells {b : Bool} {s : Text} (h : SpellsFlag b s) :
    truthWord? s = some b := by
  obtain ⟨word, hword, hpadded⟩ := h
  have hplain : ∀ d ∈ flagWord b, (d.code < 128 ∧ d ≠ .char 'k') ∧ Text.isBlank d = false := by
    cases b <;> decide
  have hstrip : Text.strip s = word :=
    hpadded.strip (Text.trimmed_of_asciiLower hword fun d hd => (hplain d hd).2)
  have hlower : Text.lower word = flagWord b :=
    (Text.lower_eq_iff fun d hd => (hplain d hd).1).mpr hword
  rw [truthWord?, hstrip, hlower]
  cases b <;> decide

theorem trimmed_name (a : Action) : Text.Trimmed Text.isBlank a.name := by
  refine Text.trimmed_of_forall ?_
  cases a <;> decide

theorem comma_not_mem_name (a : Action) : CodePoint.char ',' ∉ a.name := by cases a <;> decide

theorem SpellsActions.comma_not_mem {actions : List Action} {items : List Text}
    (h : SpellsActions actions items) : ∀ item ∈ items, CodePoint.char ',' ∉ item := by
  induction h with
  | nil => nofun
  | blank hblank _ ih =>
    refine List.forall_mem_cons.mpr ⟨fun hcomma => ?_, ih⟩
    exact absurd (List.all_eq_true.mp hblank _ hcomma) (by decide)
  | @action a _ _ _ hname _ ih =>
    exact List.forall_mem_cons.mpr ⟨hname.not_mem (by decide) (comma_not_mem_name a), ih⟩

theorem SpellsActions.filter_strip {actions : List Action} {items : List Text}
    (h : SpellsActions actions items) :
    (items.map Text.strip).filter (fun part => !part.isEmpty) = actions.map Action.name := by
  induction h with
  | nil => rfl
  | blank hblank _ ih =>
    rw [List.map_cons, Text.isBlankText_iff.mp hblank]
    exact ih
  | @action a _ _ _ hname _ ih =>
    have hne : a.name ≠ [] := by cases a <;> decide
    rw [List.map_cons, hname.strip (trimmed_name a), List.filter_cons_of_pos (by simpa using hne),
      ih, List.map_cons]

theorem listParts_of_spells {actions : List Action} {items : List Text}
    (h : SpellsActions actions items) :
    listParts (Text.joinWith ',' items) = actions.map Action.name := by
  rw [listParts]
  cases items with
  | nil =>
    cases h
    rfl
  | cons item items => rw [Text.splitAll_joinWith (by simp) h.comma_not_mem, h.filter_strip]

theorem readAction_name (a : Action) : readAction (.str a.name) = .ok a := by
  rw [readAction, Action.ofName?_name]

theorem readActionsFrom_names (name : Text) (index : Nat) (actions : List Action) :
    readActionsFrom name index ((actions.map Action.name).map Json.str) = .ok actions := by
  induction actions generalizing index with
  | nil => rfl
  | cons a actions ih =>
    rw [List.map_cons, List.map_cons, readActionsFrom, readAction_name, ih]

end Words

section Read

variable {block : OrderedMap Json} {key : Key}

theorem Gives.find? {s : Text} (h : Gives block key s) :
    ∃ name, key.find? block = some (name, .str s) := by
  obtain ⟨name, hname, hfound, hother⟩ := h
  unfold Key.find?
  simp only [List.mem_cons, List.not_mem_nil, or_false] at hname
  rcases hname with rfl | rfl
  · exact ⟨key.camel, by rw [hfound]⟩
  · by_cases hsame : key.camel = key.snake
    · exact ⟨key.camel, by rw [hsame, hfound]⟩
    · exact ⟨key.snake, by rw [hother key.camel (by simp) hsame, hfound]; rfl⟩

theorem Omits.find? (h : Omits block key) : key.find? block = none := by
  unfold Key.find?
  rw [h key.camel (by simp), h key.snake (by simp)]
  rfl

theorem flag_of_gives {b : Bool} {s : Text} (h : Gives block key s) (hs : SpellsFlag b s)
    (unset : Bool) : flag block key unset = .ok b := by
  obtain ⟨name, hfind⟩ := h.find?
  unfold flag
  rw [hfind]
  simp only [readBool, truthWord?_of_spells hs]

theorem readMiddleware_of_gives {m : MiddlewareSetting} {s : Text} (h : Gives block .middleware s)
    (hs : SpellsMiddleware m s) (hsettled : ∀ path, m = .module path →
      truthWord? path = none ∧ Text.isBlankText path = false) :
    readMiddleware block = .ok m := by
  obtain ⟨name, hfind⟩ := h.find?
  unfold readMiddleware
  rw [hfind]
  cases m with
  | off => simp only [truthWord?_of_spells hs]; rfl
  | passThrough => simp only [truthWord?_of_spells hs]; rfl
  | module path =>
    obtain ⟨hword, hblank⟩ := hsettled path rfl
    cases hs
    simp only [hword, hblank]
    rfl

theorem readPath_of_gives {path : Text} (h : Gives block key path)
    (hsettled : Text.isBlankText path = false ∧ Text.strip path = path) (unset : Text) :
    readPath block key unset = .ok path := by
  obtain ⟨name, hfind⟩ := h.find?
  unfold readPath
  rw [hfind]
  simp only [hsettled.1, hsettled.2]
  rfl

theorem readOptionalPath_of_block {path? : Option Text}
    (h : match path? with
      | some path => Gives block key path
      | none => Omits block key)
    (hsettled : ∀ path ∈ path?, Text.isBlankText path = false) :
    readOptionalPath block key = .ok path? := by
  unfold readOptionalPath
  cases path? with
  | none => rw [Omits.find? h]
  | some path =>
    obtain ⟨name, hfind⟩ := Gives.find? h
    rw [hfind]
    simp only [hsettled path rfl]
    rfl

theorem readActions_of_gives {actions : List Action} {items : List Text}
    (h : Gives block .actions (Text.joinWith ',' items)) (hs : SpellsActions actions items) :
    readActions block = .ok actions := by
  obtain ⟨name, hfind⟩ := h.find?
  unfold readActions
  rw [hfind]
  simp only [listParts_of_spells hs, readActionsFrom_names]

theorem Block.reads {options : Options} (h : Block options block) (hsettled : Settled options) :
    Reads block options := by
  obtain ⟨zod, hzod, hzodSpelled⟩ := h.withZod
  obtain ⟨shield, hshield, hshieldSpelled⟩ := h.withShield
  obtain ⟨middleware, hmiddleware, hmiddlewareSpelled⟩ := h.middleware
  obtain ⟨name, hname, hnameSpelled⟩ := h.showModelName
  obtain ⟨items, hitems, hitemsSpelled⟩ := h.actions
  exact {
    withZod := flag_of_gives hzod hzodSpelled _
    withShield := flag_of_gives hshield hshieldSpelled _
    middleware := readMiddleware_of_gives hmiddleware hmiddlewareSpelled hsettled.middleware
    contextPath := readPath_of_gives h.contextPath hsettled.contextPath _
    emitterPath := readPath_of_gives h.emitterPath hsettled.emitterPath _
    trpcOptionsPath := readOptionalPath_of_block h.trpcOptionsPath hsettled.trpcOptionsPath
    showModelName := flag_of_gives hname hnameSpelled _
    actions := readActions_of_gives hitems hitemsSpelled }

end Read

section Write

def texts (options : Options) : List (Key × Text) :=
  [(.withZod, flagWord options.withZod), (.withShield, flagWord options.withShield),
    (.middleware, match options.middleware with
      | .off => flagWord false
      | .passThrough => flagWord true
      | .module path => path),
    (.contextPath, options.contextPath), (.emitterPath, options.emitterPath)] ++
  (options.trpcOptionsPath.toList.map fun path => (.trpcOptionsPath, path)) ++
  [(.showModelName, flagWord options.showModelName),
    (.actions, Text.joinWith ',' options.actionNames)]

def write (spelling : Key → Text) (texts : List (Key × Text)) : OrderedMap Json :=
  texts.map fun e => (spelling e.1, .str e.2)

variable {spelling : Key → Text} {texts : List (Key × Text)} {unknown : OrderedMap Json} {key : Key}

theorem find?_write (hspelling : ∀ key ∈ Key.all, spelling key ∈ [key.camel, key.snake])
    (htexts : ∀ e ∈ texts, e.1 ∈ Key.all) (hkey : key ∈ Key.all) {name : Text}
    (hname : name ∈ [key.camel, key.snake]) (hunknown : OrderedMap.find? unknown name = none) :
    OrderedMap.find? (write spelling texts ++ unknown) name =
      if name = spelling key then (texts.lookup key).map Json.str else none := by
  induction texts with
  | nil =>
    rw [write, List.map_nil, List.nil_append, hunknown]
    split <;> rfl
  | cons e rest ih =>
    obtain ⟨other, s⟩ := e
    obtain ⟨hother, hrest⟩ := List.forall_mem_cons.mp htexts
    rw [write, List.map_cons, List.cons_append, OrderedMap.find?, ← write, ih hrest,
      List.lookup_cons]
    by_cases hsame : key = other
    · subst hsame
      simp only [beq_self_eq_true, eq_comm]
      split <;> rfl
    · -- no spelling of another key is a name of this one
      obtain ⟨hcamel, hsnake⟩ := Key.spellings_ne key hkey other hother (Ne.symm hsame) name hname
      have hne : spelling other ≠ name := by
        have hspelled := hspelling other hother
        simp only [List.mem_cons, List.not_mem_nil, or_false] at hspelled
        rcases hspelled with h | h
        · exact h ▸ hcamel.symm
        · exact h ▸ hsnake.symm
      have hbeq : (key == other) = false := by simpa using hsame
      rw [if_neg hne, hbeq]

theorem spellsFlag_flagWord (b : Bool) : SpellsFlag b (flagWord b) :=
  ⟨flagWord b, by cases b <;> decide, [], [], by simp, nofun, nofun⟩

theorem spellsActions_names (actions : List Action) :
    SpellsActions actions (actions.map Action.name) := by
  induction actions with
  | nil => exact .nil
  | cons a actions ih => exact .action ⟨[], [], by simp, nofun, nofun⟩ ih

theorem block_write (options : Options)
    (hspelling : ∀ key ∈ Key.all, spelling key ∈ [key.camel, key.snake])
    (hunknown : ∀ key ∈ Key.all, Omits unknown key) :
    Block options (write spelling options.texts ++ unknown) := by
  have htexts : ∀ e ∈ options.texts, e.1 ∈ Key.all := by
    unfold Options.texts
    cases options.trpcOptionsPath <;> simp [Key.all]
  have hgives {key : Key} (hkey : key ∈ Key.all) {s : Text}
      (hs : options.texts.lookup key = some s) :
      Gives (write spelling options.texts ++ unknown) key s := by
    refine ⟨spelling key, hspelling key hkey, ?_, fun other hother hne => ?_⟩
    · rw [find?_write hspelling htexts hkey (hspelling key hkey)
        (hunknown key hkey _ (hspelling key hkey)), if_pos rfl, hs]
      rfl
    · rw [find?_write hspelling htexts hkey hother (hunknown key hkey _ hother), if_neg hne]
  have hlast (key : Key) (hkey : key = .showModelName ∨ key = .actions) :
      options.texts.lookup key = ([(.showModelName, flagWord options.showModelName),
        (.actions, Text.joinWith ',' options.actionNames)] : List (Key × Text)).lookup key := by
    unfold Options.texts
    rcases hkey with rfl | rfl <;> cases options.trpcOptionsPath <;> rfl
  refine ⟨⟨_, hgives (by decide) rfl, spellsFlag_flagWord _⟩,
    ⟨_, hgives (by decide) rfl, spellsFlag_flagWord _⟩, ⟨_, hgives (by decide) rfl, ?_⟩,
    hgives (by decide) rfl, hgives (by decide) rfl, ?_,
    ⟨_, hgives (by decide) (hlast _ (.inl rfl)), spellsFlag_flagWord _⟩,
    ⟨_, hgives (by decide) (hlast _ (.inr rfl)), spellsActions_names _⟩⟩
  · cases options.middleware with
    | off => exact spellsFlag_flagWord false
    | passThrough => exact spellsFlag_flagWord true
    | module path => rfl
  · cases hpath : options.trpcOptionsPath with
    | some path => exact hgives (by decide) (by unfold Options.texts; rw [hpath]; rfl)
    | none =>
      have hnone : options.texts.lookup .trpcOptionsPath = none := by
        unfold Options.texts
        rw [hpath]
        rfl
      intro name hname
      rw [find?_write hspelling htexts (by decide) hname
        (hunknown _ (by decide) name hname), hnone]
      split <;> rfl

end Write

/-- Options that were accepted once are read from every block of texts that says what they are, and
there is such a block for any choice of spellings and whatever else is in it. -/
theorem parse_block {raw : OrderedMap Json} {options : Options} (h : parse raw = .ok options) :
    (∀ block, Block options block → parse block = .ok options) ∧
    ∀ spelling unknown, (∀ key ∈ Key.all, spelling key ∈ [key.camel, key.snake]) →
      (∀ key ∈ Key.all, Omits unknown key) →
      Block options (write spelling options.texts ++ unknown) :=
  ⟨fun _ hblock => parse_eq_ok.mpr (hblock.reads (parse_eq_ok.mp h).settled),
    fun _ _ => block_write options⟩

def assorted : OrderedMap Json :=
  [("withZod", .int 0), ("with_middleware", .str " yes"), ("contextPath", .str "  ctx "),
    ("trpcOptionsPath", .null), ("generateModelActions", .list [.str "findMany", .str "create"])]

def assortedOptions : Options :=
  { Options.default with
    withZod := false, middleware := .module " yes", contextPath := "ctx"
    actions := [.findMany, .create] }

def assortedBlock : OrderedMap Json :=
  [("provider", .str "routers"), ("with_zod", .str " FALSE\t"), ("withShield", .str "tRuE"),
    ("withMiddleware", .str " yes"), ("context_path", .str "ctx"),
    ("emitterPath", .str "../../../../src/emitter"),
    ("showModelNameInProcedure", .str "true"),
    ("generate_model_actions", .str " , findMany\n,,create ")]

theorem parse_block_assorted :
    parse assorted = .ok assortedOptions ∧ Block assortedOptions assortedBlock ∧
      parse assortedBlock = .ok assortedOptions := by
  have hparse : parse assorted = .ok assortedOptions := by decide +kernel
  have hpath : ∀ name ∈ [Key.trpcOptionsPath.camel, Key.trpcOptionsPath.snake],
      OrderedMap.find? assortedBlock name = none := by decide +kernel
  have hblock : Block assortedOptions assortedBlock := {
    withZod := ⟨_, ⟨"with_zod", by decide, rfl, by decide +kernel⟩, "FALSE", by decide, " ", "\t",
      by decide, by decide, by decide⟩
    withShield := ⟨_, ⟨"withShield", by decide, rfl, by decide +kernel⟩, "tRuE", by decide, [], [],
      by decide, by decide, by decide⟩
    middleware := ⟨_, ⟨"withMiddleware", by decide, rfl, by decide +kernel⟩, rfl⟩
    contextPath := ⟨"context_path", by decide, rfl, by decide +kernel⟩
    emitterPath := ⟨"emitterPath", by decide, rfl, by decide +kernel⟩
    trpcOptionsPath := hpath
    showModelName := ⟨_, ⟨"showModelNameInProcedure", by decide, rfl, by decide +kernel⟩, "true",
      by decide, [], [], by decide, by decide, by decide⟩
    actions := ⟨[" ", " findMany\n", "", "create "],
      ⟨"generate_model_actions", by decide, by decide +kernel, by decide +kernel⟩,
      .blank (by decide) (.action ⟨" ", "\n", by decide, by decide, by decide⟩
        (.blank (by decide) (.action ⟨[], " ", by decide, by decide, by decide⟩ .nil)))⟩ }
  exact ⟨hparse, hblock, (parse_block hparse).1 _ hblock⟩

end RouterLayer.Options
