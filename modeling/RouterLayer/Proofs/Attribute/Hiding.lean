import RouterLayer.Proofs.Attribute.Arguments
import RouterLayer.Proofs.Attribute.Scan
import RouterLayer.Proofs.Visibility

/-!
Which documentation hides a model. The attributes of a text are looked at alone, and an attribute
hides by what the last of its parts that has the key gives (`HidesBy`). Main statements: what hides
a model (`isHidden_attributes`), also in terms of what stands before the first colon of a part, for
attributes in which the key stands alone (`Plain`); and when a marker that is written into a text is
read as one (`outcome_marked`).
-/

set_option autoImplicit false

namespace RouterLayer

namespace Attribute

def SaysTrue (value : Text) : Prop :=
  Text.lower (Text.trim isQuote (Text.strip value)) = "true"

instance (value : Text) : Decidable (SaysTrue value) := inferInstanceAs (Decidable (_ = _))

theorem readValue_eq_true {value : Text} : readValue value = .bool true ↔ SaysTrue value := by
  unfold readValue SaysTrue
  dsimp only
  split
  · next h => simp [h]
  · next h => split <;> simp [h]

def LastRead (reads : Text → Text → Prop) (parts : List Text) (value : Text) : Prop :=
  ∃ before part after, parts = before ++ part :: after ∧ reads part value ∧
    ∀ later ∈ after, ∀ value, ¬reads later value

/-- The text in an attribute's parentheses hides, with a way to read its parts. -/
def HidesBy (reads : Text → Text → Prop) (inner : Text) : Prop :=
  ∃ value, LastRead reads (Text.splitAll ',' inner) value ∧ SaysTrue value

def Says (part value : Text) : Prop :=
  ∃ key, Text.cut? ':' part = some (key, value) ∧ Text.strip key = "hide"

variable {name inner part value : Text}

theorem comma_not_mem {before after : List Text}
    (h : Text.splitAll ',' inner = before ++ part :: after) :
    CodePoint.char ',' ∉ part ∧ ∀ later ∈ after, CodePoint.char ',' ∉ later := by
  have hall : ∀ piece ∈ before ++ part :: after, CodePoint.char ',' ∉ piece := by
    rw [← h]
    exact fun _ => Text.not_mem_of_mem_splitAll
  exact List.forall_mem_cons.mp (List.forall_mem_append.mp hall).2

theorem latest?_arguments (key : Text) {x : ArgumentValue} :
    OrderedMap.latest? (argumentsFrom 0 inner) key = some x ↔
      ∃ value, LastRead (Reads · key ·) (Text.splitAll ',' inner) value ∧ x = readValue value := by
  rw [argumentsFrom_eq_flatMap, OrderedMap.latest?_flatMap]
  constructor
  · rintro ⟨before, part, after, hparts, hpart, hafter⟩
    obtain ⟨hself, hrest⟩ := comma_not_mem hparts
    obtain ⟨value, hreads, rfl⟩ := (latest?_part hself key).mp hpart
    refine ⟨value, ⟨before, part, after, hparts, hreads, fun later hlater => ?_⟩, rfl⟩
    exact (latest?_part_eq_none (hrest later hlater) key).mp (hafter later hlater)
  · rintro ⟨value, ⟨before, part, after, hparts, hreads, hafter⟩, rfl⟩
    obtain ⟨hself, hrest⟩ := comma_not_mem hparts
    refine ⟨before, part, after, hparts, ?_, fun later hlater => ?_⟩
    · exact (latest?_part hself key).mpr ⟨value, hreads, rfl⟩
    · exact (latest?_part_eq_none (hrest later hlater) key).mpr (hafter later hlater)

theorem hides_ofPair : (ofPair (name, inner)).hides = true ↔
    name = "model" ∧ HidesBy (Reads · "hide" ·) inner := by
  unfold hides ofPair HidesBy
  rw [Bool.and_eq_true, decide_eq_true_eq, decide_eq_true_eq, OrderedMap.find?_ofEntries,
    latest?_arguments]
  simp only [eq_comm (a := ArgumentValue.bool true), readValue_eq_true]

/-! ### Where a key is alone -/

theorem keyBefore_of_strip {front : Text} (h : ∀ c ∈ Text.strip front, c.isLetter = true) :
    keyBefore front = Text.strip front := by
  obtain ⟨before, after, hfront, hbefore, hafter⟩ := Text.strip_eq_append front
  generalize Text.strip front = key at *
  subst hfront
  induction before with
  | nil => exact keyBefore_append h hafter
  | cons c before ih =>
    obtain ⟨hc, hbefore⟩ := List.forall_mem_cons.mp hbefore
    rcases keyBefore_cons c (before ++ (key ++ after)) with heq | ⟨hletter, -⟩
    · rw [List.cons_append, heq, ih hbefore]
    · rw [Text.not_isLetter_of_isBlank hc] at hletter
      cases hletter

theorem colon_not_mem {front : Text} (h : Text.strip front = "hide") :
    CodePoint.char ':' ∉ front := by
  obtain ⟨before, after, hfront, hbefore, hafter⟩ := Text.strip_eq_append front
  rw [hfront, h, List.mem_append, List.mem_append]
  rintro (hcolon | hcolon | hcolon)
  · exact absurd (hbefore _ hcolon) (by decide)
  · exact absurd hcolon (by decide)
  · exact absurd (hafter _ hcolon) (by decide)

theorem Says.reads (h : Says part value) (hvalue : value ≠ []) : Reads part "hide" value := by
  obtain ⟨front, hcut, hfront⟩ := h
  obtain ⟨hpart, hcolon⟩ := Text.cut?_eq_some.mp hcut
  refine ⟨by decide, hvalue, front, hpart, ?_, fun earlier between hbetween => ?_⟩
  · rw [keyBefore_of_strip (by rw [hfront]; decide), hfront]
  · exact absurd (by simp [hbetween]) hcolon

/-- The key stands alone before the colon it is read at, and something follows every colon that it
stands alone before. -/
structure Plain (inner : Text) : Prop where
  alone : ∀ part ∈ Text.splitAll ',' inner, ∀ value, Reads part "hide" value →
    ∃ front, part = front ++ .char ':' :: value ∧ Text.strip front = "hide"
  valued : ∀ part ∈ Text.splitAll ',' inner, ∀ front, part = front ++ [.char ':'] →
    Text.strip front ≠ "hide"

theorem Plain.reads_iff (h : Plain inner) (hpart : part ∈ Text.splitAll ',' inner) :
    Reads part "hide" value ↔ Says part value := by
  constructor
  · intro hreads
    obtain ⟨front, hfront, hstrip⟩ := h.alone part hpart value hreads
    exact ⟨front, Text.cut?_eq_some.mpr ⟨hfront, colon_not_mem hstrip⟩, hstrip⟩
  · intro hsaid
    refine hsaid.reads fun hvalue => ?_
    obtain ⟨front, hcut, hstrip⟩ := hsaid
    subst hvalue
    exact h.valued part hpart front (Text.cut?_eq_some.mp hcut).1 hstrip

theorem Plain.hidesBy_iff (h : Plain inner) :
    HidesBy (Reads · "hide" ·) inner ↔ HidesBy Says inner := by
  refine exists_congr fun value => and_congr_left' ?_
  refine exists_congr fun before => exists_congr fun part => exists_congr fun after => ?_
  refine and_congr_right fun hparts => ?_
  have hpart : part ∈ Text.splitAll ',' inner := by simp [hparts]
  refine and_congr (h.reads_iff hpart) (forall₂_congr fun later hlater => ?_)
  have hmem : later ∈ Text.splitAll ',' inner := by simp [hparts, hlater]
  exact forall_congr' fun value => not_congr (h.reads_iff hmem)

/-! ### The attributes of a text -/

def AnyHides (reads : Text → Text → Prop) (found : List (Text × Text)) : Prop :=
  ∃ inner, (("model" : Text), inner) ∈ found ∧ HidesBy reads inner

theorem any_hides_iff {found : List (Text × Text)} :
    (found.any fun pair => (ofPair pair).hides) = true ↔ AnyHides (Reads · "hide" ·) found := by
  rw [List.any_eq_true]
  constructor
  · rintro ⟨⟨name, inner⟩, hmem, hpair⟩
    obtain ⟨rfl, hby⟩ := hides_ofPair.mp hpair
    exact ⟨inner, hmem, hby⟩
  · rintro ⟨inner, hmem, hby⟩
    exact ⟨_, hmem, hides_ofPair.mpr ⟨rfl, hby⟩⟩

theorem anyHides_iff_says {found : List (Text × Text)}
    (h : ∀ inner, (("model" : Text), inner) ∈ found → Plain inner) :
    AnyHides (Reads · "hide" ·) found ↔ AnyHides Says found :=
  exists_congr fun inner => and_congr_right fun hmem => (h inner hmem).hidesBy_iff

theorem anyHides_append {reads : Text → Text → Prop} {found later : List (Text × Text)} :
    AnyHides reads (found ++ later) ↔ AnyHides reads found ∨ AnyHides reads later := by
  simp only [AnyHides, List.mem_append, or_and_right, exists_or]

theorem anyHides_cons {reads : Text → Text → Prop} {found : List (Text × Text)} :
    AnyHides reads ((name, inner) :: found) ↔
      (name = "model" ∧ HidesBy reads inner) ∨ AnyHides reads found := by
  simp only [AnyHides, List.mem_cons, Prod.mk.injEq, or_and_right, exists_or]
  constructor
  · rintro (⟨inner, ⟨rfl, rfl⟩, h⟩ | h)
    · exact .inl ⟨rfl, h⟩
    · exact .inr h
  · rintro (⟨rfl, h⟩ | h)
    · exact .inl ⟨inner, ⟨rfl, rfl⟩, h⟩
    · exact .inr h

def Hidden (s : Text) : Prop :=
  ∃ found, Scans s found ∧ AnyHides (Reads · "hide" ·) found

theorem hidden_iff {s : Text} {found : List (Text × Text)} (h : Scans s found) :
    Hidden s ↔ AnyHides (Reads · "hide" ·) found :=
  ⟨fun ⟨_, hscans, hhides⟩ => h.unique hscans ▸ hhides, fun hhides => ⟨found, h, hhides⟩⟩

/-- Text that leaves no attribute open is read apart from an attribute that follows. -/
theorem hidden_append {s rest : Text} (h : Proper name inner) (hs : ¬Unfinished s) :
    Hidden (s ++ (written name inner ++ rest)) ↔
      Hidden s ∨ (name = "model" ∧ HidesBy (Reads · "hide" ·) inner) ∨ Hidden rest := by
  obtain ⟨found, hfound⟩ := exists_scans s
  obtain ⟨later, hlater⟩ := exists_scans rest
  have hmarker : marker <+: written name inner ++ rest := by
    rw [written_append]
    exact List.prefix_append _ _
  rw [hidden_iff (hfound.append hmarker (.take h hlater) hs), hidden_iff hfound,
    hidden_iff hlater, anyHides_append, anyHides_cons]

def hideMarker : Text := "@@Gen.model(hide: true)"

theorem hideMarker_eq : hideMarker = written "model" "hide: true" := rfl

theorem proper_hide : Proper "model" "hide: true" := ⟨by decide, by decide, by decide⟩

theorem hidesBy_hide : HidesBy (Reads · "hide" ·) "hide: true" :=
  (hides_ofPair.mp (show (ofPair ("model", "hide: true")).hides = true by decide)).2

theorem plain_hide : Plain "hide: true" := by
  have hparts : Text.splitAll ',' "hide: true" = [("hide: true" : Text)] := rfl
  have hreads : Reads "hide: true" "hide" " true" :=
    Says.reads ⟨"hide", rfl, rfl⟩ (by decide)
  constructor
  · intro part hpart value hvalue
    rw [hparts, List.mem_singleton] at hpart
    subst hpart
    obtain ⟨-, rfl⟩ := hvalue.unique hreads
    exact ⟨"hide", rfl, rfl⟩
  · intro part hpart front hfront
    rw [hparts, List.mem_singleton] at hpart
    have hlast := congrArg List.getLast? (hpart.symm.trans hfront)
    rw [List.getLast?_concat] at hlast
    exact absurd hlast (by decide)

theorem append_hideMarker (before name inner rest : Text) :
    before ++ (opening name ++ inner) ++ (hideMarker ++ rest) =
      before ++ (written name (inner ++ "@@Gen.model(hide: true") ++ rest) := by
  have hclose : hideMarker = ("@@Gen.model(hide: true" : Text) ++ [.char ')'] := rfl
  simp only [hclose, written, List.append_assoc]

/-- In front of a marker, a text that leaves an attribute open: something hides before that
attribute, or the attribute itself hides when the marker is part of it. -/
def HidesOpen (front : Text) : Prop :=
  ∃ before name inner, Proper name inner ∧ ¬Unfinished before ∧
    front = before ++ (opening name ++ inner) ∧
    (Hidden before ∨
      name = "model" ∧ HidesBy (Reads · "hide" ·) (inner ++ "@@Gen.model(hide: true"))

theorem hidden_open {before rest : Text} (h : Proper name inner) (hbefore : ¬Unfinished before) :
    Hidden (before ++ (opening name ++ inner) ++ (hideMarker ++ rest)) ↔
      Hidden before ∨
        (name = "model" ∧ HidesBy (Reads · "hide" ·) (inner ++ "@@Gen.model(hide: true")) ∨
        Hidden rest := by
  rw [append_hideMarker]
  refine hidden_append ⟨h.name_ne_nil, h.letters, ?_⟩ hbefore
  rw [List.mem_append]
  exact not_or.mpr ⟨h.unclosed, by decide⟩

/-- A marker is read as one, unless an attribute before it is still open. -/
theorem hidden_hideMarker (front rest : Text) : Hidden (front ++ (hideMarker ++ rest)) ↔
    ¬Unfinished front ∨ HidesOpen front ∨ Hidden rest := by
  by_cases hfront : Unfinished front
  · -- the attribute that is left open first has the marker at its end
    constructor
    · intro h
      obtain ⟨before, name, inner, hproper, rfl, hbefore⟩ := hfront.first
      rcases (hidden_open hproper hbefore).mp h with h | h | h
      · exact .inr (.inl ⟨before, name, inner, hproper, hbefore, rfl, .inl h⟩)
      · exact .inr (.inl ⟨before, name, inner, hproper, hbefore, rfl, .inr h⟩)
      · exact .inr (.inr h)
    · rintro (h | ⟨before, name, inner, hproper, hbefore, rfl, h⟩ | h)
      · exact absurd hfront h
      · exact (hidden_open hproper hbefore).mpr (h.imp_right .inl)
      · obtain ⟨before, name, inner, hproper, rfl, hbefore⟩ := hfront.first
        exact (hidden_open hproper hbefore).mpr (.inr (.inr h))
  · refine iff_of_true ?_ (.inl hfront)
    rw [hideMarker_eq]
    exact (hidden_append proper_hide hfront).mpr (.inr (.inl ⟨rfl, hidesBy_hide⟩))

end Attribute

open Attribute

namespace Model

def documented (m : Model) (documentation : Text) : Model :=
  { m with documentation := .str documentation }

theorem attributes_documented (m : Model) (d : Text) :
    (m.documented d).attributes = .ok (readAll d) := by
  cases d with
  | nil => rfl
  | cons c d => rfl

theorem isHidden_documented (m : Model) {d : Text} {found : List (Text × Text)}
    (h : Scans d found) :
    (m.documented d).isHidden = .ok (found.any fun pair => (ofPair pair).hides) := by
  rw [isHidden, attributes_documented, Except.map, readAll_of_scans h, List.any_map]
  rfl

/-- What hides a model are its attributes of the one name, each by itself. Where the key is alone,
its parts are read as they are written. -/
theorem isHidden_attributes (m : Model) (d : Text) : ∃ found hidden,
    (∀ pairs, Scans d pairs ↔ pairs = found) ∧
    (m.documented d).isHidden = .ok hidden ∧
    (hidden = true ↔ AnyHides (Reads · "hide" ·) found) ∧
    ((∀ inner, (("model" : Text), inner) ∈ found → Plain inner) →
      (hidden = true ↔ AnyHides Says found)) := by
  obtain ⟨found, hfound⟩ := exists_scans d
  refine ⟨found, _, fun pairs => ?_, isHidden_documented m hfound, any_hides_iff, fun hplain => ?_⟩
  · exact ⟨fun h => h.unique hfound, fun h => h ▸ hfound⟩
  · rw [any_hides_iff, anyHides_iff_says hplain]

theorem isHidden_attributes_marker :
    ((⟨.str "User", [], .null⟩ : Model).documented hideMarker).isHidden = .ok true ∧
      AnyHides Says [("model", "hide: true")] := by
  obtain ⟨found, hidden, hscans, hhidden, hreads, hsaid⟩ :=
    isHidden_attributes ⟨.str "User", [], .null⟩ hideMarker
  have hfound := (hscans _).mp (.take proper_hide .nil)
  subst hfound
  have htrue : hidden = true := hreads.mpr ⟨_, List.mem_singleton_self _, hidesBy_hide⟩
  refine ⟨htrue ▸ hhidden, (hsaid fun inner hmem => ?_).mp htrue⟩
  cases List.mem_singleton.mp hmem
  exact plain_hide

/-- A key with something in front of it counts as the key. It hides a model that nothing hides, and
shows one that is hidden. -/
theorem not_isHidden_iff_says :
    (∃ (m : Model) (d : Text) (found : List (Text × Text)), Scans d found ∧
      (m.documented d).isHidden = .ok true ∧ ¬AnyHides Says found) ∧
    ∃ (m : Model) (d : Text) (found : List (Text × Text)), Scans d found ∧
      (m.documented d).isHidden = .ok false ∧ AnyHides Says found := by
  have hother {part value : Text} (hpart : part = "no-hide: true" ∨ part = " no-hide: false") :
      ¬Says part value := by
    rintro ⟨key, hcut, hkey⟩
    rcases hpart with rfl | rfl
    · cases hcut
      exact absurd hkey (by decide)
    · cases hcut
      exact absurd hkey (by decide)
  constructor
  · have hproper : Proper "model" "no-hide: true" := ⟨by decide, by decide, by decide⟩
    refine ⟨⟨.str "User", [], .null⟩, "@@Gen.model(no-hide: true)", _, .take hproper .nil, rfl, ?_⟩
    rintro ⟨inner, hmem, value, ⟨before, part, after, hparts, hsaid, -⟩, -⟩
    cases List.mem_singleton.mp hmem
    have hpart : part ∈ Text.splitAll ',' "no-hide: true" := by simp [hparts]
    exact hother (.inl (List.mem_singleton.mp hpart)) hsaid
  · have hproper : Proper "model" "hide: true, no-hide: false" := ⟨by decide, by decide, by decide⟩
    refine ⟨⟨.str "Secret", [], .null⟩, "@@Gen.model(hide: true, no-hide: false)", _,
      .take hproper .nil, rfl, _, List.mem_singleton_self _, " true", ?_, by decide⟩
    refine ⟨[], "hide: true", [" no-hide: false"], rfl, ⟨"hide", rfl, rfl⟩, fun later hlater => ?_⟩
    exact fun value => hother (.inr (List.mem_singleton.mp hlater))

end Model

namespace Visibility

def insert (m : Model) (hidden : Bool) (x y : Visibility) : Visibility :=
  if hidden then ⟨x.visible ++ y.visible, x.hidden ++ m.name :: y.hidden⟩
  else ⟨x.visible ++ m :: y.visible, x.hidden ++ y.hidden⟩

theorem outcome_insert {m : Model} {hidden : Bool} (h : m.isHidden = .ok hidden)
    (earlier later : List Model) : (ofModels (earlier ++ m :: later)).outcome = do
      let x ← (ofModels earlier).outcome
      let y ← (ofModels later).outcome
      return insert m hidden x y := by
  rw [outcome_ofModels, outcome_ofModels, outcome_ofModels, List.mapM_append, List.mapM_cons, h]
  have hhides := Model.hides_of_isHidden h
  cases earlier.mapM Model.isHidden with
  | error e => rfl
  | ok _ =>
    cases later.mapM Model.isHidden with
    | error e => rfl
    | ok _ =>
      cases hidden with
      | true => simp [hhides, insert, bind, Except.bind, Except.map, pure, Except.pure]
      | false => simp [hhides, insert, bind, Except.bind, Except.map, pure, Except.pure]

/-- A marker hides its model wherever it is written, unless an attribute before it is still open.
-/
theorem outcome_marked (m : Model) (front rest : Text) : ∃ hidden,
    (m.documented (front ++ (hideMarker ++ rest))).isHidden = .ok hidden ∧
    (hidden = true ↔ ¬Unfinished front ∨ HidesOpen front ∨ Hidden rest) ∧
    ∀ earlier later,
      (ofModels (earlier ++ m.documented (front ++ (hideMarker ++ rest)) :: later)).outcome = do
        let x ← (ofModels earlier).outcome
        let y ← (ofModels later).outcome
        return insert (m.documented (front ++ (hideMarker ++ rest))) hidden x y := by
  obtain ⟨found, hfound⟩ := exists_scans (front ++ (hideMarker ++ rest))
  have hhidden := m.isHidden_documented hfound
  refine ⟨_, hhidden, ?_, outcome_insert hhidden⟩
  rw [any_hides_iff, ← hidden_iff hfound, hidden_hideMarker]

/-- An attribute that is opened and not closed takes in the marker, and shows its model. -/
theorem not_hidden_marked : ∃ (m : Model) (front rest : Text),
    (ofModels [m.documented (front ++ (hideMarker ++ rest))]).outcome =
      .ok ⟨[m.documented (front ++ (hideMarker ++ rest))], []⟩ :=
  ⟨⟨.str "Secret", [], .null⟩, "@@Gen.field(", [], rfl⟩

end Visibility

end RouterLayer
