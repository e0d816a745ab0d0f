import RouterLayer.Delegate.Registry
import Mathlib.Data.List.Infix

/-!
What a reference to a delegate leads to. Main statement: a reference gives exactly the delegate that
it designates, and fails exactly as it is refused (`Registry.load_reference`). Whatever is wrong
with a reference is reported as a fault of the reference, but for a module name that begins with a
dot: that one fails over its kind. The modules of a program can be imported with all the modules that
they lie in (`moduleOf_eq_ok`).
-/

set_option autoImplicit false

namespace RouterLayer.Delegate

/-- A reference in its two parts, the name of a module and a path. They meet at the first colon, and
neither is empty. -/
structure Names (reference name path : Text) : Prop where
  text : reference = name ++ .char ':' :: path
  first : .char ':' ∉ name
  name_ne : name ≠ []
  path_ne : path ≠ []

structure IsDotted (path : Text) (parts : List Text) : Prop where
  text : path = Text.joinWith '.' parts
  plain : ∀ part ∈ parts, .char '.' ∉ part
  parts_ne : parts ≠ []

def IsRelative (reference : Text) : Prop :=
  ∃ name path, Names reference name path ∧ name.head? = some '.'

theorem names_iff {reference name path : Text} : Names reference name path ↔
    Text.cut? ':' reference = some (name, path) ∧ name ≠ [] ∧ path ≠ [] := by
  rw [Text.cut?_eq_some]
  exact ⟨fun h => ⟨⟨h.text, h.first⟩, h.name_ne, h.path_ne⟩,
    fun ⟨⟨text, first⟩, name_ne, path_ne⟩ => ⟨text, first, name_ne, path_ne⟩⟩

theorem isDotted_iff {path : Text} {parts : List Text} :
    IsDotted path parts ↔ Text.splitAll '.' path = parts := by
  constructor
  · rintro ⟨rfl, plain, parts_ne⟩
    exact Text.splitAll_joinWith parts_ne plain
  · rintro rfl
    exact ⟨(Text.joinWith_splitAll '.' path).symm, fun _ => Text.not_mem_of_mem_splitAll,
      Text.splitAll_ne_nil '.' path⟩

namespace Registry

variable {α : Type} (r : Registry α)

inductive Leads : α → List Text → α → Prop
  | here (target : α) : Leads target [] target
  | onward {target inner found : α} {part : Text} {rest : List Text}
      (member : r.attribute? target part = some inner) (leads : Leads inner rest found) :
      Leads target (part :: rest) found

/-- The module can be imported, the path leads on from it, and what it leads to can be called. -/
inductive Designates (reference : Text) (d : Delegate) : Prop
  | intro {name path : Text} {parts : List Text} {module target : α}
      (names : Names reference name path) (dotted : IsDotted path parts)
      (imported : r.importModule name = .ok module) (leads : r.Leads module parts target)
      (called : r.delegate? target = some d)

/-- Why a reference gives no delegate: the first of the steps that cannot be taken. -/
inductive Refuses (reference : Text) : Failure → Prop
  | malformed (h : ∀ name path, ¬Names reference name path) :
      Refuses reference (.delegateReference (.malformed reference))
  | relative (h : IsRelative reference) : Refuses reference .wrongKind
  | missing {name path : Text} {part : MissingModule} (names : Names reference name path)
      (absolute : name.head? ≠ some '.') (missing : r.module? name = .error part) :
      Refuses reference (.delegateReference (.noModule name part))
  | astray {name path : Text} {parts : List Text} {module : α}
      (names : Names reference name path) (dotted : IsDotted path parts)
      (imported : r.importModule name = .ok module)
      (h : ∀ target, ¬r.Leads module parts target) :
      Refuses reference (.delegateReference (.noAttribute name path))
  | uncallable {name path : Text} {parts : List Text} {module target : α}
      (names : Names reference name path) (dotted : IsDotted path parts)
      (imported : r.importModule name = .ok module) (leads : r.Leads module parts target)
      (h : r.delegate? target = none) :
      Refuses reference (.delegateReference (.notCallable reference))

variable {r}

theorem importModule_of_relative {name : Text} (h : name.head? = some '.') :
    r.importModule name = .error .relative := if_pos h

theorem importModule_of_absolute {name : Text} (h : name.head? ≠ some '.') :
    r.importModule name = (r.module? name).mapError .missing := if_neg h

theorem follow_eq_some {target found : α} {parts : List Text} :
    r.follow target parts = some found ↔ r.Leads target parts found := by
  constructor
  · intro h
    induction parts generalizing target with
    | nil => cases h; exact .here _
    | cons part rest ih =>
      rw [follow] at h
      split at h
      · next member => exact .onward member (ih h)
      · cases h
  · intro h
    induction h with
    | here target => rfl
    | onward member _ ih => rw [follow, member]; exact ih

theorem follow_eq_none {target : α} {parts : List Text} :
    r.follow target parts = none ↔ ∀ found, ¬r.Leads target parts found := by
  rw [Option.eq_none_iff_forall_ne_some]
  exact forall_congr' fun _ => not_congr follow_eq_some

theorem load_of_names {reference name path : Text} (h : Names reference name path) :
    r.load reference =
      match r.importModule name with
      | .error .relative => .error .wrongKind
      | .error (.missing part) => .error (.delegateReference (.noModule name part))
      | .ok module =>
        match r.follow module (Text.splitAll '.' path) with
        | none => .error (.delegateReference (.noAttribute name path))
        | some target =>
          match r.delegate? target with
          | some delegate => .ok delegate
          | none => .error (.delegateReference (.notCallable reference)) := by
  obtain ⟨hcut, hname, hpath⟩ := names_iff.mp h
  have hparts : ¬(name.isEmpty || path.isEmpty) = true := by simp [hname, hpath]
  rw [load, hcut]
  exact if_neg hparts

theorem load_of_malformed {reference : Text} (h : ∀ name path, ¬Names reference name path) :
    r.load reference = .error (.delegateReference (.malformed reference)) := by
  rw [load]
  split
  · rfl
  · next name path hcut =>
    refine if_pos ?_
    by_contra hparts
    simp only [Bool.or_eq_true, List.isEmpty_iff, not_or] at hparts
    exact h name path (names_iff.mpr ⟨hcut, hparts⟩)

theorem Designates.load {reference : Text} {d : Delegate} (h : r.Designates reference d) :
    r.load reference = .ok d := by
  obtain ⟨names, dotted, imported, leads, called⟩ := h
  rw [load_of_names names, imported]
  dsimp only
  rw [isDotted_iff.mp dotted, follow_eq_some.mpr leads]
  dsimp only
  rw [called]

theorem Refuses.load {reference : Text} {e : Failure} (h : r.Refuses reference e) :
    r.load reference = .error e := by
  cases h with
  | malformed h => exact load_of_malformed h
  | relative h =>
    obtain ⟨name, path, names, hdot⟩ := h
    rw [load_of_names names, importModule_of_relative hdot]
  | missing names absolute missing =>
    rw [load_of_names names, importModule_of_absolute absolute, missing]
    rfl
  | astray names dotted imported h =>
    rw [load_of_names names, imported]
    dsimp only
    rw [isDotted_iff.mp dotted, follow_eq_none.mpr h]
  | uncallable names dotted imported leads h =>
    rw [load_of_names names, imported]
    dsimp only
    rw [isDotted_iff.mp dotted, follow_eq_some.mpr leads]
    dsimp only
    rw [h]

theorem designates_or_refuses (r : Registry α) (reference : Text) :
    (∃ d, r.Designates reference d) ∨ ∃ e, r.Refuses reference e := by
  by_cases hnames : ∃ name path, Names reference name path
  · obtain ⟨name, path, names⟩ := hnames
    have dotted : IsDotted path (Text.splitAll '.' path) := isDotted_iff.mpr rfl
    by_cases hdot : name.head? = some '.'
    · exact .inr ⟨_, .relative ⟨name, path, names, hdot⟩⟩
    cases hmodule : r.module? name with
    | error part => exact .inr ⟨_, .missing names hdot hmodule⟩
    | ok module =>
      have imported : r.importModule name = .ok module := by
        rw [importModule_of_absolute hdot, hmodule]
        rfl
      by_cases hleads : ∃ target, r.Leads module (Text.splitAll '.' path) target
      · obtain ⟨target, leads⟩ := hleads
        cases hcalled : r.delegate? target with
        | some d => exact .inl ⟨d, names, dotted, imported, leads, hcalled⟩
        | none => exact .inr ⟨_, .uncallable names dotted imported leads hcalled⟩
      · exact .inr ⟨_, .astray names dotted imported (not_exists.mp hleads)⟩
  · exact .inr ⟨_, .malformed fun name path names => hnames ⟨name, path, names⟩⟩

theorem load_eq_ok {reference : Text} {d : Delegate} :
    r.load reference = .ok d ↔ r.Designates reference d := by
  refine ⟨fun h => ?_, Designates.load⟩
  rcases r.designates_or_refuses reference with ⟨d', hd⟩ | ⟨e, he⟩
  · cases hd.load.symm.trans h
    exact hd
  · cases he.load.symm.trans h

theorem load_eq_error {reference : Text} {e : Failure} :
    r.load reference = .error e ↔ r.Refuses reference e := by
  refine ⟨fun h => ?_, Refuses.load⟩
  rcases r.designates_or_refuses reference with ⟨d, hd⟩ | ⟨e', he⟩
  · cases hd.load.symm.trans h
  · cases he.load.symm.trans h
    exact he

theorem Refuses.cases {reference : Text} {e : Failure} (h : r.Refuses reference e) :
    IsRelative reference ∧ e = .wrongKind ∨ ∃ fault, e = .delegateReference fault := by
  cases h with
  | relative h => exact .inl ⟨h, rfl⟩
  | malformed _ => exact .inr ⟨_, rfl⟩
  | missing _ _ _ => exact .inr ⟨_, rfl⟩
  | astray _ _ _ _ => exact .inr ⟨_, rfl⟩
  | uncallable _ _ _ _ _ => exact .inr ⟨_, rfl⟩

/-- A reference gives a delegate exactly when it designates that one, and a failure exactly when it
is refused with it. What it comes to is a delegate or a fault of the reference, unless its module
part begins with a dot. -/
theorem load_reference (r : Registry α) (reference : Text) :
    (∀ d, r.load reference = .ok d ↔ r.Designates reference d) ∧
      (∀ e, r.load reference = .error e ↔ r.Refuses reference e) ∧
      ((∃ d, r.load reference = .ok d) ∨
          (∃ fault, r.load reference = .error (.delegateReference fault)) ↔
        ¬IsRelative reference) := by
  refine ⟨fun _ => load_eq_ok, fun _ => load_eq_error, ?_, fun hrelative => ?_⟩
  · rintro h hrelative
    have hload : r.load reference = .error .wrongKind := (Refuses.relative hrelative).load
    rcases h with ⟨d, h⟩ | ⟨fault, h⟩
    · cases hload.symm.trans h
    · cases hload.symm.trans h
  · rcases r.designates_or_refuses reference with ⟨d, hd⟩ | ⟨e, he⟩
    · exact .inl ⟨d, hd.load⟩
    · rcases he.cases with ⟨h, -⟩ | ⟨fault, rfl⟩
      · exact absurd h hrelative
      · exact .inr ⟨fault, he.load⟩

end Registry

def bench : List Module :=
  [⟨"fake_delegates", false, [("zod", .callable ⟨"zod", fun _ => .ok ()⟩)]⟩]

/-- The dot makes the name of the module relative, and no fault of the reference is reported. -/
theorem not_load_reference : ¬∀ reference, (∃ d, load bench reference = .ok d) ∨
    ∃ fault, load bench reference = .error (.delegateReference fault) := by
  intro h
  have hload : load bench ".fake_delegates:zod" = .error .wrongKind := rfl
  rcases h ".fake_delegates:zod" with ⟨d, h⟩ | ⟨fault, h⟩
  · cases hload.symm.trans h
  · cases hload.symm.trans h

variable {modules : List Module}

theorem firstMissing?_eq_none {above parts : List Text} :
    firstMissing? modules above parts = none ↔
      ∀ front, front <+: parts → front ≠ [] →
        ∃ m, findModule modules (Text.joinWith '.' (above ++ front)) = some m := by
  induction parts generalizing above with
  | nil =>
    refine iff_of_true rfl fun front hfront hne => ?_
    exact absurd (List.prefix_nil.mp hfront) hne
  | cons part rest ih =>
    rw [firstMissing?]
    constructor
    · intro h front hfront hne
      split at h
      · next m hm =>
        obtain ⟨last, rfl, hlast⟩ :=
          (List.prefix_cons_iff.mp hfront).resolve_left hne
        by_cases hempty : last = []
        · exact ⟨m, hempty ▸ hm⟩
        · obtain ⟨m', hm'⟩ := ih.mp h last hlast hempty
          exact ⟨m', by rw [← hm', List.append_assoc, List.singleton_append]⟩
      · cases h
    · intro h
      obtain ⟨m, hm⟩ := h [part] ⟨rest, rfl⟩ (List.cons_ne_nil _ _)
      rw [hm]
      refine ih.mpr fun front hfront _ => ?_
      rw [List.append_assoc]
      exact h (part :: front) (List.cons_prefix_cons.mpr ⟨rfl, hfront⟩) (List.cons_ne_nil _ _)

theorem moduleOf_eq_ok {name : Text} {target : Target} :
    moduleOf modules name = .ok target ↔
      (∀ front, front <+: Text.splitAll '.' name → front ≠ [] →
        ∃ m, findModule modules (Text.joinWith '.' front) = some m) ∧
      ∃ m, findModule modules name = some m ∧ target = .group m.members := by
  unfold moduleOf
  split
  · next parent part hmissing =>
    refine iff_of_false nofun fun ⟨h, _⟩ => ?_
    rw [firstMissing?_eq_none.mpr h] at hmissing
    cases hmissing
  · next hnone =>
    refine Iff.trans ?_ (and_iff_right (firstMissing?_eq_none.mp hnone)).symm
    cases findModule modules name with
    | none => exact iff_of_false nofun nofun
    | some m =>
      constructor
      · intro h
        cases h
        exact ⟨m, rfl, rfl⟩
      · rintro ⟨m', hm', rfl⟩
        cases hm'
        rfl

end RouterLayer.Delegate
