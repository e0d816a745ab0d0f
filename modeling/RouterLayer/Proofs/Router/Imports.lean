import RouterLayer.Proofs.Path.Module
import RouterLayer.Proofs.SourceFile.Scope

set_option autoImplicit false

namespace RouterLayer

def MiddlewareSetting.path? : MiddlewareSetting → Option Text
  | .module path => some path
  | _ => none

namespace Router

section Bootstrap

variable (site : Site) (options : Options)

/-- Both paths are reckoned from the working directory, which is no part of the steps between
them. -/
theorem specifier_shield : specifier site (Path.ofText helpersDir) (Path.ofText shieldPath) =
    .ok "../../shield/shield" := by
  have hsource : (Path.ofText helpersDir).normal = ⟨.none, ["routers", "helpers"]⟩ := by decide
  have htarget : (Path.ofText shieldPath).normal.dropExtension = ⟨.none, ["shield", "shield"]⟩ := by
    decide
  have hcut : (⟨.none, ["shield", "shield"]⟩ : Path) ≠ ⟨.none, [[]]⟩ := by decide
  unfold specifier Path.specifier?
  simp only [hsource, htarget, if_neg hcut]
  have hbelow (names : List Segment) (hparent : Path.parent ∉ names)
      (hnames : ∀ s ∈ names, Path.isName s = true) :=
    Path.absoluteSegments_names site.cwd hparent hnames
  rw [hbelow ["routers", "helpers"] (by decide) (by decide),
    hbelow ["shield", "shield"] (by decide) (by decide), Path.stepsBetween_append]
  rfl

def shieldImports : List Import :=
  if options.withShield then [Import.names "../../shield/shield" ["permissions"]] else []

variable {options} in
theorem mem_shieldImports {i : Import} : i ∈ shieldImports options ↔
    options.withShield = true ∧ i = Import.names "../../shield/shield" ["permissions"] := by
  unfold shieldImports
  split <;> simp_all

def optionalImport (name : Text) : Option Text → Except Failure (List Import)
  | some path => do
    let s ← configuredSpecifier site helpersDir path
    return [Import.mainExport s name]
  | none => return []

theorem bootstrapImports_eq : bootstrapImports site options = (do
    let context ← configuredSpecifier site helpersDir options.contextPath
    let settings ← optionalImport site "trpcOptions" options.trpcOptionsPath
    let middleware ← optionalImport site "defaultMiddleware" options.middleware.path?
    return Import.everything "@trpc/server" "trpc" :: Import.types context ["Context"] ::
      (shieldImports options ++ settings ++ middleware)) := by
  have hshield : specifier site (Path.ofText helpersDir) (Path.ofText shieldPath) =
      pure "../../shield/shield" := specifier_shield site
  unfold bootstrapImports shieldImports
  rw [hshield]
  cases options.withShield <;> cases options.trpcOptionsPath <;> cases options.middleware <;>
    simp [optionalImport, MiddlewareSetting.path?]

variable {site options}

theorem optionalImport_ok {name : Text} {path? : Option Text} {imports : List Import}
    (h : optionalImport site name path? = .ok imports) :
    (path? = none ∧ imports = []) ∨ ∃ path s, path? = some path ∧
      configuredSpecifier site helpersDir path = .ok s ∧ imports = [Import.mainExport s name] := by
  cases path? with
  | none => cases h; exact .inl ⟨rfl, rfl⟩
  | some path =>
    obtain ⟨s, hs, h⟩ := bind_eq_ok.mp h
    cases h
    exact .inr ⟨path, s, rfl, hs, rfl⟩

theorem bootstrapImports_ok {imports : List Import}
    (h : bootstrapImports site options = .ok imports) :
    ∃ context settings middleware,
      configuredSpecifier site helpersDir options.contextPath = .ok context ∧
      optionalImport site "trpcOptions" options.trpcOptionsPath = .ok settings ∧
      optionalImport site "defaultMiddleware" options.middleware.path? = .ok middleware ∧
      imports = Import.everything "@trpc/server" "trpc" :: Import.types context ["Context"] ::
        (shieldImports options ++ settings ++ middleware) := by
  rw [bootstrapImports_eq] at h
  obtain ⟨context, hcontext, h⟩ := bind_eq_ok.mp h
  obtain ⟨settings, hsettings, h⟩ := bind_eq_ok.mp h
  obtain ⟨middleware, hmiddleware, h⟩ := bind_eq_ok.mp h
  cases h
  exact ⟨context, settings, middleware, hcontext, hsettings, hmiddleware, rfl⟩

end Bootstrap

section Schemas

def schemaOf (model : Text) (operation : Operation) : Text :=
  Naming.inputType (some operation.base) model true

def schemaImport (model : Text) (operation : Operation) : Import :=
  Import.names (Naming.schemaModule operation.base model) [schemaOf model operation]

/-- One step of the walk over the operations: the schemas seen so far, and their imports. -/
def schemaStep (model : Text) (acc : List Text × List Import) (operation : Operation) :
    List Text × List Import :=
  if acc.1.contains (schemaOf model operation) then acc
  else (acc.1 ++ [schemaOf model operation], acc.2 ++ [schemaImport model operation])

theorem schemaImports_eq (model : Text) (operations : List Operation) :
    schemaImports model operations = (operations.foldl (schemaStep model) ([], [])).2 := rfl

theorem foldl_schemaStep (model : Text) (operations : List Operation)
    (acc : List Text × List Import) (hacc : acc.2.flatMap (·.bound) = acc.1) :
    let r := operations.foldl (schemaStep model) acc
    r.2.flatMap (·.bound) = r.1 ∧ acc.1 ⊆ r.1 ∧ (∀ o ∈ operations, schemaOf model o ∈ r.1) ∧
      ∀ i ∈ r.2, i ∈ acc.2 ∨ ∃ o ∈ operations, i = schemaImport model o := by
  induction operations generalizing acc with
  | nil => exact ⟨hacc, List.Subset.refl _, fun _ h => (nomatch h), fun _ h => .inl h⟩
  | cons o rest ih =>
    have hstep : (schemaStep model acc o).2.flatMap (·.bound) = (schemaStep model acc o).1 ∧
        acc.1 ⊆ (schemaStep model acc o).1 ∧ schemaOf model o ∈ (schemaStep model acc o).1 ∧
        ∀ i ∈ (schemaStep model acc o).2, i ∈ acc.2 ∨ i = schemaImport model o := by
      unfold schemaStep
      split
      · next h => exact ⟨hacc, List.Subset.refl _, List.contains_iff_mem.mp h, fun _ h => .inl h⟩
      · refine ⟨?_, List.subset_append_left _ _, by simp, fun i hi => ?_⟩
        · rw [List.flatMap_append, hacc]; rfl
        · simpa using hi
    obtain ⟨hbound, hsub, hmem, himports⟩ := hstep
    obtain ⟨hbound', hsub', hmem', himports'⟩ := ih (schemaStep model acc o) hbound
    refine ⟨hbound', List.Subset.trans hsub hsub', ?_, fun i hi => ?_⟩
    · exact List.forall_mem_cons.mpr ⟨hsub' hmem, hmem'⟩
    · rcases himports' i hi with hi | ⟨o', ho', rfl⟩
      · exact (himports i hi).imp_right fun e => ⟨o, List.mem_cons_self, e⟩
      · exact .inr ⟨o', List.mem_cons_of_mem _ ho', rfl⟩

theorem bound_schemaImports {model : Text} {operations : List Operation} {o : Operation}
    (ho : o ∈ operations) :
    schemaOf model o ∈ (schemaImports model operations).flatMap (·.bound) := by
  obtain ⟨hbound, _, hmem, _⟩ := foldl_schemaStep model operations ([], []) rfl
  rw [schemaImports_eq, hbound]
  exact hmem o ho

theorem mem_schemaImports {model : Text} {operations : List Operation} {i : Import}
    (hi : i ∈ schemaImports model operations) : ∃ o ∈ operations, i = schemaImport model o := by
  rw [schemaImports_eq] at hi
  exact ((foldl_schemaStep model operations ([], []) rfl).2.2.2 i hi).resolve_left
    List.not_mem_nil

theorem base_eq_of_schemaSuffix {o o' : Operation}
    (h : o.base.schemaSuffix = o'.base.schemaSuffix) : o.base = o'.base := by
  have hall : ∀ o ∈ Operation.all, ∀ o' ∈ Operation.all,
      o.base.schemaSuffix = o'.base.schemaSuffix → o.base = o'.base := by decide
  exact hall o o.mem_all o' o'.mem_all h

theorem schemaImport_congr {model : Text} {o o' : Operation}
    (h : schemaOf model o = schemaOf model o') : schemaImport model o = schemaImport model o' := by
  have hbase : o.base = o'.base := base_eq_of_schemaSuffix (List.append_cancel_left h)
  unfold schemaImport schemaOf
  rw [hbase]

/-- An operation whose schema was imported for another one has the same import. -/
theorem mem_schemaImports_iff {model : Text} {operations : List Operation} {i : Import} :
    i ∈ schemaImports model operations ↔ ∃ o ∈ operations, i = schemaImport model o := by
  refine ⟨mem_schemaImports, ?_⟩
  rintro ⟨o, ho, rfl⟩
  obtain ⟨i, hi, hbound⟩ := List.mem_flatMap.mp (bound_schemaImports ho)
  obtain ⟨o', ho', rfl⟩ := mem_schemaImports hi
  rw [schemaImport_congr (List.mem_singleton.mp hbound)]
  exact hi

end Schemas

end Router

theorem Policy.policyImports_ok {site : Router.Site} {options : Options} {imports : List Import}
    (h : policyImports site options = .ok imports) :
    ∃ context, Router.configuredSpecifier site Router.shieldDir options.contextPath = .ok context ∧
      imports =
        [Import.names "trpc-shield" ["shield", allow], Import.names context ["Context"]] := by
  obtain ⟨context, hcontext, h⟩ := bind_eq_ok.mp h
  cases h
  exact ⟨context, hcontext, rfl⟩

end RouterLayer
