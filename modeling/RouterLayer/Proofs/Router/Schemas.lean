import RouterLayer.Proofs.Router.Clash
import RouterLayer.Proofs.Run.AllowList

/-!
The schemas of a router file. They are imported in one walk over the operations and used in another,
but what is imported is what is used: each schema once, at its first use, from the module of the
operation whose input it validates (`schemas_fileOf`).
-/

set_option autoImplicit false

namespace RouterLayer

section FirstUses

variable {α : Type} [BEq α] [LawfulBEq α]

theorem eraseDups_concat (xs : List α) (x : α) :
    (xs ++ [x]).eraseDups = if xs.contains x then xs.eraseDups else xs.eraseDups ++ [x] := by
  rw [List.eraseDups_append]
  cases h : xs.contains x <;> simp_all [List.removeAll, List.eraseDups_cons]

theorem nodup_eraseDups (xs : List α) : xs.eraseDups.Nodup := by
  induction xs using List.reverseRecOn with
  | nil => exact List.nodup_nil
  | append_singleton xs x ih =>
    rw [eraseDups_concat]
    split
    · exact ih
    · next h =>
      rw [← List.concat_eq_append, List.nodup_concat]
      exact ⟨fun hmem => h (List.contains_iff_mem.mpr (List.mem_eraseDups.mp hmem)), ih⟩

end FirstUses

namespace SourceFile

theorem filter_imports_addImport (p : Import → Bool) (f : SourceFile) (i : Import) :
    (f.addImport i).imports.filter p = if p i then
      (addImport ⟨f.path, f.imports.filter p, f.statements⟩ i).imports else f.imports.filter p := by
  unfold addImport
  cases hi : p i <;> by_cases hmem : i ∈ f.imports <;> simp [hi, hmem]

theorem filter_imports_addImports (p : Import → Bool) (imports : List Import) (f : SourceFile) :
    (imports.foldl addImport f).imports.filter p =
      ((imports.filter p).foldl addImport ⟨f.path, f.imports.filter p, f.statements⟩).imports := by
  induction imports generalizing f with
  | nil => rfl
  | cons i imports ih =>
    have hform (g : SourceFile) : g = ⟨g.path, g.imports, g.statements⟩ := rfl
    rw [List.foldl_cons, ih, filter_imports_addImport, path_addImport, statements_addImport,
      List.filter_cons]
    split
    · rw [List.foldl_cons, hform (addImport _ i), path_addImport, statements_addImport]
    · rfl

def schemaImports (f : SourceFile) : List Import :=
  f.imports.filter fun i => ("../schemas/" : Text).isPrefixOf i.module

def schemas (f : SourceFile) : List Text := f.schemaImports.flatMap (·.bound)

/-- The types that the procedures have for their inputs; an empty one stands for none. -/
def inputTypes (f : SourceFile) : List Text := f.procedures.map (·.inputType)

end SourceFile

namespace Router

variable {site : Site} {model : Text} {options : Options}

theorem foldl_schemaStep_eq_eraseDups (model : Text) (operations : List Operation) :
    (operations.foldl (schemaStep model) ([], [])).1 =
      (operations.map (schemaOf model)).eraseDups := by
  induction operations using List.reverseRecOn with
  | nil => rfl
  | append_singleton operations o ih =>
    have hseen : (operations.foldl (schemaStep model) ([], [])).1.contains (schemaOf model o) =
        (operations.map (schemaOf model)).contains (schemaOf model o) := by
      rw [Bool.eq_iff_iff, List.contains_iff_mem, List.contains_iff_mem, ih, List.mem_eraseDups]
    rw [List.foldl_concat, schemaStep, hseen, List.map_append, List.map_singleton,
      eraseDups_concat, ← ih]
    split <;> rfl

theorem bound_schemaImports_eq (model : Text) (operations : List Operation) :
    (schemaImports model operations).flatMap (·.bound) =
      (operations.map (schemaOf model)).eraseDups := by
  rw [← foldl_schemaStep_eq_eraseDups]
  exact (foldl_schemaStep model operations ([], []) rfl).1

theorem nodup_schemaImports (model : Text) (operations : List Operation) :
    (schemaImports model operations).Nodup := by
  have hbound := nodup_eraseDups (operations.map (schemaOf model))
  rw [← bound_schemaImports_eq, List.nodup_flatMap] at hbound
  refine hbound.2.imp_of_mem fun {i j} hi _ hdisjoint heq => ?_
  obtain ⟨o, -, rfl⟩ := mem_schemaImports hi
  subst heq
  exact hdisjoint (List.mem_singleton_self _) (List.mem_singleton_self _)

theorem isPrefixOf_schemaModule (o : Operation) (model : Text) :
    ("../schemas/" : Text).isPrefixOf (Naming.schemaModule o model) = true := by
  rw [List.isPrefixOf_iff_prefix, Naming.schemaModule, List.append_assoc, List.append_assoc]
  exact List.prefix_append _ _

theorem schemaImports_modelFile {operations : List ResolvedOperation} {notifications : List Text}
    {f : SourceFile} (h : modelFile site model operations notifications options = .ok f)
    (hemitter : ∀ s, configuredSpecifier site Naming.routersDir options.emitterPath = .ok s →
      ¬("../schemas/" : Text) <+: s) :
    f.schemaImports =
      if options.withZod then schemaImports model (operations.map (·.operation)) else [] := by
  obtain ⟨emitter, _, hspecifier, -, rfl⟩ := modelFile_ok h
  have hother : ("../schemas/" : Text).isPrefixOf emitter = false := by
    rw [← Bool.not_eq_true, List.isPrefixOf_iff_prefix]
    exact hemitter emitter hspecifier
  have hown (i : Import) (hi : i ∈ schemaImports model (operations.map (·.operation))) :
      ("../schemas/" : Text).isPrefixOf i.module = true := by
    obtain ⟨o, -, rfl⟩ := mem_schemaImports hi
    exact isPrefixOf_schemaModule _ _
  have hkept : (modelImports model (operations.map (·.operation)) options emitter).filter
        (fun i => ("../schemas/" : Text).isPrefixOf i.module) =
      if options.withZod then schemaImports model (operations.map (·.operation)) else [] := by
    have hfixed : ("../schemas/" : Text).isPrefixOf ("./helpers/createRouter" : Text) = false ∧
        ("../schemas/" : Text).isPrefixOf ("@prisma/client" : Text) = false ∧
        ("../schemas/" : Text).isPrefixOf ("@trpc/server/observable" : Text) = false := by decide
    rw [modelImports]
    cases options.withZod with
    | true => simp [Import.names, Import.types, hfixed, hother, List.filter_eq_self.mpr hown]
    | false => simp [Import.names, Import.types, hfixed, hother]
  rw [SourceFile.schemaImports, SourceFile.ofParts, SourceFile.filter_imports_addImports, hkept]
  rw [SourceFile.imports_addImports]
  · rfl
  · change (if _ then _ else _ : List Import).Nodup
    split
    · exact nodup_schemaImports _ _
    · exact List.nodup_nil

theorem inputType_of_procedure {r : ResolvedOperation} {p : Procedure}
    (h : procedure model options r = .ok p) :
    p.inputType = Naming.inputType (some r.operation.base) model options.withZod := by
  obtain ⟨key, -, rfl⟩ := map_eq_ok.mp h
  rfl

/-- A router file imports the schemas that its procedures use, and no others. The one module that
the options place, the emitter's, is taken not to lie among them. -/
theorem schemas_fileOf {name : Json} {operations : List ResolvedOperation}
    {notifications : List Text} {f : SourceFile}
    (h : fileOf site name operations notifications options = .ok (model, f))
    (hemitter : ∀ s, configuredSpecifier site Naming.routersDir options.emitterPath = .ok s →
      ¬("../schemas/" : Text) <+: s) :
    (options.withZod = true →
      f.schemas.Nodup ∧ f.schemas = f.inputTypes.eraseDups ∧
        List.Forall₂ (fun r p => procedure model options r = .ok p ∧
          Import.names (Naming.schemaModule r.operation.base model) [p.inputType] ∈
            f.schemaImports) operations f.procedures ∧
        ∀ i ∈ f.schemaImports, ∃ r ∈ operations, ∃ p ∈ f.procedures,
          procedure model options r = .ok p ∧
            i = Import.names (Naming.schemaModule r.operation.base model) [p.inputType]) ∧
      (options.withZod = false → f.schemaImports = [] ∧ ∀ type ∈ f.inputTypes, type = []) := by
  obtain ⟨built, hbuilt, heq⟩ : ∃ built, modelFile site model operations notifications options =
      .ok built ∧ built = f := by
    cases name with
    | str own =>
      obtain ⟨built, hbuilt, h⟩ := bind_eq_ok.mp h
      cases h
      exact ⟨_, hbuilt, rfl⟩
    | _ =>
      obtain ⟨_, -, h⟩ := bind_eq_ok.mp h
      cases h
  subst heq
  have hprocedures := (endpoints_modelFile hbuilt).1
  have himports := schemaImports_modelFile hbuilt hemitter
  have htypes : built.inputTypes = operations.map fun r =>
      Naming.inputType (some r.operation.base) model options.withZod :=
    map_eq_of_forall₂ (fun _ _ h => inputType_of_procedure h) hprocedures
  constructor
  · intro hzod
    rw [if_pos hzod] at himports
    have huses : built.inputTypes = (operations.map (·.operation)).map (schemaOf model) := by
      rw [htypes, hzod, List.map_map]
      rfl
    have hschemas : built.schemas = built.inputTypes.eraseDups := by
      rw [SourceFile.schemas, himports, bound_schemaImports_eq, huses]
    have hown {r : ResolvedOperation} {p : Procedure} (hp : procedure model options r = .ok p) :
        Import.names (Naming.schemaModule r.operation.base model) [p.inputType] =
          schemaImport model r.operation := by
      rw [inputType_of_procedure hp, hzod]
      rfl
    refine ⟨hschemas ▸ nodup_eraseDups _, hschemas, ?_, fun i hi => ?_⟩
    · obtain ⟨hlength, hzip⟩ := List.forall₂_iff_zip.mp hprocedures
      refine List.forall₂_iff_zip.mpr ⟨hlength, fun {r p} hmem => ⟨hzip hmem, ?_⟩⟩
      rw [hown (hzip hmem), himports, mem_schemaImports_iff]
      exact ⟨r.operation, List.mem_map_of_mem (List.of_mem_zip hmem).1, rfl⟩
    · rw [himports] at hi
      obtain ⟨o, ho, rfl⟩ := mem_schemaImports hi
      obtain ⟨r, hr, rfl⟩ := List.mem_map.mp ho
      obtain ⟨p, hp, hbuilt⟩ := ok_of_mem hprocedures hr
      exact ⟨r, hr, p, hp, hbuilt, (hown hbuilt).symm⟩
  · intro hzod
    rw [hzod, if_neg Bool.false_ne_true] at himports
    refine ⟨himports, fun type htype => ?_⟩
    rw [htypes, hzod] at htype
    obtain ⟨r, -, rfl⟩ := List.mem_map.mp htype
    rfl

/-- Two variants of one operation, one of them twice, and an emitter next to the schemas. -/
theorem schemas_fileOf_repeated :
    let site : Site := ⟨⟨.single, ["work"]⟩, ⟨.none, ["out"]⟩⟩
    let options := { Options.default with withZod := true, emitterPath := "schemas.ts" }
    let operations : List ResolvedOperation := [⟨.findFirstOrThrow, .null⟩,
      ⟨.createOne, .str "addUser"⟩, ⟨.findFirst, .null⟩, ⟨.createOne, .str ""⟩]
    ∃ f, fileOf site (.str "User") operations ["create"] options = .ok ("User", f) ∧
      (∀ s, configuredSpecifier site Naming.routersDir options.emitterPath = .ok s →
        ¬("../schemas/" : Text) <+: s) ∧
      f.inputTypes = ["UserFindFirstSchema", "UserCreateOneSchema", "UserFindFirstSchema",
        "UserCreateOneSchema"] ∧
      f.schemas = ["UserFindFirstSchema", "UserCreateOneSchema"] := by
  intro site options operations
  have hrun : (fileOf site (.str "User") operations ["create"] options).map
      (fun r => (r.1, r.2.inputTypes)) = .ok ("User", ["UserFindFirstSchema", "UserCreateOneSchema",
        "UserFindFirstSchema", "UserCreateOneSchema"]) := by decide +kernel
  obtain ⟨⟨model, f⟩, hf, heq⟩ := map_eq_ok.mp hrun
  obtain ⟨rfl, htypes⟩ := Prod.mk.inj heq
  have hemitter : ∀ s, configuredSpecifier site Naming.routersDir options.emitterPath = .ok s →
      ¬("../schemas/" : Text) <+: s := by
    intro s hs
    have hspecifier : configuredSpecifier site Naming.routersDir options.emitterPath =
        .ok "../schemas" := by decide +kernel
    cases hspecifier.symm.trans hs
    decide
  obtain ⟨-, hschemas, -⟩ := (schemas_fileOf hf hemitter).1 rfl
  refine ⟨f, hf, hemitter, htypes, ?_⟩
  rw [hschemas, show f.inputTypes = _ from htypes]
  decide

end Router

end RouterLayer
