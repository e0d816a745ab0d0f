import RouterLayer.Naming
import RouterLayer.Policy
import RouterLayer.Proofs.Path.Text
import RouterLayer.Proofs.Router.Files
import RouterLayer.SourceFile.Render

set_option autoImplicit false

namespace RouterLayer

namespace Import

def bound (i : Import) : List Text := i.whole.toList ++ i.default.toList ++ i.named

def isRelative (i : Import) : Bool := i.module.head? = some (CodePoint.char '.')

@[simp] theorem bound_names (module : Text) (named : List Text) :
    (names module named).bound = named := rfl

@[simp] theorem bound_types (module : Text) (named : List Text) :
    (types module named).bound = named := rfl

@[simp] theorem bound_everything (module name : Text) : (everything module name).bound = [name] :=
  rfl

@[simp] theorem bound_mainExport (module name : Text) : (mainExport module name).bound = [name] :=
  rfl

end Import

def Endpoint.uses : Endpoint → List Text
  | .procedure p =>
    p.baseProcedure :: ((if p.takesInput then [p.inputType] else []) ++
      (if (filled p.eventChannel).isSome then [("ee" : Text)] else []))
  | .subscription s => [s.baseProcedure, "observable", s.payloadType, "ee"]

namespace Statement

def declared : Statement → Option Text
  | .start .. => some "t"
  | .middleware name _ => some name
  | .baseProcedure name _ => some name
  | .router symbol _ _ => some symbol
  | .policy symbol _ _ => some symbol
  | .blank _ => none

/-- The names from outside that stand in the text of a statement. -/
def uses : Statement → List Text
  | .start contextType options => "trpc" :: contextType :: options.toList
  | .middleware _ handler => "t" :: handler.toList
  | .baseProcedure _ middlewares => "t" :: middlewares
  | .router _ endpoints entries =>
    "t" :: (endpoints.flatMap (·.uses) ++ entries.map (·.router))
  | .policy _ contextType _ => ["shield", contextType, Policy.allow]
  | .blank _ => []

end Statement

def ClosedFrom (known : List Text) : List Statement → Prop
  | [] => True
  | s :: rest => (∀ name ∈ s.uses, name ∈ known) ∧ ClosedFrom (known ++ s.declared.toList) rest

theorem Naming.ofText_routerPath {model : Text} (hmodel : CodePoint.char '/' ∉ model) :
    Path.ofText (routerPath model) = ⟨.none, [routersDir, model ++ ".router.ts"]⟩ := by
  have hclean : (Path.mk .none [routersDir, model ++ ".router.ts"]).Clean :=
    (Path.clean_ofText routersDir).join (Path.clean_ending hmodel (by decide) (by decide))
  have htext : (Path.mk .none [routersDir, model ++ ".router.ts"]).text = routerPath model := by
    rw [routerPath, List.append_assoc, List.append_assoc]
    rfl
  rw [← htext, Path.ofText_text hclean]

namespace SourceFile

def imported (f : SourceFile) : List Text := f.imports.flatMap (·.bound)

def declared (f : SourceFile) : List Text := f.statements.filterMap (·.declared)

def Closed (f : SourceFile) : Prop := ClosedFrom f.imported f.statements

def directory (f : SourceFile) : Path := (Path.ofText f.path).enclosing

def locate (f : SourceFile) (specifier : Text) : Text :=
  (f.directory.join (Path.ofText specifier)).normal.text ++ ".ts"

theorem mem_imports_addImport {f : SourceFile} {i j : Import} :
    j ∈ (f.addImport i).imports ↔ j ∈ f.imports ∨ j = i := by
  unfold addImport
  split
  · next h =>
    rw [List.contains_iff_mem] at h
    exact ⟨.inl, fun hj => hj.elim id fun e => e ▸ h⟩
  · simp

theorem mem_imports_ofParts {path : Text} {imports : List Import} {statements : List Statement}
    {j : Import} : j ∈ (ofParts path imports statements).imports ↔ j ∈ imports := by
  have hfold (f : SourceFile) :
      j ∈ (imports.foldl addImport f).imports ↔ j ∈ f.imports ∨ j ∈ imports := by
    induction imports generalizing f with
    | nil => simp
    | cons i imports ih =>
      rw [List.foldl_cons, ih, mem_imports_addImport, List.mem_cons, or_assoc]
  exact (hfold _).trans ⟨fun h => h.elim (fun h => nomatch h) id, .inr⟩

theorem mem_imported_ofParts {path : Text} {imports : List Import} {statements : List Statement}
    {name : Text} :
    name ∈ (ofParts path imports statements).imported ↔ name ∈ imports.flatMap (·.bound) := by
  unfold imported
  simp only [List.mem_flatMap, mem_imports_ofParts]

theorem closedFrom_mono {known known' : List Text} {statements : List Statement}
    (hsub : known ⊆ known') (h : ClosedFrom known statements) : ClosedFrom known' statements := by
  induction statements generalizing known known' with
  | nil => trivial
  | cons s rest ih =>
    refine ⟨fun name hname => hsub (h.1 name hname), ih ?_ h.2⟩
    exact List.append_subset.mpr ⟨List.subset_append_of_subset_left _ hsub,
      List.subset_append_right _ _⟩

theorem closed_ofParts {path : Text} {imports : List Import} {statements : List Statement}
    (h : ClosedFrom (imports.flatMap (·.bound)) statements) :
    (ofParts path imports statements).Closed :=
  closedFrom_mono (fun _ hname => mem_imported_ofParts.mpr hname) h

theorem directory_router {f : SourceFile} {model : Text} (hmodel : CodePoint.char '/' ∉ model)
    (hpath : f.path = Naming.routerPath model) : f.directory = ⟨.none, [Naming.routersDir]⟩ := by
  rw [directory, hpath, Naming.ofText_routerPath hmodel]
  rfl

end SourceFile

end RouterLayer
