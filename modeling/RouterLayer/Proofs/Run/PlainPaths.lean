import RouterLayer.Proofs.Run.Paths
import RouterLayer.Proofs.Sink.Files
import RouterLayer.Proofs.SourceFile.Scope

/-!
Where the files of a run come to lie. The application router names every model that has a file, so
once its text has been encoded the names of the models can be encoded too. A path out of such names
is plain unless a name holds a slash (`isPlain_files`).
-/

set_option autoImplicit false

namespace RouterLayer

theorem FileTree.isProper_of_length {name : Segment} (hlength : 2 < name.length)
    (hslash : CodePoint.char '/' ∉ name) (hencodable : name.isEncodable = true) :
    isProper name = true := by
  have hne {other : Segment} (h : other.length ≤ 2) : name ≠ other := by
    rintro rfl
    omega
  exact isProper_iff.mpr ⟨hne (by decide), hne (by decide), hne (by decide), hslash,
    Text.canonical_of_isEncodable _ hencodable⟩

namespace Naming

theorem isPlain_routerPath {model : Text} (hslash : CodePoint.char '/' ∉ model)
    (hencodable : model.isEncodable = true) : FileTree.isPlain (routerPath model) = true := by
  have hending : CodePoint.char '/' ∉ model ++ routerEnding := by
    rw [List.mem_append, not_or]
    exact ⟨hslash, by decide⟩
  have hsplit : Text.splitAll '/' (routerPath model) = [routersDir, model ++ routerEnding] := by
    have hjoin : routerPath model = Text.joinWith '/' [routersDir, model ++ routerEnding] := by
      rw [routerPath, List.append_assoc, List.append_assoc]
      rfl
    rw [hjoin]
    refine Text.splitAll_joinWith (List.cons_ne_nil _ _) ?_
    exact List.forall_mem_cons.mpr ⟨by decide, List.forall_mem_singleton.mpr hending⟩
  have hfile : FileTree.isProper (model ++ routerEnding) = true := by
    refine FileTree.isProper_of_length ?_ hending ?_
    · rw [List.length_append, show routerEnding.length = 10 from rfl]
      omega
    · rw [Text.isEncodable, List.all_append]
      exact Bool.and_eq_true_iff.mpr ⟨hencodable, by decide⟩
  rw [FileTree.isPlain, hsplit]
  simp only [List.all_cons, List.all_nil, hfile, Bool.and_true]
  decide

end Naming

theorem SourceFile.module_subset_render {f : SourceFile} {i : Import} (hi : i ∈ f.imports) :
    i.module ⊆ f.render := by
  have hline : i.module ⊆ i.line := by
    unfold Import.line
    exact List.subset_append_of_subset_left _ (List.subset_append_right _ _)
  intro c hc
  exact List.mem_append_left _ (List.mem_flatMap.mpr ⟨i, hi, hline hc⟩)

namespace Run

variable {site : Router.Site} {d : Document} {options : Options}

theorem Parts.isEncodable_models {p : Parts} (h : p.Fit site d options)
    (happ : p.app.render.isEncodable = true) : ∀ model ∈ p.models, model.isEncodable = true := by
  intro model hmodel
  obtain ⟨-, hfile⟩ := Router.appFile_ok h.app
  rw [d.filter_routerOf] at hfile
  have himport : Router.appImport model ∈ p.app.imports := by
    rw [hfile, SourceFile.mem_imports_ofParts]
    exact List.mem_cons_of_mem _ (List.mem_map_of_mem hmodel)
  have hmodule : model ⊆ (Router.appImport model).module := fun c hc =>
    List.mem_append_left _ (List.mem_append_right _ hc)
  exact Text.isEncodable_of_subset
    (List.Subset.trans hmodule (SourceFile.module_subset_render himport)) happ

/-- The files of a run that have been encoded lie where their paths say, below one directory. -/
theorem isPlain_files {g : Generated} (h : (build site d options).outcome = .ok g)
    (hslash : ∀ m ∈ d.visible, ∀ model, m.name = .str model → CodePoint.char '/' ∉ model)
    (hencodable : ∀ f ∈ g.files, f.2.isEncodable = true) :
    ∀ f ∈ g.files, FileTree.isPlain f.1 = true := by
  obtain ⟨p, hfit, rfl⟩ := build_ok h
  have happ : p.app.render.isEncodable = true :=
    hencodable (p.app.path, p.app.render) (List.mem_map.mpr ⟨p.app, by simp [Parts.generated,
      Parts.sources], rfl⟩)
  have hmodels := Parts.isEncodable_models hfit happ
  have hpaths : ∀ path ∈ p.sources.map (·.path), FileTree.isPlain path = true := by
    refine Parts.forall_paths hfit (by decide +kernel) fun model hmodel => ?_
    obtain ⟨m, hm, hname⟩ := Parts.exists_visible hfit hmodel
    exact Naming.isPlain_routerPath (hslash m hm model hname) (hmodels model hmodel)
  intro f hf
  obtain ⟨source, hsource, rfl⟩ := List.mem_map.mp hf
  exact hpaths _ (List.mem_map_of_mem hsource)

end Run

end RouterLayer
