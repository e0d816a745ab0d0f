import Mathlib.Data.List.Nodup
import RouterLayer.Proofs.Router.Collision
import RouterLayer.Proofs.Run.Outline

set_option autoImplicit false

namespace RouterLayer

namespace Naming

def routerEnding : Text := ".router.ts"

theorem routerEnding_isSuffix (model : Text) : routerEnding <:+ routerPath model :=
  List.suffix_append ..

theorem routerPath_injective {a b : Text} (h : routerPath a = routerPath b) : a = b :=
  List.append_cancel_left (List.append_cancel_right h)

theorem routerPath_ne {path : Text} (h : routerEnding.isSuffixOf path = false) (model : Text) :
    routerPath model ≠ path := by
  rintro rfl
  rw [List.isSuffixOf_iff_suffix.mpr (routerEnding_isSuffix model)] at h
  cases h

theorem nodup_routerPaths {models : List Text} (hmodels : models.Nodup) {first shield app : Text}
    (hfixed : [first, shield, app].Nodup)
    (hending : ∀ path ∈ [first, shield, app], routerEnding.isSuffixOf path = false)
    (shielded : Bool) :
    (first :: models.map routerPath ++ (if shielded then [shield] else []) ++ [app]).Nodup := by
  have hrouters : (models.map routerPath).Nodup := hmodels.map fun _ _ => routerPath_injective
  have hclosing : ((if shielded then [shield] else []) ++ [app]).Sublist [shield, app] := by
    split <;> simp
  obtain ⟨hfirst, hrest⟩ := List.nodup_cons.mp hfixed
  rw [List.append_assoc]
  refine List.nodup_append.mpr
    ⟨List.nodup_cons.mpr ⟨?_, hrouters⟩, hclosing.nodup hrest, ?_⟩
  · rw [List.mem_map]
    rintro ⟨m, _, hm⟩
    exact routerPath_ne (hending first List.mem_cons_self) m hm
  · rintro a ha b hb rfl
    replace hb := hclosing.subset hb
    rcases List.mem_cons.mp ha with rfl | ha
    · exact hfirst hb
    · obtain ⟨m, _, rfl⟩ := List.mem_map.mp ha
      exact routerPath_ne (hending _ (List.mem_cons_of_mem _ hb)) m rfl

end Naming

namespace Generated

variable {g : Generated}

theorem keys_files (g : Generated) : OrderedMap.keys g.files = g.paths := List.map_map ..

theorem source?_eq_some (h : g.paths.Nodup) {path : Text} {f : SourceFile} :
    g.source? path = some f ↔ f ∈ g.sources ∧ f.path = path := by
  unfold source?
  constructor
  · intro hf
    exact ⟨List.mem_of_find?_eq_some hf, by simpa using List.find?_some hf⟩
  · rintro ⟨hf, rfl⟩
    cases hfind : g.sources.find? fun source => source.path = f.path with
    | none => exact absurd (decide_eq_true rfl) (List.find?_eq_none.mp hfind f hf)
    | some f' =>
      have hpath : f'.path = f.path := by simpa using List.find?_some hfind
      rw [List.inj_on_of_nodup_map h (List.mem_of_find?_eq_some hfind) hf hpath]

theorem find?_files (g : Generated) (path : Text) :
    OrderedMap.find? g.files path = (g.source? path).map SourceFile.render := by
  unfold files source?
  induction g.sources with
  | nil => rfl
  | cons f rest ih =>
    rw [List.map_cons, OrderedMap.find?, List.find?_cons, ih]
    by_cases hpath : f.path = path <;> simp [hpath]

end Generated

namespace Run.Parts

variable {site : Router.Site} {d : Document} {options : Options} {p : Parts}

theorem paths_sources (h : p.Fit site d options) : p.sources.map (·.path) =
    Router.bootstrapPath :: p.models.map Naming.routerPath ++
      (if options.withShield then [Router.shieldPath] else []) ++ [Router.appPath] := by
  have houtline : p.sources.map (·.path) = (p.sources.map (·.outline)).map (·.path) := by
    rw [List.map_map]; rfl
  rw [houtline, outline_sources h]
  cases options.withShield <;> simp

theorem exists_visible (h : p.Fit site d options) {model : Text} (hmodel : model ∈ p.models) :
    ∃ m ∈ d.visible, m.name = .str model := by
  have hname : Json.str model ∈ d.visible.map (·.name) := h.models ▸ List.mem_map_of_mem hmodel
  exact List.mem_map.mp hname

theorem forall_paths {good : Text → Prop} (h : p.Fit site d options)
    (hfixed : ∀ path ∈ [Router.bootstrapPath, Router.shieldPath, Router.appPath], good path)
    (hrouters : ∀ model ∈ p.models, good (Naming.routerPath model)) :
    ∀ path ∈ p.sources.map (·.path), good path := by
  simp only [List.forall_mem_cons] at hfixed
  obtain ⟨hbootstrap, hshield, happ, -⟩ := hfixed
  rw [paths_sources h]
  simp only [List.cons_append, List.forall_mem_cons, List.forall_mem_append, List.forall_mem_map]
  refine ⟨hbootstrap, ⟨hrouters, ?_⟩, happ, nofun⟩
  split
  · exact List.forall_mem_singleton.mpr hshield
  · exact List.forall_mem_nil _

theorem nodup_models (h : p.Fit site d options) :
    (p.models.map Naming.routerKey).Nodup ∧ (p.models.map Naming.routerSymbol).Nodup := by
  have hcheck := (Router.appFile_ok h.app).1
  rw [d.filter_routerOf] at hcheck
  obtain ⟨hkeys, hsymbols, _⟩ := Router.checkAll_eq_ok.mp hcheck
  exact ⟨hkeys, hsymbols⟩

theorem nodup_paths (h : p.Fit site d options) : (p.sources.map (·.path)).Nodup := by
  rw [paths_sources h]
  exact Naming.nodup_routerPaths (List.Nodup.of_map _ (nodup_models h).1) (by decide) (by decide) _

end Run.Parts

namespace Run

variable {site : Router.Site} {d : Document} {options : Options} {g : Generated}

theorem nodup_paths (h : (build site d options).outcome = .ok g) : g.paths.Nodup := by
  obtain ⟨p, hfit, rfl⟩ := build_ok h
  exact Parts.nodup_paths hfit

theorem nodup_files (h : (build site d options).outcome = .ok g) :
    (OrderedMap.keys g.files).Nodup := by
  rw [g.keys_files]
  exact nodup_paths h

end Run

end RouterLayer
