import RouterLayer.Proofs.OrderedMap
import RouterLayer.Proofs.Outcome
import RouterLayer.Router.AppFile

set_option autoImplicit false

namespace RouterLayer.Router

theorem Taken.check_eq_ok {c : Taken} {model : Text} : c.check model = .ok () ↔
    c.keys.find? (Naming.routerKey model) = none ∧
      c.symbols.find? (Naming.routerSymbol model) = none := by
  unfold Taken.check
  split
  · next h => simp [h]
  · next hkey =>
    split
    · next h => simp [h]
    · next hsymbol => simp [hkey, hsymbol]

/-- The models pass if each finds its names free, and then no later model takes them again. -/
theorem checkAll_eq_ok {c : Taken} {models : List Text} : checkAll c models = .ok () ↔
    (models.map Naming.routerKey).Nodup ∧ (models.map Naming.routerSymbol).Nodup ∧
      ∀ m ∈ models, c.keys.find? (Naming.routerKey m) = none ∧
        c.symbols.find? (Naming.routerSymbol m) = none := by
  induction models generalizing c with
  | nil => simp [checkAll]
  | cons model rest ih =>
    rw [checkAll, bind_eq_ok]
    simp only [ih, Taken.add, OrderedMap.find?_put_eq_none, List.map_cons, List.nodup_cons,
      List.mem_map, List.forall_mem_cons, not_exists, not_and]
    constructor
    · rintro ⟨⟨⟩, hcheck, hkeys, hsymbols, hfree⟩
      refine ⟨⟨fun m hm => (hfree m hm).1.1, hkeys⟩, ⟨fun m hm => (hfree m hm).2.1, hsymbols⟩,
        Taken.check_eq_ok.mp hcheck, fun m hm => ?_⟩
      exact ⟨(hfree m hm).1.2, (hfree m hm).2.2⟩
    · rintro ⟨⟨hkey, hkeys⟩, ⟨hsymbol, hsymbols⟩, hcheck, hfree⟩
      refine ⟨(), Taken.check_eq_ok.mpr hcheck, hkeys, hsymbols, fun m hm => ?_⟩
      exact ⟨⟨hkey m hm, (hfree m hm).1⟩, hsymbol m hm, (hfree m hm).2⟩

end RouterLayer.Router
