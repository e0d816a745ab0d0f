import RouterLayer.Run

set_option autoImplicit false

namespace RouterLayer

def Call.Tells {σ : Type} (c : Call σ) (site : Router.Site) (context : RunContext) (s : σ) : Prop :=
  c.sink = s ∧ c.context = match c.role with
    | .validation => context
    | .policy => Run.forPolicyStarter site context

namespace Run

variable {σ : Type} (site : Router.Site) (delegates : Delegates) (context : RunContext) (s : σ)

def due (wanted : Bool) (role : Delegate.Role) (delegate : Option Delegate) (context : RunContext) :
    List (Call σ) :=
  if wanted then delegate.toList.map fun given => ⟨role, given, context, s⟩ else []

theorem of_mem_due {wanted : Bool} {role : Delegate.Role} {delegate : Option Delegate}
    {context : RunContext} {s : σ} {c : Call σ} (h : c ∈ due s wanted role delegate context) :
    c.role = role ∧ c.context = context ∧ c.sink = s := by
  unfold due at h
  split at h
  · obtain ⟨given, -, rfl⟩ := List.mem_map.mp h
    exact ⟨rfl, rfl, rfl⟩
  · cases h

theorem due_callDelegate (role : Delegate.Role) (delegate : Option Delegate)
    (announcement warning : Text) :
    (callDelegate role delegate announcement warning context s).calls =
      due s true role delegate context := by
  cases delegate <;> rfl

theorem due_callValidation : (callValidation delegates context s).calls =
    due s context.options.withZod .validation delegates.validation context := by
  unfold callValidation
  split
  · next h => rw [h]; exact due_callDelegate ..
  · next h => rw [due, if_neg h]

theorem due_callPolicyStarter : (callPolicyStarter site delegates context s).calls =
    due s context.options.withShield .policy delegates.policy (forPolicyStarter site context) := by
  unfold callPolicyStarter
  split
  · next h => rw [h]; exact due_callDelegate ..
  · next h => rw [due, if_neg h]

theorem calls_callDelegates :
    ∀ c ∈ (callDelegates site delegates context s).calls, c.Tells site context s := by
  have hvalidation : ∀ c ∈ (callValidation delegates context s).calls,
      c.Tells site context s := by
    intro c h
    rw [due_callValidation] at h
    obtain ⟨hrole, hcontext, hsink⟩ := of_mem_due h
    exact ⟨hsink, by rw [hrole, hcontext]⟩
  have hpolicy : ∀ c ∈ (callPolicyStarter site delegates context s).calls,
      c.Tells site context s := by
    intro c h
    rw [due_callPolicyStarter] at h
    obtain ⟨hrole, hcontext, hsink⟩ := of_mem_due h
    exact ⟨hsink, by rw [hrole, hcontext]⟩
  intro c h
  unfold callDelegates at h
  dsimp only at h
  split at h
  · exact hvalidation c h
  · exact (List.mem_append.mp h).elim (hvalidation c) (hpolicy c)

theorem calls_perform (sink : Sink σ) (document : Document) (options : Options) :
    ∀ c ∈ (perform sink s site document options delegates).calls,
      c.Tells site ⟨document, options, site.output.text, none⟩ (sink.reset s).state := by
  have hcalls := calls_callDelegates site delegates ⟨document, options, site.output.text, none⟩
    (sink.reset s).state
  intro c h
  unfold perform at h
  dsimp only at h
  -- whatever stops the run later, the calls are those of the delegates
  split at h
  · cases h
  · split at h
    · exact hcalls c h
    · split at h
      · exact hcalls c h
      · split at h <;> exact hcalls c h

theorem calls_generate (sink : Sink σ) (cwd : Path) (document : Document) (outputDir : Text)
    (source : OptionSource) {options : Options} (ho : source.resolve document = .ok options) :
    ∀ c ∈ (generate sink s cwd document outputDir source delegates).calls,
      c.Tells ⟨cwd, Path.ofText outputDir⟩
        ⟨document, options, (Path.ofText outputDir).text, none⟩ (sink.reset s).state := by
  intro c h
  unfold generate at h
  rw [ho] at h
  dsimp only at h
  split at h
  · cases h
  · exact calls_perform _ _ _ _ _ _ c h

end Run

end RouterLayer
