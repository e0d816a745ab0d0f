import RouterLayer.Proofs.Router.Imports
import RouterLayer.Proofs.Run.Stages

set_option autoImplicit false

namespace RouterLayer

def Failure.refuses : Failure → Bool
  | .options _ | .noClient _ | .wrongKind => true
  | _ => false

def Failure.interrupts : Failure → Bool
  | .delegateRaised _ | .collision .. | .noTarget | .wrongKind | .notText => true
  | _ => false

def FailsOnly {α : Type} (cause : Failure → Bool) (x : Except Failure α) : Prop :=
  ∀ e, x = .error e → cause e = true

namespace FailsOnly

variable {α β : Type} {cause : Failure → Bool}

theorem ok (a : α) : FailsOnly cause (.ok a) := fun _ h => nomatch h

theorem error {e : Failure} (h : cause e = true) :
    FailsOnly cause (.error e : Except Failure α) := by
  rintro _ ⟨⟩
  exact h

theorem of_isOk {x : Except Failure α} (h : x.isOk = true) : FailsOnly cause x := by
  obtain ⟨a, rfl⟩ := exists_ok h
  exact ok a

theorem bind {x : Except Failure α} {f : α → Except Failure β} (hx : FailsOnly cause x)
    (hf : ∀ a, FailsOnly cause (f a)) : FailsOnly cause (x >>= f) := by
  cases x with
  | error e => exact error (hx e rfl)
  | ok a => exact hf a

theorem map {x : Except Failure α} (f : α → β) (hx : FailsOnly cause x) :
    FailsOnly cause (x.map f) := by
  cases x with
  | error e => exact error (hx e rfl)
  | ok a => exact ok (f a)

theorem mapM {f : α → Except Failure β} (hf : ∀ a, FailsOnly cause (f a)) (xs : List α) :
    FailsOnly cause (xs.mapM f) := by
  induction xs with
  | nil => exact ok []
  | cons x xs ih =>
    rw [List.mapM_cons]
    exact bind (hf x) fun _ => bind ih fun _ => ok _

end FailsOnly

theorem Options.refuses_of_parse (raw : OrderedMap Json) :
    FailsOnly Failure.refuses (Options.parse raw) := by
  unfold Options.parse
  dsimp only
  split
  · exact .ok _
  · exact .error rfl

theorem Document.refuses_of_clientGenerator (d : Document) :
    FailsOnly Failure.refuses d.clientGenerator := by
  unfold clientGenerator
  split
  · exact .ok _
  · split <;> exact .error rfl

theorem Model.interrupts_of_isHidden (m : Model) :
    FailsOnly Failure.interrupts m.isHidden := by
  refine .map _ ?_
  unfold attributes
  split
  · exact .ok _
  · split
    · exact .ok _
    · exact .error rfl

namespace Router

variable (site : Site) (options : Options)

section Builders

variable {cause : Failure → Bool} (hpath : cause .noTarget = true)
include hpath

theorem failsOnly_specifier (source target : Path) :
    FailsOnly cause (specifier site source target) := by
  unfold specifier
  split
  · exact .ok _
  · exact .error hpath

theorem failsOnly_optionalImport (name : Text) (path? : Option Text) :
    FailsOnly cause (optionalImport site name path?) := by
  cases path? with
  | none => exact .ok _
  | some path => exact .bind (failsOnly_specifier site hpath _ _) fun _ => .ok _

theorem failsOnly_bootstrapFile : FailsOnly cause (bootstrapFile site options) := by
  refine .bind ?_ fun _ => .ok _
  rw [bootstrapImports_eq]
  exact .bind (failsOnly_specifier site hpath _ _) fun _ =>
    .bind (failsOnly_optionalImport site hpath _ _) fun _ =>
    .bind (failsOnly_optionalImport site hpath _ _) fun _ => .ok _

theorem failsOnly_policyFile (m : PermissionMatrix) :
    FailsOnly cause (Policy.policyFile site m options) :=
  .bind (.bind (failsOnly_specifier site hpath _ _) fun _ => .ok _) fun _ => .ok _

end Builders

theorem interrupts_of_procedure (model : Text) (r : ResolvedOperation) :
    FailsOnly Failure.interrupts (procedure model options r) := by
  refine .map _ ?_
  unfold procedureKey
  split
  · exact .ok _
  · split
    · exact .ok _
    · exact .error rfl

theorem interrupts_of_fileOf (name : Json) (operations : List ResolvedOperation)
    (notifications : List Text) :
    FailsOnly Failure.interrupts (fileOf site name operations notifications options) := by
  unfold fileOf
  split
  · refine .bind (.bind (failsOnly_specifier site rfl _ _) fun _ => .bind ?_ fun _ => .ok _)
      fun _ => .ok _
    exact .bind (.mapM (interrupts_of_procedure options _) _) fun _ => .ok _
  · refine .bind (failsOnly_specifier site rfl _ _) fun _ => .error ?_
    unfold unnamedFailure
    repeat' split
    all_goals rfl

theorem failsOnly_appFile {cause : Failure → Bool}
    (hcollision : ∀ key first second, cause (.collision key first second) = true)
    (routers : List ModelRouter) : FailsOnly cause (appFile routers) := by
  have hcheck (c : Taken) (models : List Text) : FailsOnly cause (checkAll c models) := by
    induction models generalizing c with
    | nil => exact .ok _
    | cons model rest ih =>
      refine .bind ?_ fun _ => ih _
      unfold Taken.check
      split
      · exact .error (hcollision _ _ _)
      · split
        · exact .error (hcollision _ _ _)
        · exact .ok _
  exact .bind (hcheck _ _) fun _ => .ok _

end Router

namespace Run

theorem refuses_of_vet (source : OptionSource) (d : Document) :
    FailsOnly Failure.refuses (vet source d) := by
  refine .bind ?_ fun _ => .bind d.refuses_of_clientGenerator fun _ => .ok _
  cases source with
  | checked options => exact .ok _
  | given raw => exact Options.refuses_of_parse raw
  | ofDocument => exact Options.refuses_of_parse _

theorem interrupts_of_build (site : Router.Site) (d : Document) (options : Options) :
    FailsOnly Failure.interrupts (build site d options).outcome := by
  rw [outcome_build]
  refine .bind (.mapM Model.interrupts_of_isHidden _) fun _ =>
    .bind (Router.failsOnly_bootstrapFile site options rfl) fun _ =>
    .bind (.mapM (fun name => .map _ (Router.interrupts_of_fileOf site options name _ _)) _)
    fun _ => .bind ?_ fun _ =>
    .bind (Router.failsOnly_appFile (fun _ _ _ => rfl) _) fun _ => .ok _
  rw [outcome_buildPolicy]
  split
  · exact .map _ (Router.failsOnly_policyFile site options rfl _)
  · exact .ok _

theorem interrupts_of_callDelegate {σ : Type} (role : Delegate.Role) (delegate : Option Delegate)
    (announcement warning : Text) (context : RunContext) (s : σ) :
    FailsOnly Failure.interrupts
      (callDelegate role delegate announcement warning context s).outcome := by
  cases delegate with
  | none => exact .ok _
  | some delegate =>
    unfold callDelegate
    dsimp only
    cases delegate.run context with
    | error message => exact .error rfl
    | ok _ => exact .ok _

theorem interrupts_of_callDelegates {σ : Type} (site : Router.Site) (delegates : Delegates)
    (context : RunContext) (s : σ) :
    FailsOnly Failure.interrupts (callDelegates site delegates context s).outcome := by
  have hvalidation : FailsOnly Failure.interrupts
      (callValidation delegates context s).outcome := by
    unfold callValidation
    split
    · exact interrupts_of_callDelegate _ _ _ _ _ _
    · exact .ok _
  have hpolicy : FailsOnly Failure.interrupts
      (callPolicyStarter site delegates context s).outcome := by
    unfold callPolicyStarter
    split
    · exact interrupts_of_callDelegate _ _ _ _ _ _
    · exact .ok _
  unfold callDelegates
  dsimp only
  split
  · next e he => exact .error (hvalidation e he)
  · exact hpolicy

end Run

end RouterLayer
