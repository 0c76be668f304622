import TokenGrammar.Proofs.Induction
import TokenGrammar.Proofs.Steps

/-!
# Faults of single steps

A run is made of steps that link, look up and keep. Each of them ends, and if it fails, then because
of something that is missing at one place: a name that is bound to nothing, a rule without a
pattern, or something that is not alive any more. Only the descent of a parse through a grammar, and
printing a grammar, may have no end.
-/

namespace TokenGrammar

/-- Whether a fault lies at one place of a grammar, and is not met because something never ends. -/
def Fault.isLocal : Fault → Bool
  | endless | unprintable => false
  | _ => true

namespace Run

variable {α β : Type}

def FailsLocally (run : Run α) : Prop :=
  ∀ before fault after, run before = .error fault after → fault.isLocal

theorem failsLocally_of_ok {run : Run α} (h : ∀ before, ∃ a after, run before = .ok a after) :
    run.FailsLocally := by
  intro before fault after hfault
  obtain ⟨a, after', hok⟩ := h before
  cases hok.symm.trans hfault

theorem failsLocally_pure (a : α) : FailsLocally (pure a) :=
  failsLocally_of_ok fun before => ⟨a, before, rfl⟩

theorem failsLocally_get : FailsLocally get :=
  failsLocally_of_ok fun before => ⟨before, before, rfl⟩

theorem failsLocally_modify (change : Workspace → Workspace) : FailsLocally (modify change) :=
  failsLocally_of_ok fun before => ⟨(), change before, rfl⟩

theorem failsLocally_throw {fault : Fault} (h : fault.isLocal) :
    FailsLocally (throw fault : Run α) := by
  rintro before fault after ⟨⟩
  exact h

theorem FailsLocally.bind {run : Run α} {next : α → Run β} (hrun : run.FailsLocally)
    (hnext : ∀ a, (next a).FailsLocally) : (run >>= next).FailsLocally := by
  intro before fault after hfault
  cases hresult : run before with
  | ok a between =>
      rw [bind_of_ok hresult] at hfault
      exact hnext a between fault after hfault
  | error fault' between =>
      rw [bind_of_error hresult] at hfault
      cases hfault
      exact hrun before _ _ hresult

theorem failsLocally_demand {fault : Fault} (h : fault.isLocal) (value? : Option α) :
    (demand fault value?).FailsLocally := by
  cases value? with
  | none => exact failsLocally_throw h
  | some value => exact failsLocally_pure value

theorem failsLocally_demandAlive (held : List Grammar) (keepable : Keepable) {fault : Fault}
    (h : fault.isLocal) : (demandAlive held keepable fault).FailsLocally := by
  refine failsLocally_get.bind fun now => ?_
  split
  · exact failsLocally_pure ()
  · exact failsLocally_throw h

end Run

theorem Name.resolve_failsLocally (home? : Option Nat) (name : Name) :
    (name.resolve home?).FailsLocally := by
  refine Run.failsLocally_get.bind fun now => ?_
  cases name with
  | parser label => exact Run.failsLocally_demand rfl _
  | rule label | handle label | sibling label =>
      exact (Run.failsLocally_demand rfl _).bind fun _ => Run.failsLocally_pure _
  | production owner label =>
      refine (Run.failsLocally_demand rfl _).bind fun place => ?_
      exact (Run.failsLocally_demand rfl _).bind fun index => Run.failsLocally_pure _

theorem Grammar.link_failsLocally (home? : Option Nat) :
    ∀ grammar : Grammar, (grammar.link home?).FailsLocally
  | .leaf _ | .linked _ => Run.failsLocally_pure _
  | .unary _ part | .traced _ part =>
      (part.link_failsLocally home?).bind fun _ => Run.failsLocally_pure _
  | .binary _ first second =>
      (first.link_failsLocally home?).bind fun _ =>
        (second.link_failsLocally home?).bind fun _ => Run.failsLocally_pure _
  | .bind part _ =>
      (part.link_failsLocally home?).bind fun _ =>
        Run.failsLocally_get.bind fun _ => Run.failsLocally_pure _
  | .deferred _ => Run.failsLocally_get.bind fun _ => Run.failsLocally_pure _
  | .deferredOnce _ =>
      Run.failsLocally_get.bind fun _ => Run.failsLocally_get.bind fun _ =>
        (Run.failsLocally_modify _).bind fun _ => Run.failsLocally_pure _
  | .named name => name.resolve_failsLocally home?
  | .siblingOr name otherwise => by
      refine Run.failsLocally_get.bind fun now => ?_
      cases now.siblingsAt home? name with
      | none => exact otherwise.link_failsLocally home?
      | some target => exact Run.failsLocally_pure _
  | .shared _ part =>
      (part.link_failsLocally home?).bind fun _ =>
        (Run.failsLocally_modify _).bind fun _ => Run.failsLocally_pure _

namespace Run

theorem build_failsLocally (site : Site) (home? : Option Nat) (part : Grammar) :
    (build site home? part).FailsLocally :=
  (failsLocally_modify _).bind fun _ => part.link_failsLocally home?

theorem partContent_failsLocally (part : Grammar) : (partContent part).FailsLocally :=
  (failsLocally_modify _).bind fun _ => build_failsLocally _ _ _

theorem cellContent_failsLocally (place : Nat) : (cellContent place).FailsLocally := by
  refine (failsLocally_modify _).bind fun _ => failsLocally_get.bind fun now => ?_
  refine (failsLocally_demand rfl _).bind fun cell => ?_
  cases cell.built? with
  | some built => exact failsLocally_pure built
  | none =>
      exact (build_failsLocally _ _ _).bind fun built =>
        (failsLocally_modify _).bind fun _ => failsLocally_pure built

theorem productionContent_failsLocally (place index : Nat) :
    (productionContent place index).FailsLocally := by
  refine (failsLocally_modify _).bind fun _ => failsLocally_get.bind fun now => ?_
  cases now.productionContent? place index with
  | some built => exact failsLocally_pure built
  | none =>
      refine failsLocally_get.bind fun now => (failsLocally_demand rfl _).bind fun definition => ?_
      exact (build_failsLocally _ _ _).bind fun built =>
        (failsLocally_modify _).bind fun _ => failsLocally_pure built

end Run

theorem Link.opened_failsLocally (held : List Grammar) (target : Link) :
    (target.opened held).FailsLocally := by
  cases target with
  | rule slot =>
      exact Run.failsLocally_get.bind fun _ =>
        (Run.failsLocally_demand rfl _).bind fun _ => Run.failsLocally_pure _
  | handle slot =>
      refine (Run.failsLocally_demandAlive _ _ rfl).bind fun _ => ?_
      exact Run.failsLocally_get.bind fun _ =>
        (Run.failsLocally_demand rfl _).bind fun _ => Run.failsLocally_pure _
  | cell place => exact (Run.cellContent_failsLocally place).bind fun _ => Run.failsLocally_pure _
  | production place index =>
      exact (Run.productionContent_failsLocally place index).bind fun _ => Run.failsLocally_pure _
  | reference place index =>
      refine (Run.failsLocally_demandAlive _ _ rfl).bind fun _ => ?_
      exact (Run.productionContent_failsLocally place index).bind fun _ => Run.failsLocally_pure _

end TokenGrammar
