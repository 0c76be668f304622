import Mathlib.Order.Defs.Unbundled
import TokenGrammar.Proofs.Steps

/-!
# How runs end

A run ends with a value or with a fault, and something may be said of the state in either case
(`Lands`). Runs that follow each other land where the last one does.

A run respects an order on workspaces if the workspace after it is never smaller than the one before
it. Runs that follow each other do if each of them does, so it is enough to look at what changes the
workspace. Linking changes it in two ways: it opens cells and it stores parsers.
-/

namespace TokenGrammar

section Landing

variable {ε σ α β : Type}

/-- That a run from a state ends with a value and a state that are good, or with a fault and a state
that are admissible. -/
def Lands (run : EStateM ε σ α) (before : σ) (good : α → σ → Prop) (admissible : ε → σ → Prop) :
    Prop :=
  match run before with
  | .ok value after => good value after
  | .error fault after => admissible fault after

namespace Lands

variable {run : EStateM ε σ α} {before : σ} {good : α → σ → Prop} {admissible : ε → σ → Prop}

theorem of_results (hok : ∀ value after, run before = .ok value after → good value after)
    (herror : ∀ fault after, run before = .error fault after → admissible fault after) :
    Lands run before good admissible := by
  unfold Lands
  cases hrun : run before with
  | ok value after => exact hok value after hrun
  | error fault after => exact herror fault after hrun

theorem of_ok (h : Lands run before good admissible) {value : α} {after : σ}
    (hrun : run before = .ok value after) : good value after := by
  unfold Lands at h
  rw [hrun] at h
  exact h

theorem of_error (h : Lands run before good admissible) {fault : ε} {after : σ}
    (hrun : run before = .error fault after) : admissible fault after := by
  unfold Lands at h
  rw [hrun] at h
  exact h

theorem imp {good' : α → σ → Prop} {admissible' : ε → σ → Prop}
    (h : Lands run before good admissible)
    (hgood : ∀ value after, good value after → good' value after)
    (hadmissible : ∀ fault after, admissible fault after → admissible' fault after) :
    Lands run before good' admissible' :=
  .of_results (fun _ _ hrun => hgood _ _ (h.of_ok hrun))
    fun _ _ hrun => hadmissible _ _ (h.of_error hrun)

theorem bind {next : α → EStateM ε σ β} {good' : β → σ → Prop}
    (h : Lands run before good admissible)
    (hnext : ∀ value between, good value between → Lands (next value) between good' admissible) :
    Lands (run >>= next) before good' admissible := by
  unfold Lands
  simp only [Bind.bind, EStateM.bind]
  cases hrun : run before with
  | ok value between => exact hnext value between (h.of_ok hrun)
  | error fault after => exact h.of_error hrun

end Lands

end Landing

/-! ### Runs that respect an order -/

namespace Run

variable {α β : Type} {R : Workspace → Workspace → Prop}

def Respects (R : Workspace → Workspace → Prop) (run : Run α) : Prop :=
  ∀ before a after, run before = .ok a after → R before after

namespace Respects

theorem throw (fault : Fault) : Respects R (MonadExcept.throw fault : Run α) := by
  rintro before _ after hrun
  cases hrun

theorem changed {change : Workspace → Workspace} (h : ∀ before, R before (change before)) :
    Respects R (modify change : Run Unit) := by
  rintro before _ after hrun
  cases hrun
  exact h before

variable [IsPreorder Workspace R]

theorem pure (a : α) : Respects R (Pure.pure a : Run α) := by
  rintro before _ after hrun
  cases hrun
  exact refl_of R before

theorem get : Respects R (MonadState.get : Run Workspace) := by
  rintro before _ after hrun
  cases hrun
  exact refl_of R before

theorem bind {run : Run α} {next : α → Run β} (hrun : Respects R run)
    (hnext : ∀ a, Respects R (next a)) : Respects R (run >>= next) := by
  intro before b after hbind
  obtain ⟨a, between, hfirst, hsecond⟩ := bind_eq_ok_iff.1 hbind
  exact trans_of R (hrun before a between hfirst) (hnext a between b after hsecond)

theorem demand (fault : Fault) (value? : Option α) : Respects R (Run.demand fault value?) := by
  cases value? with
  | none => exact .throw fault
  | some value => exact .pure value

theorem demandAlive (held : List Grammar) (keepable : Keepable) (fault : Fault) :
    Respects R (Run.demandAlive held keepable fault) := by
  refine Respects.get.bind fun now => ?_
  split
  · exact .pure ()
  · exact .throw fault

end Respects

end Run

theorem Grammar.link_respects {R : Workspace → Workspace → Prop} [IsPreorder Workspace R]
    (hopens : ∀ (before : Workspace) body, R before (before.openCell body))
    (hstores : ∀ (before : Workspace) label grammar, R before (before.storeParser label grammar))
    (home? : Option Nat) : ∀ grammar : Grammar, (grammar.link home?).Respects R
  | .leaf _ | .linked _ => .pure _
  | .unary _ part | .traced _ part =>
      (part.link_respects hopens hstores home?).bind fun _ => .pure _
  | .binary _ first second =>
      (first.link_respects hopens hstores home?).bind fun _ =>
        (second.link_respects hopens hstores home?).bind fun _ => .pure _
  | .bind part _ =>
      (part.link_respects hopens hstores home?).bind fun _ =>
        Run.Respects.get.bind fun _ => .pure _
  | .deferred _ => Run.Respects.get.bind fun _ => .pure _
  | .deferredOnce _ =>
      Run.Respects.get.bind fun _ => Run.Respects.get.bind fun _ =>
        (Run.Respects.changed fun before => hopens before _).bind fun _ => .pure _
  | .named name => by
      intro before found after hrun
      rw [Grammar.link, name.resolve_eq] at hrun
      split at hrun
      · cases hrun
        exact refl_of R before
      · cases hrun
  | .siblingOr name otherwise => by
      refine Run.Respects.get.bind fun now => ?_
      cases now.siblingsAt home? name with
      | none => exact otherwise.link_respects hopens hstores home?
      | some target => exact .pure _
  | .shared name part =>
      (part.link_respects hopens hstores home?).bind fun _ =>
        (Run.Respects.changed fun before => hstores before name _).bind fun _ => .pure _

end TokenGrammar
