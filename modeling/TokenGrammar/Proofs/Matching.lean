import TokenGrammar.Proofs.Endings

/-!
# Computations that match

Two computations may go on side by side, each with a state of its own: they match if they end alike,
in states that match as those did in which they began. Computations that follow each other match if
each of them does, so it is enough to look at single steps.
-/

namespace TokenGrammar

/-- That two computations, begun in two states, yield values and leave states that match, or end in
the same error. The first one may also end in an error that is excused. -/
def InStepFrom {ε σ σ' α α' : Type} (states : σ → σ' → Prop) (excused : ε → Prop)
    (values : α → α' → Prop) (run : EStateM ε σ α) (run' : EStateM ε σ' α') (before : σ)
    (before' : σ') : Prop :=
  Lands run before
    (fun value after => ∃ value' after', run' before' = .ok value' after' ∧ values value value' ∧
      states after after')
    fun error after => excused error ∨ ∃ after', run' before' = .error error after' ∧
      states after after'

/-- That two computations match from all states that match. -/
def InStep {ε σ σ' α α' : Type} (states : σ → σ' → Prop) (excused : ε → Prop)
    (values : α → α' → Prop) (run : EStateM ε σ α) (run' : EStateM ε σ' α') : Prop :=
  ∀ before before', states before before' →
    InStepFrom states excused values run run' before before'

namespace InStepFrom

variable {ε σ σ' α α' β β' : Type} {states : σ → σ' → Prop} {excused : ε → Prop}
  {values : α → α' → Prop} {results : β → β' → Prop} {run : EStateM ε σ α}
  {run' : EStateM ε σ' α'} {before : σ} {before' : σ'}

theorem bind {next : α → EStateM ε σ β} {next' : α' → EStateM ε σ' β'}
    (h : InStepFrom states excused values run run' before before')
    (hnext : ∀ value value' between between', run before = .ok value between →
      values value value' → states between between' →
      InStepFrom states excused results (next value) (next' value') between between') :
    InStepFrom states excused results (run >>= next) (run' >>= next') before before' := by
  unfold InStepFrom Lands at h ⊢
  simp only [Bind.bind, EStateM.bind]
  cases hrun : run before with
  | ok value between =>
      rw [hrun] at h
      obtain ⟨value', between', hrun', hvalue, hbetween⟩ := h
      rw [hrun']
      exact hnext value value' between between' hrun hvalue hbetween
  | error error after =>
      rw [hrun] at h
      refine h.imp_right ?_
      rintro ⟨after', hrun', hafter⟩
      rw [hrun']
      exact ⟨after', rfl, hafter⟩

/-- Of the errors that are excused, only those need another excuse that are met. -/
theorem excuse {excused' : ε → Prop}
    (h : InStepFrom states excused values run run' before before')
    (hexcused : ∀ error after, run before = .error error after → excused error → excused' error) :
    InStepFrom states excused' values run run' before before' :=
  .of_results (fun _ _ hrun => h.of_ok hrun) fun _ _ hrun =>
    (h.of_error hrun).imp_left (hexcused _ _ hrun)

end InStepFrom

namespace InStep

variable {ε σ σ' α α' β β' : Type} {states : σ → σ' → Prop} {excused : ε → Prop}
  {values : α → α' → Prop} {results : β → β' → Prop}

theorem pure {value : α} {value' : α'} (h : values value value') :
    InStep states excused values (Pure.pure value : EStateM ε σ α)
      (Pure.pure value' : EStateM ε σ' α') :=
  fun _ before' hbefore => ⟨value', before', rfl, h, hbefore⟩

theorem throw (error : ε) : InStep states excused values
    (MonadExcept.throw error : EStateM ε σ α) (MonadExcept.throw error : EStateM ε σ' α') :=
  fun _ before' hbefore => .inr ⟨before', rfl, hbefore⟩

theorem bind {run : EStateM ε σ α} {run' : EStateM ε σ' α'} {next : α → EStateM ε σ β}
    {next' : α' → EStateM ε σ' β'} (h : InStep states excused values run run')
    (hnext : ∀ value value', values value value' →
      InStep states excused results (next value) (next' value')) :
    InStep states excused results (run >>= next) (run' >>= next') :=
  fun before before' hbefore => (h before before' hbefore).bind
    fun value value' between between' _ hvalue => hnext value value' hvalue between between'

theorem get {next : σ → EStateM ε σ β} {next' : σ' → EStateM ε σ' β'}
    (h : ∀ now now', states now now' → InStep states excused results (next now) (next' now')) :
    InStep states excused results (MonadState.get >>= next) (MonadState.get >>= next') :=
  fun before before' hbefore => h before before' hbefore before before' hbefore

theorem modify {change : σ → σ} {change' : σ' → σ'}
    (h : ∀ now now', states now now' → states (change now) (change' now')) :
    InStep states excused (fun _ _ => True) (modify change : EStateM ε σ Unit)
      (modify change' : EStateM ε σ' Unit) :=
  fun before before' hbefore => ⟨(), change' before', rfl, trivial, h before before' hbefore⟩

theorem imp {run : EStateM ε σ α} {run' : EStateM ε σ' α'} {values' : α → α' → Prop}
    (h : InStep states excused values run run')
    (himp : ∀ value value', values value value' → values' value value') :
    InStep states excused values' run run' := by
  refine fun before before' hbefore => (h before before' hbefore).imp ?_ fun _ _ herror => herror
  rintro value after ⟨value', after', hrun', hvalue, hafter⟩
  exact ⟨value', after', hrun', himp _ _ hvalue, hafter⟩

end InStep

end TokenGrammar
