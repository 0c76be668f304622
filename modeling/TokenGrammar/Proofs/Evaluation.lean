import TokenGrammar.Proofs.Commitment
import TokenGrammar.Proofs.Grouping
import TokenGrammar.Proofs.Repetition.Counting

/-!
# Evaluation

What is left of an outcome that has to be complete, and what single value it has. This is said of
every outcome, also of one that no parser yields, such as a success without candidates. There are
four cases. A failure stays as it is, and a success keeps the candidates that read the whole chain.
If there are none it becomes a failure, with the first of the furthest early stops or the diagnostic
it carried, whichever lies further, and with the end of the chain to blame if there is neither.
-/

namespace TokenGrammar

variable {α : Type}

/-! ### Complete candidates -/

namespace Outcome

/-- The candidates that end behind the last token. -/
def whole (chain : Chain) (candidates : List (Candidate α)) : List (Candidate α) :=
  candidates.filter fun candidate => decide (chain.size ≤ candidate.stop)

/-- The diagnostics of the candidates that end before a token, in order. -/
def earlyStops (chain : Chain) (candidates : List (Candidate α)) : List Diagnostic :=
  candidates.filterMap (Candidate.stoppedEarly? chain)

/-- That an outcome is what is left of another one that has to be complete. -/
inductive CompletedInto (chain : Chain) : Outcome α → Outcome α → Prop where
  | failure (diagnostic : Diagnostic) :
      CompletedInto chain (.failure diagnostic) (.failure diagnostic)
  /-- On a tie the early stop comes first. -/
  | whole {candidates : List (Candidate α)} {carried? stopped? : Option Diagnostic}
      (hstopped : Diagnostic.IsFirstFurthest (earlyStops chain candidates) stopped?)
      (hwhole : whole chain candidates ≠ []) :
      CompletedInto chain (.success candidates carried?)
        (.success (whole chain candidates) (Diagnostic.furthest stopped? carried?))
  | short {candidates : List (Candidate α)} {carried? stopped? : Option Diagnostic}
      {diagnostic : Diagnostic}
      (hstopped : Diagnostic.IsFirstFurthest (earlyStops chain candidates) stopped?)
      (hwhole : whole chain candidates = [])
      (hdiagnostic : Diagnostic.furthest stopped? carried? = some diagnostic) :
      CompletedInto chain (.success candidates carried?) (.failure diagnostic)
  | empty : CompletedInto chain (.success [] none) (.failure (.unconsumed chain chain.size))

variable {chain : Chain}

theorem isNone_stoppedEarly? (chain : Chain) (candidate : Candidate α) :
    (candidate.stoppedEarly? chain).isNone = decide (chain.size ≤ candidate.stop) := by
  rw [Bool.eq_iff_iff, Candidate.stoppedEarly?, Option.isNone_map, Option.isNone_iff_eq_none,
    Array.getElem?_eq_none_iff, decide_eq_true_iff]

theorem candidates_complete_eq_whole (chain : Chain) (outcome : Outcome α) :
    (outcome.complete chain).candidates = whole chain outcome.candidates := by
  rw [candidates_complete]
  exact List.filter_congr fun candidate _ => isNone_stoppedEarly? chain candidate

theorem eq_nil_of_whole_of_earlyStops {candidates : List (Candidate α)}
    (hwhole : whole chain candidates = []) (hearly : earlyStops chain candidates = []) :
    candidates = [] := by
  apply List.eq_nil_iff_forall_not_mem.2
  intro candidate hcandidate
  have hstopped := List.filterMap_eq_nil_iff.1 hearly candidate hcandidate
  apply List.filter_eq_nil_iff.1 hwhole candidate hcandidate
  rw [← isNone_stoppedEarly?, hstopped, Option.isNone_none]

theorem complete_eq_settle (chain : Chain) (candidates : List (Candidate α))
    (carried? : Option Diagnostic) :
    (success candidates carried?).complete chain
      = settle chain chain.size (whole chain candidates)
          (Diagnostic.furthest (Diagnostic.furthestOf (Candidate.stoppedEarly? chain) candidates)
            carried?) := by
  have hwhole := candidates_complete_eq_whole chain (success candidates carried?)
  rw [complete, candidates_settle] at hwhole
  rw [complete, hwhole]
  rfl

theorem completedInto_complete (chain : Chain) (outcome : Outcome α) :
    outcome.CompletedInto chain (outcome.complete chain) := by
  cases outcome with
  | failure diagnostic => exact .failure diagnostic
  | success candidates carried? =>
      have hstopped :=
        Diagnostic.isFirstFurthest_furthestOf (Candidate.stoppedEarly? chain) candidates
      rw [complete_eq_settle, settle]
      split
      · rename_i hempty
        have hwhole := List.isEmpty_iff.1 hempty
        cases hfurthest : Diagnostic.furthest
            (Diagnostic.furthestOf (Candidate.stoppedEarly? chain) candidates) carried? with
        | some diagnostic => exact .short hstopped hwhole hfurthest
        | none =>
            -- no candidate stopped early, and none is complete
            obtain ⟨hnone, rfl⟩ := Diagnostic.furthest_eq_none_iff.1 hfurthest
            rw [hnone] at hstopped
            obtain rfl := eq_nil_of_whole_of_earlyStops hwhole (hstopped.eq_none_iff.1 rfl)
            exact .empty
      · rename_i hsome
        exact .whole hstopped fun hwhole => hsome (List.isEmpty_iff.2 hwhole)

theorem whole_whole (chain : Chain) (candidates : List (Candidate α)) :
    whole chain (whole chain candidates) = whole chain candidates :=
  List.filter_eq_self.2 fun _ hcandidate => (List.mem_filter.1 hcandidate).2

theorem earlyStops_whole (chain : Chain) (candidates : List (Candidate α)) :
    earlyStops chain (whole chain candidates) = [] := by
  apply List.filterMap_eq_nil_iff.2
  intro candidate hcandidate
  rw [← Option.isNone_iff_eq_none, isNone_stoppedEarly?]
  exact (List.mem_filter.1 hcandidate).2

theorem complete_complete (chain : Chain) (outcome : Outcome α) :
    (outcome.complete chain).complete chain = outcome.complete chain := by
  have hcompleted := completedInto_complete chain outcome
  generalize outcome.complete chain = completed at hcompleted
  cases hcompleted with
  | failure | short | empty => rfl
  | @whole candidates _ _ _ hwhole =>
      have hstopped := Diagnostic.isFirstFurthest_furthestOf (Candidate.stoppedEarly? chain)
        (Outcome.whole chain candidates)
      have hnone := hstopped.eq_none_iff.2 (earlyStops_whole chain candidates)
      rw [complete_eq_settle, whole_whole, hnone, Diagnostic.furthest_none_left, settle,
        if_neg (by simpa using hwhole)]

/-! ### How far the diagnostic lies -/

/-- Whatever was found is reported, whether something is left or not. -/
theorem reach_le_reach_settle (chain : Chain) (start : Cursor) (candidates : List (Candidate α))
    (diagnostic? : Option Diagnostic) :
    Diagnostic.reach diagnostic?
      ≤ Diagnostic.reach (settle chain start candidates diagnostic?).diagnostic? := by
  rw [diagnostic?_settle]
  split
  · cases diagnostic? with
    | none => exact bot_le
    | some diagnostic => exact le_rfl
  · exact le_rfl

theorem reach_stoppedEarly?_le {outcome : Outcome α} {candidate : Candidate α}
    (hcandidate : candidate ∈ outcome.candidates) :
    Diagnostic.reach (candidate.stoppedEarly? chain)
      ≤ Diagnostic.reach (outcome.complete chain).diagnostic? := by
  cases outcome with
  | failure diagnostic => cases hcandidate
  | success candidates carried? =>
      rw [complete_eq_settle]
      apply le_trans _ (reach_le_reach_settle _ _ _ _)
      rw [Diagnostic.reach_furthest]
      exact le_max_of_le_left (Diagnostic.reach_le_reach_furthestOf _ hcandidate)

theorem reach_carried_le (chain : Chain) (outcome : Outcome α) :
    Diagnostic.reach outcome.diagnostic?
      ≤ Diagnostic.reach (outcome.complete chain).diagnostic? := by
  cases outcome with
  | failure diagnostic => exact le_rfl
  | success candidates carried? =>
      rw [complete_eq_settle]
      apply le_trans _ (reach_le_reach_settle _ _ _ _)
      rw [Diagnostic.reach_furthest]
      exact le_max_right _ _

/-! ### Single values -/

theorem single_eq_ok_iff {outcome : Outcome α} {value : α} :
    outcome.single = .ok value ↔
      ∃ candidate, outcome.candidates = [candidate] ∧ candidate.value = value := by
  match outcome with
  | .failure _ | .success [] _ | .success [_] _ | .success (_ :: _ :: _) _ => simp [single]

theorem single_eq_ambiguous_iff {outcome : Outcome α} {count : Nat} :
    outcome.single = .error (.ambiguous count) ↔
      2 ≤ count ∧ outcome.candidates.length = count := by
  match outcome with
  | .failure _ | .success [] _ | .success [_] _ =>
      simp only [single, candidates, List.length_nil, List.length_singleton]
      constructor
      · rintro ⟨⟩
      · omega
  | .success (_ :: _ :: _) _ =>
      simp only [single, candidates, List.length_cons]
      constructor
      · rintro ⟨⟩
        omega
      · rintro ⟨_, rfl⟩
        rfl

theorem single_eq_unparsed_iff {outcome : Outcome α} {diagnostic : Diagnostic} :
    outcome.single = .error (.unparsed diagnostic) ↔ outcome = .failure diagnostic := by
  match outcome with
  | .failure _ | .success [] _ | .success [_] _ | .success (_ :: _ :: _) _ => simp [single]

theorem single_eq_noResult_iff {outcome : Outcome α} :
    outcome.single = .error .noResult ↔ ∃ carried?, outcome = .success [] carried? := by
  match outcome with
  | .failure _ | .success [] _ | .success [_] _ | .success (_ :: _ :: _) _ => simp [single]

theorem complete_eq_failure_iff {outcome : Outcome α} {diagnostic : Diagnostic} :
    outcome.complete chain = .failure diagnostic ↔
      whole chain outcome.candidates = [] ∧
        (outcome.complete chain).diagnostic? = some diagnostic := by
  have hcompleted := completedInto_complete chain outcome
  generalize outcome.complete chain = completed at hcompleted
  cases hcompleted with
  | failure => simp [Outcome.whole]
  | whole _ hwhole => simp [hwhole]
  | short _ hwhole => simp [hwhole]
  | empty => simp [Outcome.whole]

theorem complete_ne_success_nil (chain : Chain) (outcome : Outcome α)
    (carried? : Option Diagnostic) : outcome.complete chain ≠ .success [] carried? := by
  have hcompleted := completedInto_complete chain outcome
  generalize outcome.complete chain = completed at hcompleted ⊢
  cases hcompleted with
  | failure | short | empty => exact nofun
  | whole _ hwhole => exact fun heq => hwhole (Outcome.success.inj heq).1

/-- What evaluating an outcome comes to. -/
structure Evaluates (chain : Chain) (outcome : Outcome α) : Prop where
  completed : outcome.CompletedInto chain (outcome.complete chain)
  idempotent : (outcome.complete chain).complete chain = outcome.complete chain
  /-- The diagnostic lies as far as every early stop. -/
  stopped_le : ∀ candidate ∈ outcome.candidates,
    Diagnostic.reach (candidate.stoppedEarly? chain)
      ≤ Diagnostic.reach (outcome.complete chain).diagnostic?
  carried_le : Diagnostic.reach outcome.diagnostic?
    ≤ Diagnostic.reach (outcome.complete chain).diagnostic?
  /-- There is a single value if one candidate is complete. -/
  ok_iff : ∀ value, (outcome.complete chain).single = .ok value ↔
    ∃ candidate, whole chain outcome.candidates = [candidate] ∧ candidate.value = value
  /-- There are too many values if several candidates are. -/
  ambiguous_iff : ∀ count, (outcome.complete chain).single = .error (.ambiguous count) ↔
    2 ≤ count ∧ (whole chain outcome.candidates).length = count
  /-- There is a diagnostic if none is. -/
  unparsed_iff : ∀ diagnostic, (outcome.complete chain).single = .error (.unparsed diagnostic) ↔
    whole chain outcome.candidates = [] ∧ (outcome.complete chain).diagnostic? = some diagnostic
  ne_noResult : (outcome.complete chain).single ≠ .error .noResult

/-- **Every outcome is evaluated by its complete candidates, and otherwise by what lies furthest.**
Nothing is asked of the outcome; it may have been put together by hand. -/
theorem complete_evaluates (chain : Chain) (outcome : Outcome α) : outcome.Evaluates chain where
  completed := completedInto_complete chain outcome
  idempotent := complete_complete chain outcome
  stopped_le _ hcandidate := reach_stoppedEarly?_le hcandidate
  carried_le := reach_carried_le chain outcome
  ok_iff value := by rw [single_eq_ok_iff, candidates_complete_eq_whole]
  ambiguous_iff count := by rw [single_eq_ambiguous_iff, candidates_complete_eq_whole]
  unparsed_iff diagnostic := by rw [single_eq_unparsed_iff, complete_eq_failure_iff]
  ne_noResult hnone := by
    obtain ⟨carried?, heq⟩ := single_eq_noResult_iff.1 hnone
    exact complete_ne_success_nil chain outcome carried? heq

/-- An early stop replaces a diagnostic that was carried from the same place. -/
example :
    let token : Token := ⟨"letter", "a", ⟨0, 1, 1, 1, 2⟩⟩
    (success [⟨0, 0, ()⟩] (some (.custom "other" #[token] 0))).complete #[token]
      = .failure (.notAtEnd token) := by decide

end Outcome

end TokenGrammar
