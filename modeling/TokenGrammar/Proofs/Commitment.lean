import TokenGrammar.Outcome.Evaluate
import TokenGrammar.Proofs.Exhaustive
import TokenGrammar.Proofs.Soundness
import TokenGrammar.Proofs.Uncommitted

/-!
# Committing is sound

A committed choice looks at a later branch only where the earlier one fails, so a failure further in
may bring in candidates that were not there before; what a grammar reads does not grow with what its
parts read. It is nevertheless true that every candidate of a grammar is one of its uncommitted
version. The candidates are derivations of the uncommitted version, whatever was committed to on the
way, and that version is exhaustive, so its candidates are all of its derivations.

Grouping and recovery are left out. A group has as its value what was found, and with less
commitment more is found; a recovered part has a candidate because there was none.
-/

namespace TokenGrammar

/-- Whether an operator has candidates only where its part has some, with values that depend on one
of them each. -/
def UnaryOperator.isPlain : UnaryOperator → Bool
  | .grouped | .recovered _ _ => false
  | _ => true

theorem UnaryOperator.isExhaustive_uncommitted {operator : UnaryOperator} (h : operator.isPlain) :
    operator.uncommitted.isExhaustive := by
  cases operator with
  | grouped | recovered => cases h
  | _ => rfl

theorem BinaryOperator.isExhaustive_uncommitted (operator : BinaryOperator) :
    operator.uncommitted.isExhaustive := by
  cases operator <;> rfl

def Grammar.isPlain : Grammar → Bool
  | .unary operator _ => operator.isPlain
  | _ => true

theorem Grammar.hereditary_isPlain : Grammar.Hereditary isPlain := by
  refine ⟨⟨?_, ?_, ?_, ?_, ?_⟩, ?_, ?_, ?_, ?_⟩ <;> intros <;> rfl

/-! ### Operators -/

section Operators

variable {m : Type → Type} [Monad m] [LawfulMonad m] {observation : Observation m} {chain : Chain}
  {workspace : Workspace} {home? : Option Nat} {first second part : Grammar} {p q : Parser m Value}

theorem Parser.Within.of_imp {ι κ : Type} {readings : Readings ι Value} {target : Readings κ Value}
    (hp : p.Within observation chain readings)
    (himp : ∀ {start way value stop}, readings start way value stop →
      ∃ way', target start way' value stop) : p.Within observation chain target := by
  refine fun start => observation.weaken (hp start) fun _ outcome h candidate hmem => ?_
  obtain ⟨way, hstart, hread⟩ := h candidate hmem
  obtain ⟨way', hread'⟩ := himp hread
  exact ⟨way', hstart, hread'⟩

theorem within_unary {operator : UnaryOperator} (hplain : operator.isPlain)
    (hp : p.Within observation chain (workspace.Derives chain home? part)) :
    (operator.parser p).Within observation chain
      (workspace.Derives chain home? (.unary operator.uncommitted part)) := by
  cases operator with
  | mapped transform => exact (hp.map _).of_imp fun h => ⟨_, Workspace.derives_mapped_iff.2 h⟩
  | spanned view =>
      exact (hp.mapCandidate _).of_imp fun h => ⟨_, Workspace.derives_spanned_iff.2 h⟩
  | relabelled message => exact (hp.relabel message).of_imp fun h => ⟨_, .relabelled h⟩
  | optional =>
      exact (hp.optional.map _).of_imp fun h => ⟨_, Workspace.derives_optional_iff.2 ⟨_, h, rfl⟩⟩
  | optionalGreedy =>
      exact (hp.optionalGreedy.map _).of_imp
        fun h => ⟨_, Workspace.derives_optional_iff.2 ⟨_, h, rfl⟩⟩
  | manyShortestFirst =>
      exact (hp.manyShortestFirst.map _).of_imp
        fun h => ⟨_, (Workspace.derives_many_iff rfl).2 ⟨_, h, rfl⟩⟩
  | manyLongestFirst =>
      exact (hp.manyLongestFirst.map _).of_imp
        fun h => ⟨_, (Workspace.derives_many_iff rfl).2 ⟨_, h, rfl⟩⟩
  | manyGreedy =>
      exact (hp.manyGreedy.map _).of_imp
        fun h => ⟨_, (Workspace.derives_many_iff rfl).2 ⟨_, h, rfl⟩⟩
  | exactly count =>
      exact ((hp.exactly count).map _).of_imp
        fun h => ⟨_, Workspace.derives_exactly_iff.2 ⟨_, h, rfl⟩⟩
  | grouped | recovered => cases hplain

theorem Parser.Within.joined {operator : BinaryOperator} {f : Value × Value → Value}
    (hjoin : operator.join? = some f)
    (hp : p.Within observation chain (workspace.Derives chain home? first))
    (hq : q.Within observation chain (workspace.Derives chain home? second)) :
    ((p.seq q).map f).Within observation chain
      (workspace.Derives chain home? (.binary operator first second)) :=
  ((hp.seq hq).map f).of_imp fun h => ⟨_, (Workspace.derives_joined_iff hjoin).2 ⟨_, h, rfl⟩⟩

theorem Parser.Within.headed {operator : BinaryOperator} {rest : Grammar}
    {f : Value × List Value → Value} (hhead : operator.headed? first second = some (rest, f))
    {r : Parser m (List Value)} {readings : Readings (List Tree) (List Value)}
    (hp : p.Within observation chain (workspace.Derives chain home? first))
    (hr : r.Within observation chain readings)
    (hrest : ∀ {between trees value stop},
      workspace.Derives chain home? rest between trees value stop ↔
        ∃ ways, (readings.map Value.list) between ways value stop ∧ trees = .ofSteps ways) :
    ((p.seq r).map f).Within observation chain
      (workspace.Derives chain home? (.binary operator first second)) :=
  ((hp.seq hr).map f).of_imp fun h => ⟨_, (Workspace.derives_headed_iff hhead hrest).2 ⟨_, h, rfl⟩⟩

theorem within_separatedExactly (count : Nat)
    (hp : p.Within observation chain (workspace.Derives chain home? first))
    (hstep : (q.seqRight p).Within observation chain
      (workspace.Derives chain home? (.binary .seqRight second first))) :
    ((Parser.separatedExactly count p q).map Value.list).Within observation chain
      (workspace.Derives chain home? (.binary (.separatedExactly count) first second)) := by
  match count with
  | 0 =>
      have hnone : ((Parser.succeed [] : Parser m (List Value)).map Value.list).Within observation
          chain _ := (Parser.Within.succeed []).map _
      refine hnone.of_imp ?_
      rintro start way value stop ⟨values, ⟨rfl, rfl⟩, rfl⟩
      exact ⟨.leaf, .separatedNone⟩
  | 1 =>
      rw [Parser.separatedExactly, Parser.map_map]
      exact (hp.map _).of_imp fun h => ⟨_, Workspace.derives_separatedOne_iff.2 ⟨_, h, rfl⟩⟩
  | count + 2 =>
      rw [Parser.separatedExactly, Parser.map_map]
      exact hp.headed rfl (hstep.exactly (count + 1)) Workspace.derives_exactly_iff

theorem within_binary (operator : BinaryOperator)
    (hp : p.Within observation chain (workspace.Derives chain home? first))
    (hq : q.Within observation chain (workspace.Derives chain home? second)) :
    (operator.parser p q).Within observation chain
      (workspace.Derives chain home? (.binary operator.uncommitted first second)) := by
  have hstep : (q.seqRight p).Within observation chain
      (workspace.Derives chain home? (.binary .seqRight second first)) := hq.joined rfl hp
  cases operator with
  | seq | seqLeft | seqRight => exact hp.joined rfl hq
  | either =>
      exact (hp.either hq).of_imp fun h => ⟨_, Workspace.derives_either_iff.2 ⟨_, h, rfl⟩⟩
  | orElse =>
      exact (hp.orElse hq).of_imp fun h => ⟨_, Workspace.derives_either_iff.2 ⟨_, h, rfl⟩⟩
  | separated =>
      rw [BinaryOperator.parser, Parser.separated, Parser.map_map]
      exact hp.headed rfl hstep.manyLongestFirst (Workspace.derives_many_iff rfl)
  | separatedGreedy =>
      rw [BinaryOperator.parser, Parser.separatedGreedy, Parser.map_map]
      exact hp.headed rfl hstep.manyGreedy (Workspace.derives_many_iff rfl)
  | separatedExactly count => exact within_separatedExactly count hp hstep
  | folded fold => exact hp.headed rfl hq.manyLongestFirst (Workspace.derives_many_iff rfl)
  | foldedGreedy fold => exact hp.headed rfl hq.manyGreedy (Workspace.derives_many_iff rfl)

end Operators

/-! ### What an uncommitted grammar comprises -/

namespace Workspace

variable {workspace : Workspace} {root : Grammar} {home? : Option Nat}

theorem Comprises.of_uncommitted {image : Grammar}
    (h : workspace.uncommitted.Comprises root.uncommitted home? image) :
    ∃ grammar, image = grammar.uncommitted ∧ workspace.Comprises root home? grammar := by
  induction h with
  | root => exact ⟨root, rfl, .root⟩
  | part _ ih =>
      obtain ⟨grammar, heq, hcomprises⟩ := ih
      cases grammar <;> cases heq
      exact ⟨_, rfl, hcomprises.part⟩
  | first _ ih =>
      obtain ⟨grammar, heq, hcomprises⟩ := ih
      cases grammar <;> cases heq
      exact ⟨_, rfl, hcomprises.first⟩
  | second _ ih =>
      obtain ⟨grammar, heq, hcomprises⟩ := ih
      cases grammar <;> cases heq
      exact ⟨_, rfl, hcomprises.second⟩
  | selecting _ ih =>
      obtain ⟨grammar, heq, hcomprises⟩ := ih
      cases grammar <;> cases heq
      exact ⟨_, rfl, hcomprises.selecting⟩
  | selected value _ ih =>
      obtain ⟨grammar, heq, hcomprises⟩ := ih
      cases grammar <;> cases heq
      exact ⟨_, Selector.select_uncommitted value _, hcomprises.selected value⟩
  | unfolded _ hunfold ih =>
      obtain ⟨grammar, rfl, hcomprises⟩ := ih
      rw [meaning?_uncommitted] at hunfold
      obtain ⟨⟨_, grammar'⟩, hstands, heq⟩ := Option.map_eq_some_iff.1 hunfold
      cases heq
      exact ⟨grammar', rfl, hcomprises.unfolded hstands⟩

theorem exhaustive_uncommitted
    (hplain : ∀ {home? operator part}, workspace.Comprises root home? (.unary operator part) →
      operator.isPlain) : workspace.uncommitted.Exhaustive root.uncommitted where
  unary h := by
    obtain ⟨grammar, heq, hcomprises⟩ := h.of_uncommitted
    cases grammar <;> cases heq
    exact UnaryOperator.isExhaustive_uncommitted (hplain hcomprises)
  binary h := by
    obtain ⟨grammar, heq, hcomprises⟩ := h.of_uncommitted
    cases grammar <;> cases heq
    exact BinaryOperator.isExhaustive_uncommitted _

theorem Steady.uncommitted (h : workspace.Steady root) :
    workspace.uncommitted.Steady root.uncommitted where
  names hnamed hshared := by
    obtain ⟨grammar, heq, hcomprises⟩ := hnamed.of_uncommitted
    cases grammar <;> cases heq
    obtain ⟨grammar, heq, hcomprises'⟩ := hshared.of_uncommitted
    cases grammar <;> cases heq
    exact h.names hcomprises hcomprises'
  cells hlinked := by
    obtain ⟨grammar, heq, hcomprises⟩ := hlinked.of_uncommitted
    cases grammar <;> cases heq
    exact Array.size_map.symm ▸ h.cells hcomprises

end Workspace

/-! ### Parses -/

/-- The candidates of a grammar are derivations of its uncommitted version. -/
theorem Workspace.Steady.carried_uncommitted {workspace : Workspace} {root : Grammar}
    {chain : Chain} (hsteady : workspace.Steady root)
    (hplain : ∀ {home? operator part}, workspace.Comprises root home? (.unary operator part) →
      operator.isPlain) :
    Carried workspace root chain fun home? grammar start _ outcome =>
      ∀ candidate ∈ outcome.candidates, ∃ tree, (workspace.uncommitted.Derives chain home?
        grammar.uncommitted).Gives start tree candidate where
  leaf start _ := fun candidate hmem =>
    (Leaf.reads_outcome _ chain start).enumerates.exists_of_mem hmem
  unary _ _ _ _ _ hcomprises hp := within_unary (hplain hcomprises) hp
  binary _ _ operator _ _ _ _ _ hp hq := within_binary operator hp hq
  bind observation home? _ next _ q _ hp hq := by
    have hnext : ∀ value, (q value).Within observation chain
        (workspace.uncommitted.Derives chain home? (next.uncommitted.select value)) := by
      intro value
      rw [Selector.select_uncommitted]
      exact hq value
    exact (Parser.Within.bind hp hnext).of_imp
      fun h => ⟨_, Workspace.derives_bind_iff.2 ⟨_, h, rfl⟩⟩
  stands hcomprises hstands h := by
    intro candidate hmem
    obtain ⟨tree, hstart, hderives⟩ := h candidate hmem
    refine ⟨tree, hstart, .unfolded ?_ hderives⟩
    rw [Workspace.meaning?_uncommitted, hsteady.meaning?_eq hcomprises hstands]
    rfl

theorem Outcome.candidates_complete {α : Type} (chain : Chain) (outcome : Outcome α) :
    (outcome.complete chain).candidates
      = outcome.candidates.filter fun candidate => (candidate.stoppedEarly? chain).isNone := by
  cases outcome with
  | failure diagnostic => rfl
  | success candidates carried? => rw [Outcome.complete, candidates_settle, candidates_success]

/-- **Committing is sound.** Every candidate of a grammar is one of its uncommitted version, which
therefore succeeds if the grammar does, and has every complete reading that the grammar has. -/
theorem Grammar.candidates_uncommitted {root : Grammar} {depth depth' : Nat}
    {held held' : List Grammar} {chain : Chain} {start : Cursor}
    {workspace after after' : Workspace} {outcome outcome' : Outcome Value}
    (hplain : ∀ {home? operator part}, workspace.Comprises root home? (.unary operator part) →
      operator.isPlain) (hsteady : workspace.Steady root)
    (hrun : root.parseWithin depth held chain start workspace = .ok outcome after)
    (hrun' : root.uncommitted.parseWithin depth' held' chain start workspace.uncommitted
      = .ok outcome' after') :
    (∀ candidate ∈ outcome.candidates, candidate ∈ outcome'.candidates) ∧
      (outcome.isSuccess → outcome'.isSuccess) ∧
      ∀ candidate ∈ (outcome.complete chain).candidates,
        candidate ∈ (outcome'.complete chain).candidates := by
  obtain ⟨_, _, hwithin⟩ := (hsteady.carried_uncommitted hplain).of_parseWithin hrun
  have hexhaustive := Workspace.exhaustive_uncommitted hplain
  obtain ⟨_, _, henumerates⟩ := (hexhaustive.carried hsteady.uncommitted).of_parseWithin hrun'
  have hsubset : ∀ candidate ∈ outcome.candidates, candidate ∈ outcome'.candidates := by
    intro candidate hmem
    obtain ⟨tree, hgives⟩ := hwithin candidate hmem
    exact henumerates.mem_of_relation hgives
  refine ⟨hsubset, fun hsuccess => ?_, fun candidate hmem => ?_⟩
  · cases outcome' with
    | success => rfl
    | failure diagnostic =>
        have hempty : outcome.candidates = [] := List.subset_nil.1 hsubset
        obtain ⟨_, rfl⟩ := (Grammar.candidates_eq_nil_iff hrun).1 hempty
        cases hsuccess
  · rw [Outcome.candidates_complete] at hmem ⊢
    obtain ⟨hmem, hcomplete⟩ := List.mem_filter.1 hmem
    exact List.mem_filter.2 ⟨hsubset candidate hmem, hcomplete⟩

/-- Letters by a rule that refers to itself, as many as possible, and any number of them. -/
theorem Grammar.candidates_uncommitted_letters :
    ∃ (chain : Chain) (workspace after after' : Workspace) (letters : Grammar)
      (outcome outcome' : Outcome Value),
      letters.parseWithin 3 [] chain 0 workspace = .ok outcome after ∧
        letters.uncommitted.parseWithin 3 [] chain 0 workspace.uncommitted = .ok outcome' after' ∧
        outcome.candidates = [⟨0, 1, .unit⟩] ∧
        outcome'.candidates = [⟨0, 1, .unit⟩, ⟨0, 0, .unit⟩] ∧
        ∀ candidate ∈ outcome.candidates, candidate ∈ outcome'.candidates := by
  let token : Token := ⟨"letter", "a", ⟨0, 1, 1, 1, 2⟩⟩
  let chain : Chain := #[token]
  let pattern : Grammar := .binary .orElse
    (.binary .seqRight (.leaf (.literal "a")) (.linked (.rule 0))) (.leaf .nothing)
  let letters : Grammar := .linked (.rule 0)
  have hrun : letters.parseWithin 3 [] chain 0 { slots := #[some pattern] } =
      .ok (.success [⟨0, 1, .unit⟩] (some (.unconsumed chain 1)))
        { slots := #[some pattern], journal := { misses := [.unconsumed chain 1] } } := rfl
  have huncommitted : Workspace.uncommitted { slots := #[some pattern] }
      = { slots := #[some pattern.uncommitted] } := by
    simp [Workspace.uncommitted, Workspace.mapGrammars]
  have hrun' : letters.uncommitted.parseWithin 3 [] chain 0
      (Workspace.uncommitted { slots := #[some pattern] }) =
      .ok (.success [⟨0, 1, .unit⟩, ⟨0, 0, .unit⟩] (some (.unconsumed chain 1)))
        { slots := #[some pattern.uncommitted],
          journal := { misses := [.unconsumed chain 1] } } := by
    rw [huncommitted]
    rfl
  have hplain : ∀ {home? operator part}, Workspace.Comprises { slots := #[some pattern] } letters
      home? (.unary operator part) → operator.isPlain :=
    fun h => Grammar.of_all (h.all Grammar.hereditary_isPlain (Workspace.all_of_slot rfl) rfl)
  have hsteady : Workspace.Steady { slots := #[some pattern] } letters :=
    Workspace.steady_of_closed (Workspace.all_of_slot rfl) rfl (Workspace.all_of_slot rfl) rfl
  exact ⟨chain, _, _, _, letters, _, _, hrun, hrun', rfl, rfl,
    (Grammar.candidates_uncommitted hplain hsteady hrun hrun').1⟩

end TokenGrammar
