import TokenGrammar.Proofs.Derivation
import TokenGrammar.Proofs.Enumeration
import TokenGrammar.Proofs.Ledger
import TokenGrammar.Proofs.Occurrences

/-!
# Exhaustive grammars

A grammar is exhaustive if no operator that it comprises commits to a branch, groups, or recovers.
The candidates of such a grammar are its derivations, each of them once, and it fails if and only if
there are none.

A grammar means one thing throughout a parse if it is steady. A part that is stored while the parse
goes on could be taken for what a name was bound to before, and a link to a cell that is not there
yet could come to lead to one that is opened later. Links of the second kind do not occur in the
workspaces of sessions (`Session.Reached.stands_of_link`, `WellLinked.hasTarget_of_comprises`).
-/

namespace TokenGrammar

/-- Whether an operator explores all that its part reads. -/
def UnaryOperator.isExhaustive : UnaryOperator → Bool
  | .optionalGreedy | .manyGreedy | .grouped | .recovered _ _ => false
  | _ => true

def BinaryOperator.isExhaustive : BinaryOperator → Bool
  | .orElse | .separatedGreedy | .foldedGreedy _ => false
  | _ => true

def Grammar.isExhaustive : Grammar → Bool
  | .unary operator _ => operator.isExhaustive
  | .binary operator _ _ => operator.isExhaustive
  | _ => true

def Grammar.storesNothing : Grammar → Bool
  | .shared _ _ => false
  | _ => true

/-- Whether a grammar is no link to a cell beyond a number of cells. -/
def Grammar.leadsWithin (cells : Nat) : Grammar → Bool
  | .linked (.cell place) => decide (place < cells)
  | _ => true

theorem Grammar.hereditary_isExhaustive : Grammar.Hereditary isExhaustive := by
  refine ⟨⟨?_, ?_, ?_, ?_, ?_⟩, ?_, ?_, ?_, ?_⟩ <;> intros <;> rfl

theorem Grammar.hereditary_storesNothing : Grammar.Hereditary storesNothing := by
  refine ⟨⟨?_, ?_, ?_, ?_, ?_⟩, ?_, ?_, ?_, ?_⟩ <;> intros <;> rfl

theorem Grammar.hereditary_leadsWithin (cells : Nat) : Grammar.Hereditary (leadsWithin cells) := by
  refine ⟨⟨?_, ?_, ?_, ?_, ?_⟩, ?_, ?_, ?_, ?_⟩ <;> intros <;> rfl

namespace Workspace

structure Exhaustive (workspace : Workspace) (root : Grammar) : Prop where
  unary : ∀ {home? operator part}, workspace.Comprises root home? (.unary operator part) →
    operator.isExhaustive
  binary : ∀ {home? operator first second},
    workspace.Comprises root home? (.binary operator first second) → operator.isExhaustive

structure Steady (workspace : Workspace) (root : Grammar) : Prop where
  /-- No part is stored under a name that is looked up. -/
  names : ∀ {home? home'? label part}, workspace.Comprises root home? (.named (.parser label)) →
    ¬ workspace.Comprises root home'? (.shared label part)
  /-- Every cell that a link leads to is there. -/
  cells : ∀ {home? place}, workspace.Comprises root home? (.linked (.cell place)) →
    place < workspace.cells.size

/-- A steady grammar stands for nothing but what it unfolds to. -/
theorem Steady.meaning?_eq {workspace : Workspace} {root : Grammar} (h : workspace.Steady root)
    {home? home'? : Option Nat} {grammar grammar' : Grammar}
    (hcomprises : workspace.Comprises root home? grammar)
    (hstands : workspace.StandsFor root home? grammar home'? grammar') :
    workspace.meaning? home? grammar = some (home'?, grammar') := by
  cases hstands with
  | unfolded hunfold => exact hunfold
  | stored hshared => exact absurd hshared (h.names hcomprises)
  | opened hplace => exact absurd (h.cells hcomprises) (Nat.not_lt.2 hplace)

theorem exhaustive_of_all {workspace : Workspace} {root : Grammar}
    (hworkspace : workspace.All Grammar.isExhaustive) (hroot : root.all Grammar.isExhaustive) :
    workspace.Exhaustive root where
  unary h := Grammar.of_all (h.all Grammar.hereditary_isExhaustive hworkspace hroot)
  binary h := Grammar.of_all (h.all Grammar.hereditary_isExhaustive hworkspace hroot)

theorem steady_of_closed {workspace : Workspace} {root : Grammar}
    (hcells : workspace.All (Grammar.leadsWithin workspace.cells.size))
    (hrootCells : root.all (Grammar.leadsWithin workspace.cells.size))
    (hworkspace : workspace.All Grammar.storesNothing) (hroot : root.all Grammar.storesNothing) :
    workspace.Steady root where
  names _ h := nomatch Grammar.of_all (h.all Grammar.hereditary_storesNothing hworkspace hroot)
  cells h := of_decide_eq_true
    (Grammar.of_all (h.all (Grammar.hereditary_leadsWithin _) hcells hrootCells))

end Workspace

/-! ### Trees of ways -/

namespace Tree

theorem both_injective : Function.Injective fun way : Tree × Tree => both way.1 way.2 := by
  rintro ⟨_, _⟩ ⟨_, _⟩ heq
  cases heq
  rfl

theorem elim_injective : Function.Injective fun way : Tree ⊕ Tree => way.elim left right := by
  rintro (_ | _) (_ | _) heq <;> cases heq <;> rfl

theorem ofOption_injective : Function.Injective ofOption := by
  rintro (_ | _) (_ | _) heq <;> cases heq <;> rfl

theorem ofSteps_injective : Function.Injective ofSteps := by
  intro trees
  induction trees with
  | nil => rintro (_ | ⟨_, _⟩) heq <;> cases heq; rfl
  | cons tree trees ih =>
      rintro (_ | ⟨tree', trees'⟩) heq
      · cases heq
      · obtain ⟨rfl, htrees⟩ := Tree.both.inj heq
        rw [ih htrees]

theorem headed_injective :
    Function.Injective fun way : Tree × List Tree => both way.1 (ofSteps way.2) := by
  intro way way' heq
  obtain ⟨htree, htrees⟩ := Tree.both.inj heq
  exact Prod.ext htree (ofSteps_injective htrees)

end Tree

/-! ### Operators -/

section Operators

variable {m : Type → Type} [Monad m] [LawfulMonad m] {observation : Observation m} {chain : Chain}
  {workspace : Workspace} {home? : Option Nat} {first second part : Grammar} {p q : Parser m Value}

theorem Parser.Lists.of_iff {ι κ : Type} {readings : Readings ι Value} {target : Readings κ Value}
    (hp : p.Lists observation chain readings) {f : ι → κ} (hf : Function.Injective f)
    (hiff : ∀ {start way' value stop}, target start way' value stop ↔
      ∃ way, readings start way value stop ∧ way' = f way) : p.Lists observation chain target := by
  refine fun start => observation.weaken (hp start) fun _ outcome h => ?_
  refine h.mapWays hf fun way' candidate => ?_
  constructor
  · rintro ⟨hstart, hread⟩
    obtain ⟨way, hread, heq⟩ := hiff.1 hread
    exact ⟨way, ⟨hstart, hread⟩, heq⟩
  · rintro ⟨way, ⟨hstart, hread⟩, heq⟩
    exact ⟨hstart, hiff.2 ⟨way, hread, heq⟩⟩

theorem Parser.Lists.congr {ι : Type} {readings target : Readings ι Value}
    (hp : p.Lists observation chain readings)
    (hiff : ∀ {start way value stop}, target start way value stop ↔ readings start way value stop) :
    p.Lists observation chain target :=
  hp.of_iff Function.injective_id (hiff.trans (by simp))

theorem Parser.map_map {α β γ : Type} (p : Parser m α) (f : α → β) (g : β → γ) :
    (p.map f).map g = p.map (g ∘ f) := by
  funext chain start
  simp only [Parser.map, bind_assoc, pure_bind]
  refine congrArg _ (funext fun outcome => ?_)
  cases outcome <;> simp [Outcome.map, Outcome.mapCandidates, Candidate.map, Function.comp_def]

theorem lists_joined {operator : BinaryOperator} {f : Value × Value → Value}
    (hjoin : operator.join? = some f)
    (hp : p.Lists observation chain (workspace.Derives chain home? first))
    (hq : q.Lists observation chain (workspace.Derives chain home? second)) :
    ((p.seq q).map f).Lists observation chain
      (workspace.Derives chain home? (.binary operator first second)) :=
  ((hp.seq hq).map f).of_iff Tree.both_injective (Workspace.derives_joined_iff hjoin)

theorem lists_unary {operator : UnaryOperator} (hexhaustive : operator.isExhaustive)
    (hp : p.Lists observation chain (workspace.Derives chain home? part)) :
    (operator.parser p).Lists observation chain
      (workspace.Derives chain home? (.unary operator part)) := by
  have hforward : (workspace.Derives chain home? part).Forward chain :=
    workspace.derives_forward home? part
  cases operator with
  | mapped transform => exact (hp.map _).congr Workspace.derives_mapped_iff
  | spanned view => exact (hp.mapCandidate _).congr Workspace.derives_spanned_iff
  | relabelled message => exact (hp.relabel message).congr Workspace.derives_relabelled_iff
  | optional =>
      exact (hp.optional.map _).of_iff Tree.ofOption_injective Workspace.derives_optional_iff
  | manyShortestFirst =>
      exact ((hp.manyShortestFirst hforward).map _).of_iff Tree.ofSteps_injective
        (Workspace.derives_many_iff rfl)
  | manyLongestFirst =>
      exact ((hp.manyLongestFirst hforward).map _).of_iff Tree.ofSteps_injective
        (Workspace.derives_many_iff rfl)
  | exactly count =>
      exact ((hp.exactly count).map _).of_iff Tree.ofSteps_injective Workspace.derives_exactly_iff
  | optionalGreedy | manyGreedy | grouped | recovered => cases hexhaustive

theorem Parser.Lists.headed {operator : BinaryOperator} {rest : Grammar}
    {f : Value × List Value → Value} (hhead : operator.headed? first second = some (rest, f))
    {r : Parser m (List Value)} {readings : Readings (List Tree) (List Value)}
    (hp : p.Lists observation chain (workspace.Derives chain home? first))
    (hr : r.Lists observation chain readings)
    (hrest : ∀ {between trees value stop},
      workspace.Derives chain home? rest between trees value stop ↔
        ∃ ways, (readings.map Value.list) between ways value stop ∧ trees = .ofSteps ways) :
    ((p.seq r).map f).Lists observation chain
      (workspace.Derives chain home? (.binary operator first second)) :=
  ((hp.seq hr).map f).of_iff Tree.headed_injective (Workspace.derives_headed_iff hhead hrest)

theorem lists_separatedExactly (count : Nat)
    (hp : p.Lists observation chain (workspace.Derives chain home? first))
    (hstep : (q.seqRight p).Lists observation chain
      (workspace.Derives chain home? (.binary .seqRight second first))) :
    ((Parser.separatedExactly count p q).map Value.list).Lists observation chain
      (workspace.Derives chain home? (.binary (.separatedExactly count) first second)) := by
  match count with
  | 0 =>
      have hnone : ((Parser.succeed [] : Parser m (List Value)).map Value.list).Lists observation
          chain _ := (Parser.Lists.succeed []).map _
      refine hnone.of_iff (f := fun _ => Tree.leaf) (fun _ _ _ => rfl) ?_
      intro start tree value stop
      rw [Workspace.derives_separatedNone_iff]
      constructor
      · rintro ⟨rfl, rfl, rfl⟩
        exact ⟨(), ⟨[], ⟨rfl, rfl⟩, rfl⟩, rfl⟩
      · rintro ⟨_, ⟨_, ⟨rfl, rfl⟩, rfl⟩, rfl⟩
        exact ⟨rfl, rfl, rfl⟩
  | 1 =>
      rw [Parser.separatedExactly, Parser.map_map]
      exact (hp.map _).of_iff (fun tree tree' heq => (Tree.both.inj heq).1)
        Workspace.derives_separatedOne_iff
  | count + 2 =>
      rw [Parser.separatedExactly, Parser.map_map]
      exact hp.headed rfl (hstep.exactly (count + 1)) Workspace.derives_exactly_iff

theorem lists_binary {operator : BinaryOperator} (hexhaustive : operator.isExhaustive)
    (hp : p.Lists observation chain (workspace.Derives chain home? first))
    (hq : q.Lists observation chain (workspace.Derives chain home? second)) :
    (operator.parser p q).Lists observation chain
      (workspace.Derives chain home? (.binary operator first second)) := by
  -- what follows the head of a list: a separator and another part
  have hstep : (q.seqRight p).Lists observation chain
      (workspace.Derives chain home? (.binary .seqRight second first)) :=
    lists_joined rfl hq hp
  cases operator with
  | seq | seqLeft | seqRight => exact lists_joined rfl hp hq
  | either =>
      exact (hp.either hq).of_iff Tree.elim_injective Workspace.derives_either_iff
  | separated =>
      have hrest := hstep.manyLongestFirst (Workspace.derives_forward home? _)
      rw [BinaryOperator.parser, Parser.separated, Parser.map_map]
      exact hp.headed rfl hrest (Workspace.derives_many_iff rfl)
  | separatedExactly count => exact lists_separatedExactly count hp hstep
  | folded fold =>
      exact hp.headed rfl (hq.manyLongestFirst (Workspace.derives_forward home? second))
        (Workspace.derives_many_iff rfl)
  | orElse | separatedGreedy | foldedGreedy => cases hexhaustive

end Operators

/-! ### Parses -/

theorem Leaf.Reads.enumerates {workspace : Workspace} {chain : Chain} {home? : Option Nat}
    {start : Cursor} {matcher : Leaf} {outcome : Outcome Value}
    (h : Leaf.Reads chain start matcher outcome) :
    Enumerates ((workspace.Derives chain home? (.leaf matcher)).Gives start)
      outcome.candidates := by
  cases h with
  | missed hnone =>
      refine .nil fun tree candidate hgives => ?_
      exact hnone _ _ (Workspace.derives_leaf_iff.1 hgives.2).2
  | @matched stop value hmatch =>
      refine .singleton .leaf _ fun tree candidate => ?_
      constructor
      · rintro ⟨hstart, hderives⟩
        obtain ⟨rfl, hmatch'⟩ := Workspace.derives_leaf_iff.1 hderives
        obtain ⟨hstop, hvalue⟩ := hmatch.unique hmatch'
        obtain ⟨_, _, _⟩ := candidate
        cases hstart
        cases hstop
        cases hvalue
        exact ⟨rfl, rfl⟩
      · rintro ⟨rfl, rfl⟩
        exact ⟨rfl, .leaf hmatch⟩

theorem Workspace.Exhaustive.carried {workspace : Workspace} {root : Grammar} {chain : Chain}
    (hexhaustive : workspace.Exhaustive root) (hsteady : workspace.Steady root) :
    Carried workspace root chain fun home? grammar start _ outcome =>
      Enumerates ((workspace.Derives chain home? grammar).Gives start) outcome.candidates where
  leaf start _ := (Leaf.reads_outcome _ chain start).enumerates
  unary _ _ _ _ _ hcomprises hp := lists_unary (hexhaustive.unary hcomprises) hp
  binary _ _ _ _ _ _ _ hcomprises hp hq := lists_binary (hexhaustive.binary hcomprises) hp hq
  bind _ _ _ _ _ _ _ hp hq :=
    (Parser.Lists.bind hp hq).of_iff Tree.both_injective Workspace.derives_bind_iff
  stands hcomprises hstands h := by
    refine h.congr fun tree candidate => and_congr_right' ?_
    exact Workspace.derives_iff_of_meaning? (hsteady.meaning?_eq hcomprises hstands)

/-- **The candidates of an exhaustive grammar are its derivations, each of them once**, and the
grammar fails if and only if it has none. -/
theorem Grammar.enumerates_of_parseWithin {root : Grammar} {depth : Nat} {held : List Grammar}
    {chain : Chain} {start : Cursor} {workspace after : Workspace} {outcome : Outcome Value}
    (hexhaustive : workspace.Exhaustive root) (hsteady : workspace.Steady root)
    (hrun : root.parseWithin depth held chain start workspace = .ok outcome after) :
    Enumerates ((workspace.Derives chain none root).Gives start) outcome.candidates ∧
      ((∃ diagnostic, outcome = .failure diagnostic) ↔
        ∀ tree value stop, ¬ workspace.Derives chain none root start tree value stop) := by
  obtain ⟨_, _, henumerates⟩ := (hexhaustive.carried hsteady).of_parseWithin hrun
  refine ⟨henumerates, ?_⟩
  rw [← Grammar.candidates_eq_nil_iff hrun, henumerates.eq_nil_iff]
  constructor
  · exact fun hnone tree value stop hderives => hnone tree ⟨start, stop, value⟩ ⟨rfl, hderives⟩
  · exact fun hnone tree candidate hgives => hnone tree _ _ hgives.2

/-- A rule that refers to itself reads any number of letters, and so it may read a chain of one
letter in two ways. -/
theorem Grammar.enumerates_letters :
    ∃ (chain : Chain) (workspace after : Workspace) (letters : Grammar) (outcome : Outcome Value),
      workspace.Exhaustive letters ∧ workspace.Steady letters ∧
        letters.parseWithin 3 [] chain 0 workspace = .ok outcome after ∧
        outcome.candidates = [⟨0, 1, .unit⟩, ⟨0, 0, .unit⟩] ∧
        Enumerates ((workspace.Derives chain none letters).Gives 0) outcome.candidates := by
  let token : Token := ⟨"letter", "a", ⟨0, 1, 1, 1, 2⟩⟩
  let chain : Chain := #[token]
  let pattern : Grammar := .binary .either
    (.binary .seqRight (.leaf (.literal "a")) (.linked (.rule 0))) (.leaf .nothing)
  let letters : Grammar := .linked (.rule 0)
  have hexhaustive : Workspace.Exhaustive { slots := #[some pattern] } letters :=
    Workspace.exhaustive_of_all (Workspace.all_of_slot rfl) rfl
  have hsteady : Workspace.Steady { slots := #[some pattern] } letters :=
    Workspace.steady_of_closed (Workspace.all_of_slot rfl) rfl (Workspace.all_of_slot rfl) rfl
  have hrun : letters.parseWithin 3 [] chain 0 { slots := #[some pattern] } =
      .ok (.success [⟨0, 1, .unit⟩, ⟨0, 0, .unit⟩] (some (.unconsumed chain 1)))
        { slots := #[some pattern], journal := { misses := [.unconsumed chain 1] } } := rfl
  exact ⟨chain, _, _, letters, _, hexhaustive, hsteady, hrun, rfl,
    (Grammar.enumerates_of_parseWithin hexhaustive hsteady hrun).1⟩

end TokenGrammar
