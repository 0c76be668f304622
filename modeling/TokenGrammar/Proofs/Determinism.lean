import TokenGrammar.Outcome.Evaluate
import TokenGrammar.Proofs.Ledger
import TokenGrammar.Proofs.Occurrences

/-!
# Deterministic grammars

Three kinds of operators bring about several candidates: those that explore all branches, those that
may leave a part out as well as read it, and those that list every number of steps. All others have
no more than one candidate if their parts have no more than one. So a parse with a grammar that
comprises none of the former fails or yields one candidate, and whoever asks for the value of the
one complete reading is never told that there are many.

A repetition keeps all runs of its last level and a sequence goes on from every candidate, so the
bound has to be carried through the levels; that a success is not empty is known of every grammar.
-/

namespace TokenGrammar

/-- Whether an operator has one candidate at most if its part has one at most. -/
def UnaryOperator.isDeterministic : UnaryOperator → Bool
  | .optional | .manyShortestFirst | .manyLongestFirst => false
  | _ => true

def BinaryOperator.isDeterministic : BinaryOperator → Bool
  | .either | .separated | .folded _ => false
  | _ => true

def Grammar.isDeterministic : Grammar → Bool
  | .unary operator _ => operator.isDeterministic
  | .binary operator _ _ => operator.isDeterministic
  | _ => true

theorem Grammar.hereditary_isDeterministic : Grammar.Hereditary isDeterministic := by
  refine ⟨⟨?_, ?_, ?_, ?_, ?_⟩, ?_, ?_, ?_, ?_⟩ <;> intros <;> rfl

namespace Workspace

structure Deterministic (workspace : Workspace) (root : Grammar) : Prop where
  unary : ∀ {home? operator part}, workspace.Comprises root home? (.unary operator part) →
    operator.isDeterministic
  binary : ∀ {home? operator first second},
    workspace.Comprises root home? (.binary operator first second) → operator.isDeterministic

theorem deterministic_of_all {workspace : Workspace} {root : Grammar}
    (hworkspace : workspace.All Grammar.isDeterministic)
    (hroot : root.all Grammar.isDeterministic) : workspace.Deterministic root where
  unary h := Grammar.of_all (h.all Grammar.hereditary_isDeterministic hworkspace hroot)
  binary h := Grammar.of_all (h.all Grammar.hereditary_isDeterministic hworkspace hroot)

end Workspace

variable {α β : Type}

def Outcome.IsSole (outcome : Outcome α) : Prop := outcome.candidates.length ≤ 1

/-! ### One element at most -/

theorem length_flatMap_le_one {as : List α} {f : α → List β} (has : as.length ≤ 1)
    (hf : ∀ a ∈ as, (f a).length ≤ 1) : (as.flatMap f).length ≤ 1 := by
  match as with
  | [] => exact Nat.zero_le 1
  | [a] => simpa using hf a List.mem_cons_self
  | _ :: _ :: _ => simp at has

theorem Collected.length_eq {post : α → List Diagnostic → β → Prop} {as : List α}
    {misses : List Diagnostic} {bs : List β} (h : Collected post as misses bs) :
    bs.length = as.length := by
  induction h with
  | nil => rfl
  | cons _ _ ih => rw [List.length_cons, List.length_cons, ih]

theorem length_addToGroup_le (candidate : Candidate α) (groups : List (Candidate (List α))) :
    (addToGroup candidate groups).length ≤ groups.length + 1 := by
  induction groups with
  | nil => exact Nat.le_refl 1
  | cons group groups ih =>
      rw [addToGroup]
      split
      · exact Nat.le_succ _
      · exact Nat.succ_le_succ ih

theorem length_groupByStop_le (candidates : List (Candidate α)) :
    (groupByStop candidates).length ≤ candidates.length := by
  have hfold : ∀ (candidates : List (Candidate α)) (groups : List (Candidate (List α))),
      (candidates.foldl (fun groups candidate => addToGroup candidate groups) groups).length
        ≤ groups.length + candidates.length := by
    intro candidates
    induction candidates with
    | nil => exact fun groups => Nat.le_refl _
    | cons candidate candidates ih =>
        intro groups
        have hadded := length_addToGroup_le candidate groups
        have hrest := ih (addToGroup candidate groups)
        rw [List.foldl_cons, List.length_cons]
        omega
  rw [groupByStop, List.length_map]
  simpa using hfold candidates []

namespace Outcome

theorem IsSole.mapCandidates {outcome : Outcome α} (h : outcome.IsSole)
    {f : List (Candidate α) → List (Candidate β)}
    (hf : ∀ candidates, (f candidates).length ≤ candidates.length) :
    (outcome.mapCandidates f).IsSole := by
  cases outcome with
  | failure diagnostic => exact Nat.zero_le 1
  | success candidates carried? => exact Nat.le_trans (hf candidates) h

theorem IsSole.map {outcome : Outcome α} (h : outcome.IsSole) (f : α → β) :
    (outcome.map f).IsSole :=
  h.mapCandidates fun _ => Nat.le_of_eq (List.length_map _)

/-- What follows a sole candidate is sole if each way to go on is. -/
theorem IsSole.gather {chain : Chain} {start : Cursor} {seen : Option Diagnostic}
    {parts : List (Outcome α)} (hparts : parts.length ≤ 1) (hsole : ∀ part ∈ parts, part.IsSole) :
    (gather chain start seen parts).IsSole := by
  rw [Outcome.IsSole, Outcome.gather, Outcome.candidates_settle]
  refine length_flatMap_le_one hparts fun part hpart => ?_
  rw [List.length_map]
  exact hsole part hpart

end Outcome

namespace Steps

variable {runs : List (Candidate (List α))} {later : List Diagnostic} {steps : Steps α}

theorem length_all_le_one (hruns : runs.length ≤ 1)
    (hsteps : Collected (Observation.StepOf fun _ _ outcome => outcome.IsSole) runs later steps) :
    steps.all.length ≤ 1 := by
  refine length_flatMap_le_one (hsteps.length_eq ▸ hruns) fun step hstep => ?_
  obtain ⟨_, _, _, _, hsole⟩ := hsteps.exists_of_mem_right hstep
  rw [List.length_map]
  exact hsole

theorem length_advancing_le (steps : Steps α) : steps.advancing.length ≤ steps.all.length := by
  induction steps with
  | nil => exact Nat.le_refl 0
  | cons step steps ih =>
      have hfirst := List.length_filter_le (fun moved => moved.stop != step.1.stop)
        step.2.candidates
      simp only [advancing, all, List.flatMap_cons, List.length_append, List.length_map] at ih ⊢
      exact Nat.add_le_add hfirst ih

end Steps

/-! ### Combinators -/

section Combinators

variable {m : Type → Type} [Monad m]

def Parser.IsSole (observation : Observation m) (chain : Chain) (p : Parser m α) : Prop :=
  ∀ start, observation.Yields (p chain start) fun _ outcome => outcome.IsSole

namespace Parser.IsSole

variable {observation : Observation m} {chain : Chain} {p : Parser m α} {q : Parser m β}

theorem succeed (value : α) : (Parser.succeed value).IsSole observation chain :=
  fun _ => observation.pure (Nat.le_refl 1)

theorem map (hp : p.IsSole observation chain) (f : α → β) :
    (p.map f).IsSole observation chain :=
  fun start => observation.yields_map (hp start) fun _ _ hsole => hsole.map f

theorem mapCandidate (hp : p.IsSole observation chain) (f : Chain → Candidate α → β) :
    (p.mapCandidate f).IsSole observation chain :=
  fun start => observation.yields_mapCandidate (hp start) fun _ _ hsole =>
    hsole.mapCandidates fun _ => Nat.le_of_eq (List.length_map _)

theorem grouped (hp : p.IsSole observation chain) : p.grouped.IsSole observation chain :=
  fun start => observation.yields_grouped (hp start) fun _ _ hsole =>
    hsole.mapCandidates length_groupByStop_le

theorem relabel (hp : p.IsSole observation chain) (message : String) :
    (p.relabel message).IsSole observation chain :=
  fun start => observation.yields_relabel (hp start) (fun _ _ _ hsole => hsole)
    fun _ _ _ => Nat.zero_le 1

theorem recover (hp : p.IsSole observation chain) (message : String) (value : α) :
    (p.recover message value).IsSole observation chain :=
  fun start => observation.yields_recover (hp start) (fun _ _ _ hsole => hsole)
    fun _ _ _ => Nat.le_refl 1

theorem optionalGreedy (hp : p.IsSole observation chain) :
    p.optionalGreedy.IsSole observation chain :=
  fun start => observation.yields_optionalGreedy (hp start)
    (fun _ _ _ hsole => hsole.map some) fun _ _ _ => Nat.le_refl 1

theorem orElse {q : Parser m α} (hp : p.IsSole observation chain)
    (hq : q.IsSole observation chain) : (p.orElse q).IsSole observation chain :=
  fun start => observation.yields_orElse (hp start) (hq start) (fun _ _ _ hfirst => hfirst)
    (fun _ _ _ _ _ _ hsecond => hsecond) fun _ _ _ _ _ _ => Nat.zero_le 1

variable [LawfulMonad m]

theorem bind {next : α → Parser m β} (hp : p.IsSole observation chain)
    (hnext : ∀ value, (next value).IsSole observation chain) :
    (p.bind next).IsSole observation chain := by
  intro start
  refine observation.yields_bind (hp start) hnext fun _ firsts _ parts hfirsts hparts => ?_
  refine .gather (hparts.length_eq ▸ hfirsts) fun part hpart => ?_
  obtain ⟨_, _, _, hsole⟩ := hparts.exists_of_mem_right hpart
  exact hsole

theorem seq (hp : p.IsSole observation chain) (hq : q.IsSole observation chain) :
    (p.seq q).IsSole observation chain := by
  intro start
  refine observation.yields_seq (hp start) hq fun _ firsts _ parts hfirsts hparts => ?_
  refine .gather (hparts.length_eq ▸ hfirsts) fun part hpart => ?_
  obtain ⟨_, _, _, seconds, hsole, rfl⟩ := hparts.exists_of_mem_right hpart
  exact hsole.map _

theorem manyGreedy (hp : p.IsSole observation chain) :
    p.manyGreedy.IsSole observation chain := by
  intro start
  refine observation.map (observation.yields_climb hp (fun level _ _ => level.length ≤ 1)
    ?_ ?_ _ [] (Nat.le_refl 1)) ?_
  · intro level seen misses later steps hlevel hsteps _
    exact Nat.le_trans (Steps.length_advancing_le steps) (Steps.length_all_le_one hlevel hsteps)
  · exact fun hlevel _ _ => hlevel
  · rintro misses ⟨runs, seen⟩ hruns
    exact Nat.le_trans (Nat.le_of_eq (List.length_map _)) hruns

theorem exactly (hp : p.IsSole observation chain) (count : Nat) :
    (Parser.exactly count p).IsSole observation chain := by
  intro start
  refine observation.yields_exactlyFrom hp (fun _ level _ _ => level.length ≤ 1)
    (fun _ outcome => outcome.IsSole) ?_ ?_ ?_ count [] (Nat.le_refl 1)
  · exact fun hlevel hsteps _ => Steps.length_all_le_one hlevel hsteps
  · exact fun _ _ _ => Nat.zero_le 1
  · exact fun hlevel => Nat.le_trans (Nat.le_of_eq (List.length_map _)) hlevel

theorem separatedExactly (hp : p.IsSole observation chain) (hq : q.IsSole observation chain)
    (count : Nat) : (Parser.separatedExactly count p q).IsSole observation chain := by
  match count with
  | 0 => exact .succeed []
  | 1 => exact hp.map _
  | count + 2 => exact (hp.seq (((hq.seq hp).map Prod.snd).exactly (count + 1))).map _

end Parser.IsSole

end Combinators

/-! ### Operators and parses -/

section Operators

variable {m : Type → Type} [Monad m] [LawfulMonad m] {observation : Observation m} {chain : Chain}
  {p q : Parser m Value}

theorem Parser.IsSole.unary (hp : p.IsSole observation chain) {operator : UnaryOperator}
    (hoperator : operator.isDeterministic) : (operator.parser p).IsSole observation chain := by
  cases operator with
  | mapped transform => exact hp.map _
  | spanned view => exact hp.mapCandidate _
  | optionalGreedy => exact hp.optionalGreedy.map _
  | manyGreedy => exact hp.manyGreedy.map _
  | exactly count => exact (hp.exactly count).map _
  | grouped => exact hp.grouped.map _
  | relabelled message => exact hp.relabel message
  | recovered message value => exact hp.recover message value
  | optional | manyShortestFirst | manyLongestFirst => cases hoperator

theorem Parser.IsSole.binary (hp : p.IsSole observation chain) (hq : q.IsSole observation chain)
    {operator : BinaryOperator} (hoperator : operator.isDeterministic) :
    (operator.parser p q).IsSole observation chain := by
  cases operator with
  | seq | seqLeft | seqRight => exact (hp.seq hq).map _
  | orElse => exact hp.orElse hq
  | separatedGreedy => exact ((hp.seq ((hq.seq hp).map _).manyGreedy).map _).map _
  | separatedExactly count => exact (hp.separatedExactly hq count).map _
  | foldedGreedy fold => exact (hp.seq hq.manyGreedy).map _
  | either | separated | folded => cases hoperator

end Operators

theorem Leaf.Reads.isSole {chain : Chain} {start : Cursor} {matcher : Leaf}
    {outcome : Outcome Value} (h : Leaf.Reads chain start matcher outcome) : outcome.IsSole := by
  cases h with
  | matched => exact Nat.le_refl 1
  | missed => exact Nat.zero_le 1

/-- Every outcome of a deterministic grammar is sole. -/
theorem Workspace.Deterministic.carried {workspace : Workspace} {root : Grammar} {chain : Chain}
    (h : workspace.Deterministic root) :
    Carried workspace root chain fun _ _ _ _ outcome => outcome.IsSole where
  leaf start _ := (Leaf.reads_outcome _ chain start).isSole
  unary _ _ _ _ _ hcomprises hp := Parser.IsSole.unary hp (h.unary hcomprises)
  binary _ _ _ _ _ _ _ hcomprises hp hq := Parser.IsSole.binary hp hq (h.binary hcomprises)
  bind _ _ _ _ _ _ _ hp hq := Parser.IsSole.bind hp hq
  stands _ _ hsole := hsole

theorem Outcome.single_complete_of_sole {chain : Chain} (candidate : Candidate α)
    (carried? : Option Diagnostic) :
    (∃ value, ((success [candidate] carried?).complete chain).single = .ok value) ∨
      ∃ diagnostic,
        ((success [candidate] carried?).complete chain).single = .error (.unparsed diagnostic) := by
  rw [complete]
  cases hstopped : (candidate.stoppedEarly? chain).isNone with
  | true => exact .inl ⟨candidate.value, by simp [hstopped, settle, single]⟩
  | false => exact .inr ⟨_, by simp only [List.filter_cons, hstopped]; rfl⟩

/-- **The deterministic fragment is unambiguous.** A parse with a deterministic grammar fails or has
one candidate. So there is one complete reading, or a diagnostic that says why there is none. -/
theorem Grammar.sole_of_parseWithin {root : Grammar} {depth : Nat} {held : List Grammar}
    {chain : Chain} {start : Cursor} {workspace after : Workspace} {outcome : Outcome Value}
    (hdeterministic : workspace.Deterministic root)
    (hrun : root.parseWithin depth held chain start workspace = .ok outcome after) :
    ((∃ diagnostic, outcome = .failure diagnostic) ∨
        ∃ candidate carried?, outcome = .success [candidate] carried?) ∧
      ((∃ value, (outcome.complete chain).single = .ok value) ∨
        ∃ diagnostic, (outcome.complete chain).single = .error (.unparsed diagnostic)) := by
  obtain ⟨_, _, hsole⟩ := hdeterministic.carried.of_parseWithin hrun
  have hfails := Grammar.candidates_eq_nil_iff hrun
  cases outcome with
  | failure diagnostic => exact ⟨.inl ⟨diagnostic, rfl⟩, .inr ⟨diagnostic, rfl⟩⟩
  | success candidates carried? =>
      match candidates with
      | [] =>
          obtain ⟨_, hfailure⟩ := hfails.1 rfl
          cases hfailure
      | [candidate] =>
          exact ⟨.inr ⟨candidate, carried?, rfl⟩, Outcome.single_complete_of_sole _ _⟩
      | _ :: _ :: _ => exact absurd hsole (by simp [Outcome.IsSole])

/-- As many letters as possible, by a rule that reads one of two letters, or nothing. -/
theorem Grammar.sole_letters :
    ∃ (chain : Chain) (workspace after : Workspace) (letters : Grammar) (outcome : Outcome Value),
      workspace.Deterministic letters ∧
        letters.parseWithin 2 [] chain 0 workspace = .ok outcome after ∧
        ∃ candidate carried?, outcome = .success [candidate] carried? := by
  let letter (text : String) : Token := ⟨"letter", text, ⟨0, 1, 1, 1, 2⟩⟩
  let chain : Chain := #[letter "a", letter "b", letter "c"]
  let pattern : Grammar := .unary .optionalGreedy
    (.binary .orElse (.leaf (.literal "a")) (.leaf (.literal "b")))
  let letters : Grammar := .unary .manyGreedy (.linked (.rule 0))
  have hrun : ∃ outcome after,
      letters.parseWithin 2 [] chain 0 { slots := #[some pattern] } = .ok outcome after ∧
        outcome.isSuccess := ⟨_, _, rfl, rfl⟩
  obtain ⟨outcome, after, hrun, hsuccess⟩ := hrun
  have hdeterministic : Workspace.Deterministic { slots := #[some pattern] } letters :=
    Workspace.deterministic_of_all (Workspace.all_of_slot rfl) rfl
  refine ⟨chain, _, after, letters, outcome, hdeterministic, hrun, ?_⟩
  obtain ⟨⟨_, rfl⟩ | hsole, _⟩ := Grammar.sole_of_parseWithin hdeterministic hrun
  · cases hsuccess
  · exact hsole

end TokenGrammar
