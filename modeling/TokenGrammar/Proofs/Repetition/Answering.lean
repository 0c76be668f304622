import TokenGrammar.Proofs.Correspondence
import TokenGrammar.Proofs.Endings
import TokenGrammar.Proofs.Exhaustive
import TokenGrammar.Proofs.Repetition.Levels

/-!
# Grammars as functions of the cursor

A parse builds what was put off and notes what it does, so it leaves another workspace than it
found. What a steady grammar yields from a cursor does not depend on that: it is the same in every
workspace that came of the first one. The relation `Workspace.Answers` says what it is, from the
first workspace alone. Where a grammar has parts it asks oracles, which answer as the parts do, or
do not answer at all; the operator takes what it needs of them.
-/

namespace TokenGrammar

variable {α : Type}

/-! ### Parsers that are functions of the cursor -/

namespace Parser

/-- That a parser yields what an answer says, as long as the workspace holds, and that it reads
forward. -/
structure ReadsAs (p : Parser Run α) (chain : Chain) (holds : Workspace → Prop)
    (answer : Answer α) : Prop where
  eq_answer : ∀ {cursor before outcome after}, holds before →
    p chain cursor before = .ok outcome after → outcome = answer cursor ∧ holds after
  forward : ∀ {cursor before outcome after}, p chain cursor before = .ok outcome after →
    ∀ candidate ∈ outcome.candidates, chain.Reaches cursor candidate.stop

/-- That a parser meets a fault somewhere, as long as the workspace holds. -/
def Meets (p : Parser Run α) (chain : Chain) (holds : Workspace → Prop) (fault : Fault)
    (after : Workspace) : Prop :=
  ∃ cursor before, holds before ∧ p chain cursor before = .error fault after

end Parser

/-- What runs yield that start in a workspace that holds, and which faults they may meet. -/
def Run.landing (holds : Workspace → Prop) (admissible : Fault → Workspace → Prop) :
    Observation Run where
  Yields run post := ∀ before, holds before →
    Lands run before (fun a after => holds after ∧ ∃ misses, post misses a) admissible
  pure hpost before hbefore := ⟨hbefore, [], hpost⟩
  bind hrun hnext before hbefore := by
    apply (hrun before hbefore).bind
    rintro a between ⟨hbetween, misses, ha⟩
    apply (hnext misses a ha between hbetween).imp
    · rintro b after ⟨hafter, later, hb⟩
      exact ⟨hafter, misses ++ later, hb⟩
    · exact fun _ _ h => h

theorem Parser.ReadsAs.answered {p : Parser Run α} {chain : Chain} {holds : Workspace → Prop}
    {answer : Answer α} (hp : p.ReadsAs chain holds answer)
    {admissible : Fault → Workspace → Prop}
    (hmeets : ∀ fault after, p.Meets chain holds fault after → admissible fault after) :
    p.Answered (Run.landing holds admissible) chain answer := by
  intro start before hbefore
  apply Lands.of_results
  · intro outcome after hrun
    obtain ⟨hanswer, hafter⟩ := hp.eq_answer hbefore hrun
    exact ⟨hafter, [], hanswer, hp.forward hrun⟩
  · intro fault after hrun
    exact hmeets fault after ⟨start, before, hbefore, hrun⟩

/-! ### Oracles -/

/-- Computations that yield nothing else than what is known. -/
def Observation.knowing {m : Type → Type} [Monad m] (observation : Observation m) :
    Correspondence m Option where
  Relates run known? := observation.Yields run fun _ a => known? = some a
  pure _ := observation.pure rfl
  bind hrun hnext := observation.bind hrun fun _ a ha => by
    subst ha
    exact hnext a

def Correspondence.agreement : Correspondence Option Option where
  Relates known? known'? := ∀ a a', known? = some a → known'? = some a' → a = a'
  pure a := by
    rintro _ _ ⟨⟩ ⟨⟩
    rfl
  bind {_ _ known? known'? next next'} hknown hnext b b' hb hb' := by
    obtain ⟨a, ha, hb⟩ := Option.bind_eq_some_iff.1 hb
    obtain ⟨a', ha', hb'⟩ := Option.bind_eq_some_iff.1 hb'
    obtain rfl := hknown a a' ha ha'
    exact hnext a b b' hb hb'

/-- What is known of the outcomes of a parser. -/
abbrev Oracle := Cursor → Option (Outcome Value)

def Oracle.parser (oracle : Oracle) : Parser Option Value := fun _ => oracle

/-! ### Answers of grammars -/

namespace Workspace

/-- What a grammar yields from a cursor, as far as a workspace tells. -/
inductive Answers (workspace : Workspace) (chain : Chain) :
    Option Nat → Grammar → Cursor → Outcome Value → Prop where
  | leaf {home? : Option Nat} (matcher : Leaf) (start : Cursor) :
      Answers workspace chain home? (.leaf matcher) start (matcher.outcome chain start)
  | unary {home? : Option Nat} {operator : UnaryOperator} {part : Grammar} {start : Cursor}
      {outcome : Outcome Value} (oracle : Oracle)
      (hpart : ∀ cursor found, oracle cursor = some found →
        Answers workspace chain home? part cursor found)
      (houtcome : operator.parser oracle.parser chain start = some outcome) :
      Answers workspace chain home? (.unary operator part) start outcome
  | binary {home? : Option Nat} {operator : BinaryOperator} {first second : Grammar}
      {start : Cursor} {outcome : Outcome Value} (oracle oracle' : Oracle)
      (hfirst : ∀ cursor found, oracle cursor = some found →
        Answers workspace chain home? first cursor found)
      (hsecond : ∀ cursor found, oracle' cursor = some found →
        Answers workspace chain home? second cursor found)
      (houtcome : operator.parser oracle.parser oracle'.parser chain start = some outcome) :
      Answers workspace chain home? (.binary operator first second) start outcome
  | bind {home? : Option Nat} {part : Grammar} {next : Selector} {start : Cursor}
      {outcome : Outcome Value} (oracle : Oracle) (oracles : Value → Oracle)
      (hpart : ∀ cursor found, oracle cursor = some found →
        Answers workspace chain home? part cursor found)
      (hselected : ∀ value cursor found, oracles value cursor = some found →
        Answers workspace chain home? (next.select value) cursor found)
      (houtcome : oracle.parser.bind (fun value => (oracles value).parser) chain start
        = some outcome) :
      Answers workspace chain home? (.bind part next) start outcome
  | stands {home? home'? : Option Nat} {grammar grammar' : Grammar} {start : Cursor}
      {outcome : Outcome Value}
      (hmeaning : workspace.meaning? home? grammar = some (home'?, grammar'))
      (hanswers : Answers workspace chain home'? grammar' start outcome) :
      Answers workspace chain home? grammar start outcome

variable {workspace : Workspace} {chain : Chain} {home? : Option Nat} {grammar : Grammar}
  {start : Cursor} {outcome outcome' : Outcome Value}

/-- A grammar has one answer at a cursor, by induction on how it is answered: oracles for the same
part agree, and so does what an operator makes of them. -/
theorem Answers.unique (h : workspace.Answers chain home? grammar start outcome)
    (h' : workspace.Answers chain home? grammar start outcome') : outcome = outcome' := by
  induction h generalizing outcome' with
  | leaf matcher start =>
      cases h' with
      | leaf => rfl
      | stands hmeaning => cases hmeaning
  | unary oracle _ houtcome ih =>
      cases h' with
      | stands hmeaning => cases hmeaning
      | unary oracle' hpart' houtcome' =>
          have hpart : Correspondence.agreement.ParsersOn chain oracle.parser oracle'.parser :=
            fun cursor found found' hfound hfound' => ih cursor found hfound (hpart' _ _ hfound')
          exact hpart.unary _ _ _ _ houtcome houtcome'
  | binary oracle other _ _ houtcome ih ih' =>
      cases h' with
      | stands hmeaning => cases hmeaning
      | binary oracle' other' hfirst' hsecond' houtcome' =>
          have hfirst : Correspondence.agreement.ParsersOn chain oracle.parser oracle'.parser :=
            fun cursor found found' hfound hfound' => ih cursor found hfound (hfirst' _ _ hfound')
          have hsecond : Correspondence.agreement.ParsersOn chain other.parser other'.parser :=
            fun cursor found found' hfound hfound' => ih' cursor found hfound (hsecond' _ _ hfound')
          exact hfirst.binary _ hsecond _ _ _ houtcome houtcome'
  | bind oracle oracles _ _ houtcome ih ih' =>
      cases h' with
      | stands hmeaning => cases hmeaning
      | bind oracle' oracles' hpart' hselected' houtcome' =>
          have hpart : Correspondence.agreement.ParsersOn chain oracle.parser oracle'.parser :=
            fun cursor found found' hfound hfound' => ih cursor found hfound (hpart' _ _ hfound')
          have hselected (value : Value) : Correspondence.agreement.ParsersOn chain
              (oracles value).parser (oracles' value).parser :=
            fun cursor found found' hfound hfound' =>
              ih' value cursor found hfound (hselected' _ _ _ hfound')
          exact hpart.bind hselected _ _ _ houtcome houtcome'
  | stands hmeaning _ ih =>
      cases h' with
      | stands hmeaning' hanswers' =>
          rw [hmeaning] at hmeaning'
          cases hmeaning'
          exact ih hanswers'
      | _ => cases hmeaning

theorem exists_oracle (workspace : Workspace) (chain : Chain) (home? : Option Nat)
    (grammar : Grammar) : ∃ oracle : Oracle, ∀ cursor found, oracle cursor = some found ↔
      workspace.Answers chain home? grammar cursor found := by
  classical
  refine ⟨fun cursor => if h : ∃ found, workspace.Answers chain home? grammar cursor found then
    some h.choose else none, fun cursor found => ?_⟩
  dsimp only
  split
  · rename_i h
    rw [Option.some_inj]
    constructor
    · rintro rfl
      exact h.choose_spec
    · exact h.choose_spec.unique
  · rename_i h
    constructor
    · rintro ⟨⟩
    · exact fun hanswers => absurd ⟨found, hanswers⟩ h

theorem knowing_oracle {observation : Observation Run} {p : Parser Run Value} {oracle : Oracle}
    (horacle : ∀ cursor found, oracle cursor = some found ↔
      workspace.Answers chain home? grammar cursor found)
    (hp : ∀ start, observation.Yields (p chain start) fun _ outcome =>
      workspace.Answers chain home? grammar start outcome) :
    observation.knowing.ParsersOn chain p oracle.parser := fun start =>
  observation.weaken (hp start) fun _ outcome => (horacle start outcome).2

theorem Steady.carried_answers {root : Grammar} (h : workspace.Steady root) (chain : Chain) :
    Carried workspace root chain fun home? grammar start _ outcome =>
      workspace.Answers chain home? grammar start outcome where
  leaf start _ := .leaf _ start
  unary observation home? operator part p _ hp start := by
    obtain ⟨oracle, horacle⟩ := workspace.exists_oracle chain home? part
    have hpart := (knowing_oracle horacle hp).unary operator
    apply observation.weaken (hpart start)
    exact fun _ outcome => .unary oracle fun cursor found => (horacle cursor found).1
  binary observation home? operator first second p q _ hp hq start := by
    obtain ⟨oracle, horacle⟩ := workspace.exists_oracle chain home? first
    obtain ⟨oracle', horacle'⟩ := workspace.exists_oracle chain home? second
    have hparts := (knowing_oracle horacle hp).binary operator (knowing_oracle horacle' hq)
    apply observation.weaken (hparts start)
    exact fun _ outcome => .binary oracle oracle' (fun cursor found => (horacle cursor found).1)
      fun cursor found => (horacle' cursor found).1
  bind observation home? part next p q _ hp hq start := by
    obtain ⟨oracle, horacle⟩ := workspace.exists_oracle chain home? part
    choose oracles horacles using fun value =>
      workspace.exists_oracle chain home? (next.select value)
    have hparts := (knowing_oracle horacle hp).bind fun value =>
      knowing_oracle (horacles value) (hq value)
    apply observation.weaken (hparts start)
    exact fun _ outcome => .bind oracle oracles (fun cursor found => (horacle cursor found).1)
      fun value cursor found => (horacles value cursor found).1
  stands hcomprises hstands hanswers := .stands (h.meaning?_eq hcomprises hstands) hanswers

end Workspace

/-- **A steady grammar is a function of the cursor.** So is every grammar that it comprises, on the
way from the workspace in which it is parsed. Where it has no candidate it fails. -/
theorem Grammar.readsAs_of_steady {workspace : Workspace} {root : Grammar}
    (hsteady : workspace.Steady root) (chain : Chain) :
    ∃ holds : Workspace → Prop, holds workspace ∧
      ∀ {part : Grammar}, workspace.Comprises root none part → ∀ depth held,
        ∃ answer, (part.parseWithin depth held).ReadsAs chain holds answer ∧
          ∀ cursor, (answer cursor).candidates = [] → (answer cursor).isSuccess = false := by
  classical
  let holds (now : Workspace) : Prop := workspace.Follows root now ∧ workspace.Grows now
  refine ⟨holds, ⟨.refl workspace root, .refl workspace⟩, fun {part} hpart depth held => ?_⟩
  have hyields {cursor before outcome after} (hbefore : holds before)
      (hrun : part.parseWithin depth held chain cursor before = .ok outcome after) :
      workspace.Answers chain none part cursor outcome ∧ holds after := by
    obtain ⟨hfollows, hgrows, _, _, hanswers⟩ :=
      (hsteady.carried_answers chain).parseWithin depth workspace held cursor hpart (.refl _ part)
        before outcome after hbefore.1 hbefore.2 hrun
    exact ⟨hanswers, hfollows, hbefore.2.trans hgrows⟩
  let Parsed (cursor : Cursor) (outcome : Outcome Value) : Prop := ∃ before after,
    holds before ∧ part.parseWithin depth held chain cursor before = .ok outcome after
  refine ⟨fun cursor => if h : ∃ outcome, Parsed cursor outcome then h.choose
    else .failure (.unconsumed chain cursor), ⟨fun {cursor before outcome after} hbefore hrun => ?_,
    fun hrun candidate hmem => (Grammar.reaches_of_parseWithin hrun candidate hmem).2⟩,
    fun cursor hnone => ?_⟩
  · obtain ⟨hanswers, hafter⟩ := hyields hbefore hrun
    have h : ∃ outcome, Parsed cursor outcome := ⟨outcome, before, after, hbefore, hrun⟩
    obtain ⟨before', after', hbefore', hrun'⟩ := h.choose_spec
    refine ⟨?_, hafter⟩
    rw [dif_pos h]
    exact hanswers.unique (hyields hbefore' hrun').1
  · dsimp only at hnone ⊢
    split
    · rename_i h
      rw [dif_pos h] at hnone
      obtain ⟨_, _, _, hrun⟩ := h.choose_spec
      obtain ⟨diagnostic, hfailure⟩ := (Grammar.candidates_eq_nil_iff hrun).1 hnone
      rw [hfailure, Outcome.isSuccess]
    · rfl

/-- So is a rule by itself whose pattern refers to nothing that is built or stored. -/
theorem Grammar.readsAs_rule (pattern : Grammar) (hcells : pattern.all (leadsWithin 0))
    (hstores : pattern.all storesNothing) (chain : Chain) (depth : Nat) :
    ∃ holds answer, holds { slots := #[some pattern] } ∧
      ((Grammar.linked (.rule 0)).parseWithin depth []).ReadsAs chain holds answer ∧
      ∀ cursor, (answer cursor).candidates = [] → (answer cursor).isSuccess = false := by
  have hsteady : Workspace.Steady { slots := #[some pattern] } (.linked (.rule 0)) :=
    Workspace.steady_of_closed (Workspace.all_of_slot hcells) rfl (Workspace.all_of_slot hstores)
      rfl
  obtain ⟨holds, hbefore, hreads⟩ := readsAs_of_steady hsteady chain
  obtain ⟨answer, hrule, hfails⟩ := hreads .root depth []
  exact ⟨holds, answer, hbefore, hrule, hfails⟩

end TokenGrammar
