import TokenGrammar.Proofs.Laws.Answers
import TokenGrammar.Proofs.Repetition.Longest

/-!
# Parts that depend on values

To succeed with a value and to go on with it come to the same as each other's unit, and it makes
little difference how three parts are bracketed that follow each other. The candidates are the same,
in the same order. The diagnostics are met in another order, though: bracketed to the left, all the
second parts are asked before any of the third ones. So of several diagnostics that lie equally far
another one may be kept, but only where the first part has more than one candidate. Plain sequences
are the parts that do not depend on a value, and are bracketed as freely.
-/

namespace TokenGrammar

variable {α β γ : Type}

/-! ### Bracketing answers -/

namespace Answer

variable {first : Answer α} {second : α → Answer β} {third : β → Answer γ}

theorem candidates_bind_bind (first : Answer α) (second : α → Answer β) (third : β → Answer γ)
    (chain : Chain) (start : Cursor) :
    ((first.bind second chain).bind third chain start).candidates
      = (first.bind (fun value => (second value).bind third chain) chain start).candidates := by
  simp only [candidates_bind, List.flatMap_assoc, List.flatMap_map, List.map_flatMap, List.map_map]
  rfl

section Proper

variable (hfirst : first.Proper) (hsecond : ∀ value, (second value).Proper)
  (hthird : ∀ value, (third value).Proper)

include hfirst hsecond hthird

/-- Whichever way parts are bracketed, the same diagnostics are met. -/
theorem reach_met_bind (chain : Chain) (start : Cursor) :
    Diagnostic.reach ((first.bind second chain).met third start)
      = Diagnostic.reach (first.met (fun value => (second value).bind third chain) start) := by
  apply eq_of_forall_ge_iff
  intro bound
  simp only [reach_met_le_iff, diagnostic?_bind hfirst hsecond,
    diagnostic?_bind (hsecond _) hthird, candidates_bind, List.mem_flatMap, List.mem_map]
  constructor
  · rintro ⟨⟨hmet, hparts⟩, hlater⟩
    refine ⟨hmet, fun part hpart => ⟨hparts part hpart, fun middle hmiddle => ?_⟩⟩
    exact hlater (middle.startingAt start) ⟨part, hpart, middle, hmiddle, rfl⟩
  · rintro ⟨hmet, hparts⟩
    refine ⟨⟨hmet, fun part hpart => (hparts part hpart).1⟩, ?_⟩
    rintro _ ⟨part, hpart, middle, hmiddle, rfl⟩
    exact (hparts part hpart).2 middle hmiddle

/-- Behind one candidate they are also met in the same order. -/
theorem met_bind_of_length_le_one {start : Cursor}
    (hsole : (first start).candidates.length ≤ 1) (chain : Chain) :
    (first.bind second chain).met third start
      = first.met (fun value => (second value).bind third chain) start := by
  rw [met, diagnostic?_bind hfirst hsecond, candidates_bind, met, met]
  rcases hparts : (first start).candidates with _ | ⟨part, _ | ⟨other, parts⟩⟩
  · rfl
  · simp only [List.flatMap_singleton, List.foldl_map, List.foldl_cons, List.foldl_nil,
      diagnostic?_bind (hsecond part.value) hthird]
    exact Diagnostic.foldl_furthest_furthest _ _ _ _
  · rw [hparts, List.length_cons, List.length_cons] at hsole
    omega

theorem bind_bind_agrees (chain : Chain) (start : Cursor) :
    ((first.bind second chain).bind third chain start).Agrees
      (first.bind (fun value => (second value).bind third chain) chain start) := by
  rw [bind_eq_settle (first.bind second chain), bind_eq_settle first, candidates_bind_bind]
  exact Outcome.agrees_settle chain start _ (reach_met_bind hfirst hsecond hthird chain start)

theorem bind_bind_eq {start : Cursor} (hsole : (first start).candidates.length ≤ 1)
    (chain : Chain) :
    (first.bind second chain).bind third chain start
      = first.bind (fun value => (second value).bind third chain) chain start := by
  rw [bind_eq_settle (first.bind second chain), bind_eq_settle first, candidates_bind_bind,
    met_bind_of_length_le_one hfirst hsecond hthird hsole]

end Proper

end Answer

/-! ### Sequences are bindings -/

theorem Outcome.map_gather (f : α → β) (chain : Chain) (start : Cursor)
    (diagnostic? : Option Diagnostic) (parts : List (Outcome α)) :
    (gather chain start diagnostic? parts).map f
      = gather chain start diagnostic? (parts.map (·.map f)) := by
  rw [gather, map_settle, gather, List.map_flatMap, List.flatMap_map, List.foldl_map]
  simp only [candidates_map, diagnostic?_map, List.map_map]
  rfl

namespace Parser

section Monad

variable {m : Type → Type} [Monad m]

theorem seq_eq_bind (p : Parser m α) (q : Parser m β) :
    p.seq q = p.bind fun first => q.map fun second => (first, second) := rfl

variable [LawfulMonad m]

theorem map_bind (p : Parser m α) (next : α → Parser m β) (f : β → γ) :
    (p.bind next).map f = p.bind fun value => (next value).map f := by
  funext chain start
  have hparts (firsts : Outcome α) :
      firsts.candidates.mapM (fun first => (next first.value).map f chain first.stop)
        = List.map (·.map f) <$>
            firsts.candidates.mapM fun first => next first.value chain first.stop := by
    rw [← mapM_map]
    simp only [map, map_eq_pure_bind]
  simp only [bind, map, bind_assoc, pure_bind, Outcome.map_gather]
  simp only [map] at hparts
  simp only [hparts, map_eq_pure_bind, bind_assoc, pure_bind]

theorem bind_map (p : Parser m α) (f : α → β) (next : β → Parser m γ) :
    (p.map f).bind next = p.bind fun value => next (f value) := by
  funext chain start
  simp only [bind, map, bind_assoc, pure_bind, Outcome.candidates_map, Outcome.diagnostic?_map,
    List.mapM_map]
  rfl

theorem seq_seq_eq_bind (p : Parser m α) (q : Parser m β) (r : Parser m γ) :
    ((p.seq (q.seq r)).map fun (first, second, third) => ((first, second), third))
      = p.bind fun first => (q.map fun second => (first, second)).bind fun parts =>
          r.map fun third => (parts, third) := by
  simp only [seq_eq_bind, map_bind, map_map, bind_map]
  rfl

end Monad

/-! ### The laws -/

variable {chain : Chain}

theorem succeed_bind {f : α → Parser Run β} (hf : ∀ value, (f value).Proper chain) (value : α)
    (start : Cursor) : (succeed value).bind f chain start = f value chain start := by
  have hsole {outcome : Outcome β} (houtcome : outcome.Proper start) :
      Outcome.gather chain start none [outcome] = outcome := by
    rw [Outcome.gather, List.flatMap_singleton, houtcome.map_startingAt, List.foldl_cons,
      List.foldl_nil, Diagnostic.furthest_none_left, houtcome.settle_eq]
  calc (succeed value).bind f chain start
      = f value chain start >>= fun outcome => pure (.gather chain start none [outcome]) := by
        simp only [bind, succeed, pure_bind, Outcome.candidates_success, List.mapM_cons,
          List.mapM_nil, bind_assoc]
        rfl
    _ = f value chain start >>= pure :=
        Run.bind_congr_of_yields ((hf value).yields start) fun _ _ houtcome =>
          congrArg pure (hsole houtcome)
    _ = f value chain start := bind_pure _

theorem bind_succeed {p : Parser Run α} (hp : p.Proper chain) (start : Cursor) :
    p.bind succeed chain start = p chain start := by
  have hsame {outcome : Outcome α} (houtcome : outcome.Proper start) :
      Outcome.gather chain start outcome.diagnostic? (outcome.candidates.map fun candidate =>
        .success [.still candidate.stop candidate.value] none) = outcome := by
    have hcandidates : (outcome.candidates.flatMap fun candidate =>
        [(Candidate.still candidate.stop candidate.value).startingAt start])
          = outcome.candidates := by
      rw [← List.map_eq_flatMap]
      exact houtcome.map_startingAt
    rw [Outcome.gather, List.flatMap_map, List.foldl_map]
    simp only [Outcome.candidates_success, Outcome.diagnostic?_success, List.map_singleton,
      hcandidates, Diagnostic.furthest_none_right, List.foldl_fixed, houtcome.settle_eq]
  calc p.bind succeed chain start
      = p chain start >>= fun outcome => pure (.gather chain start outcome.diagnostic?
          (outcome.candidates.map fun candidate =>
            .success [.still candidate.stop candidate.value] none)) := by
        simp only [bind, succeed, List.mapM_pure, pure_bind]
    _ = p chain start >>= pure :=
        Run.bind_congr_of_yields (hp.yields start) fun _ _ houtcome =>
          congrArg pure (hsame houtcome)
    _ = p chain start := bind_pure _

/-- That outcomes of what begins with a parser agree, and are the same where that parser has one
candidate at most. -/
def AgreesBehind (p : Parser Run α) (chain : Chain) (start : Cursor) (before : Workspace)
    (left right : Outcome β) : Prop :=
  left.Agrees right ∧ ∀ outcome after, p chain start before = .ok outcome after →
    outcome.candidates.length ≤ 1 → left = right

section Bracketing

variable {holds : Workspace → Prop} {admissible : Fault → Workspace → Prop}
  {first : Answer α} {second : α → Answer β} {third : β → Answer γ} {p : Parser Run α}
  {f : α → Parser Run β} {g : β → Parser Run γ}

theorem bind_bind_yieldAlike (hfirst : first.Proper) (hsecond : ∀ value, (second value).Proper)
    (hthird : ∀ value, (third value).Proper)
    (hp : ∀ start, (Run.landing holds admissible).Yields (p chain start) fun _ outcome =>
      outcome = first start)
    (hf : ∀ value start, (Run.landing holds admissible).Yields (f value chain start)
      fun _ outcome => outcome = second value start)
    (hg : ∀ value start, (Run.landing holds admissible).Yields (g value chain start)
      fun _ outcome => outcome = third value start)
    (start : Cursor) {before : Workspace} (hbefore : holds before) :
    Run.YieldAlike admissible (p.AgreesBehind chain start before)
      ((p.bind f).bind g chain start) (p.bind (fun value => (f value).bind g) chain start)
      before := by
  have hleft := yields_bind_answer (yields_bind_answer hp hf) hg start
  have hright := yields_bind_answer hp (fun value => yields_bind_answer (hf value) hg) start
  apply Run.yieldAlike_of_yields hleft hright hbefore
  refine ⟨Answer.bind_bind_agrees hfirst hsecond hthird chain start, ?_⟩
  intro outcome after hrun hsole
  obtain ⟨-, -, rfl⟩ := (hp start before hbefore).of_ok hrun
  exact Answer.bind_bind_eq hfirst hsecond hthird hsole chain

end Bracketing

/-- **Parts that depend on values obey the laws of a monad, and sequences are a case of them.** The
parts are arbitrary parsers that yield candidates from the cursor on. To succeed with a value and to
go on with it is to go on with it, and to go on by succeeding is to do nothing more, whatever the
workspace. A sequence is a binding of its second part, which takes the value of the first one along.
And if the parts are functions of the cursor, as steady grammars are (`Grammar.reads_of_steady`),
brackets may be moved, in bindings and in sequences: unless a part meets a fault, the candidates are
the same in the same order, the diagnostic lies as far, and where the first part has at most one
candidate it is the same one. -/
theorem bind_lawful {p : Parser Run α} {f : α → Parser Run β} {g : β → Parser Run γ}
    {q : Parser Run β} {r : Parser Run γ} (hp : p.Proper chain)
    (hf : ∀ value, (f value).Proper chain) (hg : ∀ value, (g value).Proper chain)
    (hq : q.Proper chain) (hr : r.Proper chain) (start : Cursor) :
    (∀ value, (succeed value).bind f chain start = f value chain start) ∧
    p.bind succeed chain start = p chain start ∧
    p.seq q = (p.bind fun first => q.map fun second => (first, second)) ∧
    ∀ {holds : Workspace → Prop} {before : Workspace}, holds before → p.Reads chain holds →
      ((∀ value, (f value).Reads chain holds) → (∀ value, (g value).Reads chain holds) →
        Run.YieldAlike
          (fun fault after => p.Meets chain holds fault after ∨
            (∃ value, (f value).Meets chain holds fault after) ∨
            ∃ value, (g value).Meets chain holds fault after)
          (p.AgreesBehind chain start before) ((p.bind f).bind g chain start)
          (p.bind (fun value => (f value).bind g) chain start) before) ∧
      (q.Reads chain holds → r.Reads chain holds →
        Run.YieldAlike
          (fun fault after => p.Meets chain holds fault after ∨ q.Meets chain holds fault after ∨
            r.Meets chain holds fault after)
          (p.AgreesBehind chain start before) ((p.seq q).seq r chain start)
          (((p.seq (q.seq r)).map fun (first, second, third) => ((first, second), third))
            chain start) before) := by
  refine ⟨fun value => succeed_bind hf value start, bind_succeed hp start, seq_eq_bind p q, ?_⟩
  intro holds before hbefore hpReads
  obtain ⟨first, hfirst, hfirstProper⟩ := hpReads.exists_answer hp
  constructor
  · intro hfReads hgReads
    choose second hsecond hsecondProper using fun value => (hfReads value).exists_answer (hf value)
    choose third hthird hthirdProper using fun value => (hgReads value).exists_answer (hg value)
    apply bind_bind_yieldAlike hfirstProper hsecondProper hthirdProper _ _ _ start hbefore
    · exact hfirst.yields fun _ _ => .inl
    · exact fun value => (hsecond value).yields fun _ _ h => .inr (.inl ⟨value, h⟩)
    · exact fun value => (hthird value).yields fun _ _ h => .inr (.inr ⟨value, h⟩)
  · intro hqReads hrReads
    obtain ⟨second, hsecond, hsecondProper⟩ := hqReads.exists_answer hq
    obtain ⟨third, hthird, hthirdProper⟩ := hrReads.exists_answer hr
    rw [seq_seq_eq_bind, seq_eq_bind, seq_eq_bind]
    apply bind_bind_yieldAlike hfirstProper
      (fun value cursor => (hsecondProper cursor).map (Prod.mk value))
      (fun value cursor => (hthirdProper cursor).map (Prod.mk value)) _ _ _ start hbefore
    · exact hfirst.yields fun _ _ => .inl
    · intro value cursor
      apply Observation.yields_map _ (hsecond.yields (fun _ _ h => .inr (.inl h)) cursor)
      rintro _ _ rfl
      rfl
    · intro value cursor
      apply Observation.yields_map _ (hthird.yields (fun _ _ h => .inr (.inr h)) cursor)
      rintro _ _ rfl
      rfl

/-- A letter that is read in two ways. What one of them selects fails at once, and what the other
selects has a third part that fails at the same place, so brackets decide which diagnostic is kept.
Three letters in sequence have eight readings in either bracketing. -/
theorem bind_lawful_letters :
    ∃ (workspace : Workspace) (chain : Chain) (letter : Parser Run Value)
      (f g : Value → Parser Run Value) (holds : Workspace → Prop),
      (letter.Proper chain ∧ (∀ value, (f value).Proper chain) ∧
        (∀ value, (g value).Proper chain) ∧ holds workspace ∧ letter.Reads chain holds ∧
        (∀ value, (f value).Reads chain holds) ∧ ∀ value, (g value).Reads chain holds) ∧
      (∃ (left right : Outcome Value) (after later : Workspace),
        (letter.bind f).bind g chain 0 workspace = .ok left after ∧
        letter.bind (fun value => (f value).bind g) chain 0 workspace = .ok right later ∧
        left = .failure (.custom "refused: b" chain 1) ∧
        right = .failure (.custom "not followed: a" chain 1) ∧ left.Agrees right) ∧
      ∃ (left right : Outcome ((Value × Value) × Value)) (after later : Workspace),
        (letter.seq letter).seq letter chain 0 workspace = .ok left after ∧
        ((letter.seq (letter.seq letter)).map
          fun (first, second, third) => ((first, second), third)) chain 0 workspace
            = .ok right later ∧ left.candidates.length = 8 ∧ left.Agrees right := by
  let token (index : Nat) : Token := ⟨"letter", "a", ⟨index, 1, index + 1, 1, index + 2⟩⟩
  let chain : Chain := #[token 0, token 1, token 2]
  let plain : Grammar := .leaf (.literal "a")
  let pattern : Grammar := .binary .either plain (.unary (.mapped (.constant (.text "b"))) plain)
  let workspace : Workspace := { slots := #[some pattern] }
  let selector : Selector := .whenShown "a" (.leaf (.succeed (.text "a"))) (.fail "refused: ")
  let selector' : Selector := .fail "not followed: "
  let root : Grammar := .bind (.bind (.linked (.rule 0)) selector) selector'
  let letter : Parser Run Value := (Grammar.linked (.rule 0)).parseWithin 2 []
  let f (value : Value) : Parser Run Value := (selector.select value).parseWithin 1 []
  let g (value : Value) : Parser Run Value := (selector'.select value).parseWithin 1 []
  have hsteady : workspace.Steady root :=
    Workspace.steady_of_closed (Workspace.all_of_slot rfl) rfl (Workspace.all_of_slot rfl) rfl
  obtain ⟨holds, hbefore, hparts⟩ := Grammar.reads_of_steady hsteady chain
  obtain ⟨hletter, hreads⟩ := hparts (.selecting (.selecting .root)) 2 []
  have hfParts (value : Value) := hparts (.selected value (.selecting .root)) 1 []
  have hgParts (value : Value) := hparts (.selected value .root) 1 []
  have hf (value : Value) : (f value).Proper chain := (hfParts value).1
  have hg (value : Value) : (g value).Proper chain := (hgParts value).1
  have hfReads (value : Value) : (f value).Reads chain holds := (hfParts value).2
  have hgReads (value : Value) : (g value).Reads chain holds := (hgParts value).2
  obtain ⟨-, -, -, hlaws⟩ := bind_lawful hletter hf hg hletter hletter 0
  obtain ⟨hbinding, hsequence⟩ := hlaws hbefore hreads
  refine ⟨workspace, chain, letter, f, g, holds,
    ⟨hletter, hf, hg, hbefore, hreads, hfReads, hgReads⟩, ?_, ?_⟩
  · obtain ⟨left, right, after, later, hleft, hright, hrefused, hunfollowed⟩ :
        ∃ (left right : Outcome Value) (after later : Workspace),
          (letter.bind f).bind g chain 0 workspace = .ok left after ∧
          letter.bind (fun value => (f value).bind g) chain 0 workspace = .ok right later ∧
          left = .failure (.custom "refused: b" chain 1) ∧
          right = .failure (.custom "not followed: a" chain 1) := ⟨_, _, _, _, rfl, rfl, rfl, rfl⟩
    obtain ⟨_, _, hfirst, hsecond, hagrees, _⟩ := hbinding hfReads hgReads
    obtain rfl := hfirst.of_ok hleft
    obtain rfl := hsecond.of_ok hright
    exact ⟨left, right, after, later, hleft, hright, hrefused, hunfollowed, hagrees⟩
  · obtain ⟨left, right, after, later, hleft, hright, height⟩ :
        ∃ (left right : Outcome ((Value × Value) × Value)) (after later : Workspace),
          (letter.seq letter).seq letter chain 0 workspace = .ok left after ∧
          ((letter.seq (letter.seq letter)).map
            fun (first, second, third) => ((first, second), third)) chain 0 workspace
              = .ok right later ∧ left.candidates.length = 8 := ⟨_, _, _, _, rfl, rfl, rfl⟩
    obtain ⟨_, _, hfirst, hsecond, hagrees, _⟩ := hsequence hreads hreads
    obtain rfl := hfirst.of_ok hleft
    obtain rfl := hsecond.of_ok hright
    exact ⟨left, right, after, later, hleft, hright, height, hagrees⟩

end Parser

end TokenGrammar
