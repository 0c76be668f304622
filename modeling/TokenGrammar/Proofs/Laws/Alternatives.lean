import TokenGrammar.Proofs.Laws.Answers

/-!
# Alternatives

An exhaustive choice reads all branches and a committed one stops at the first that succeeds, and
they merge diagnostics by different rules. Both may be bracketed in any way all the same. Where the
first branch fails they come to the same; where it succeeds, the committed choice has the first of
the candidates that the exhaustive one has. What follows an exhaustive choice may be read behind
each branch instead, although its diagnostics are then met in another order.
-/

namespace TokenGrammar

variable {α β : Type}

theorem Diagnostic.further_assoc (a b c : Diagnostic) :
    (a.further b).further c = a.further (b.further c) := by
  simpa using furthest_assoc (some a) (some b) (some c)

/-! ### Merged outcomes -/

namespace Outcome

variable {chain : Chain} {start : Cursor}

theorem Proper.merge_merge {first second : Outcome α} (hfirst : first.Proper start)
    (hsecond : second.Proper start) (third : Outcome α) :
    (first.merge chain start second).merge chain start third
      = first.merge chain start (second.merge chain start third) := by
  rw [merge, candidates_merge, hfirst.diagnostic?_merge, List.append_assoc,
    Diagnostic.furthest_assoc, merge, candidates_merge, hsecond.diagnostic?_merge]

theorem Proper.isSuccess_merge {first : Outcome α} (hfirst : first.Proper start)
    (hsuccess : first.isSuccess) (second : Outcome α) :
    (first.merge chain start second).isSuccess = true := by
  rw [merge, isSuccess_settle, Bool.not_eq_true', List.isEmpty_eq_false_iff]
  exact List.append_ne_nil_of_left_ne_nil (hfirst.nonempty hsuccess) _

end Outcome

/-! ### What follows two branches -/

namespace Answer

variable {first second : Answer α} {next : α → Answer β}

theorem candidates_either_bind (first second : Answer α) (next : α → Answer β) (chain : Chain)
    (start : Cursor) :
    ((first.either second chain).bind next chain start).candidates
      = ((first.bind next chain).either (second.bind next chain) chain start).candidates := by
  rw [candidates_bind, either, either, Outcome.candidates_merge, Outcome.candidates_merge,
    candidates_bind, candidates_bind, List.flatMap_append]

/-- Whether it is read once or twice, the same diagnostics are met. -/
theorem reach_met_either (hfirst : first.Proper) (chain : Chain) (start : Cursor) :
    Diagnostic.reach ((first.either second chain).met next start)
      = Diagnostic.reach (Diagnostic.furthest (first.met next start) (second.met next start)) := by
  apply eq_of_forall_ge_iff
  intro bound
  rw [reach_met_le_iff, either, Outcome.candidates_merge, (hfirst start).diagnostic?_merge,
    Diagnostic.reach_furthest, Diagnostic.reach_furthest, max_le_iff, max_le_iff, reach_met_le_iff,
    reach_met_le_iff, List.forall_mem_append]
  tauto

theorem either_bind_agrees (hfirst : first.Proper) (hsecond : second.Proper)
    (hnext : ∀ value, (next value).Proper) (chain : Chain) (start : Cursor) :
    ((first.either second chain).bind next chain start).Agrees
      ((first.bind next chain).either (second.bind next chain) chain start) := by
  have hright : (first.bind next chain).either (second.bind next chain) chain start
      = .settle chain start
          ((first.bind next chain).either (second.bind next chain) chain start).candidates
          (Diagnostic.furthest (first.met next start) (second.met next start)) := by
    rw [either, Outcome.candidates_merge, Outcome.merge, diagnostic?_bind hfirst hnext,
      diagnostic?_bind hsecond hnext]
  rw [bind_eq_settle, hright, candidates_either_bind]
  exact Outcome.agrees_settle chain start _ (reach_met_either hfirst chain start)

end Answer

/-! ### The laws -/

namespace Parser

theorem orElse_orElse {m : Type → Type} [Monad m] [LawfulMonad m] (p q r : Parser m α) :
    (p.orElse q).orElse r = p.orElse (q.orElse r) := by
  funext chain start
  simp only [orElse, bind_assoc]
  apply congrArg (p chain start >>= ·)
  funext first
  cases first with
  | success candidates carried? => simp only [pure_bind]
  | failure diagnostic =>
      simp only [bind_assoc]
      apply congrArg (q chain start >>= ·)
      funext second
      cases second with
      | success candidates carried? => simp only [pure_bind]
      | failure later =>
          simp only [pure_bind, bind_assoc]
          apply congrArg (r chain start >>= ·)
          funext third
          cases third with
          | success candidates carried? =>
              simp only [pure_bind, ← Diagnostic.furthest_assoc, Diagnostic.furthest_some_some]
          | failure last => simp only [pure_bind, Diagnostic.further_assoc]

variable {chain : Chain} {p q : Parser Run α}

theorem either_either (hp : p.Proper chain) (hq : q.Proper chain) (r : Parser Run α)
    (start : Cursor) : (p.either q).either r chain start = p.either (q.either r) chain start := by
  simp only [either, bind_assoc, pure_bind]
  apply Run.bind_congr_of_yields (hp.yields start)
  intro _ first hfirst
  apply Run.bind_congr_of_yields (hq.yields start)
  intro _ second hsecond
  apply congrArg (r chain start >>= ·)
  funext third
  exact congrArg pure (hfirst.merge_merge hsecond third)

/-- Where the first branch fails, both choices read the second one and merge it alike. -/
theorem orElse_eq_either_of_failure (hq : q.Proper chain) {start : Cursor}
    {before between : Workspace} {diagnostic : Diagnostic}
    (hfirst : p chain start before = .ok (.failure diagnostic) between) :
    p.orElse q chain start before = p.either q chain start before := by
  rw [orElse, either, Run.bind_of_ok hfirst, Run.bind_of_ok hfirst]
  apply congrFun (Run.bind_congr_of_yields (hq.yields start) _)
  intro _ second hsecond
  cases second with
  | success candidates carried? =>
      have hnonempty : candidates ≠ [] := hsecond.nonempty rfl
      simp [Outcome.settle, hnonempty]
  | failure later => rfl

/-- What becomes of a committed choice where the exhaustive one has an outcome, and where it meets a
fault. -/
theorem orElse_of_either (hp : p.Proper chain) (hq : q.Proper chain) (start : Cursor)
    (before : Workspace) :
    Lands (p.either q chain start) before
      (fun every _ => ∃ committed after, p.orElse q chain start before = .ok committed after ∧
        committed.isSuccess = every.isSuccess ∧ committed.candidates <+: every.candidates)
      (fun fault after => p.orElse q chain start before = .error fault after ∨
        ∃ candidates carried? between,
          p chain start before = .ok (.success candidates carried?) between ∧
          p.orElse q chain start before = .ok (.success candidates carried?) between) := by
  cases hfirst : p chain start before with
  | error fault after =>
      have heither : p.either q chain start before = .error fault after := Run.bind_of_error hfirst
      have horElse : p.orElse q chain start before = .error fault after := Run.bind_of_error hfirst
      apply Lands.of_results
      · intro every after' hrun
        rw [heither] at hrun
        cases hrun
      · intro fault' after' hrun
        rw [heither] at hrun
        cases hrun
        exact .inl horElse
  | ok first between =>
      cases first with
      | success candidates carried? =>
          have horElse : p.orElse q chain start before
              = .ok (.success candidates carried?) between := Run.bind_of_ok hfirst
          apply Lands.of_results
          · intro every after hrun
            obtain ⟨first, between', hrun', hrest⟩ := Run.bind_eq_ok_iff.1 hrun
            rw [hfirst] at hrun'
            cases hrun'
            obtain ⟨second, _, _, hpure⟩ := Run.bind_eq_ok_iff.1 hrest
            obtain ⟨rfl, rfl⟩ := Run.pure_eq_ok_iff.1 hpure
            refine ⟨_, between, horElse, ?_, ?_⟩
            · exact (Outcome.Proper.isSuccess_merge (hp _ _ _ _ hfirst) rfl second).symm
            · rw [Outcome.candidates_settle]
              exact List.prefix_append candidates second.candidates
          · intro fault after hrun
            exact .inr ⟨candidates, carried?, between, rfl, horElse⟩
      | failure diagnostic =>
          rw [orElse_eq_either_of_failure hq hfirst]
          apply Lands.of_results
          · intro every after hrun
            exact ⟨every, after, hrun, rfl, List.prefix_rfl⟩
          · intro fault after hrun
            exact .inl hrun

theorem either_seq_yieldAlike {holds : Workspace → Prop} {admissible : Fault → Workspace → Prop}
    {first second : Answer α} {later : Answer β} {tail : Parser Run β} (hfirst : first.Proper)
    (hsecond : second.Proper) (hlater : later.Proper)
    (hp : ∀ start, (Run.landing holds admissible).Yields (p chain start) fun _ outcome =>
      outcome = first start)
    (hq : ∀ start, (Run.landing holds admissible).Yields (q chain start) fun _ outcome =>
      outcome = second start)
    (htail : ∀ start, (Run.landing holds admissible).Yields (tail chain start) fun _ outcome =>
      outcome = later start)
    (start : Cursor) {before : Workspace} (hbefore : holds before) :
    Run.YieldAlike admissible Outcome.Agrees ((p.either q).seq tail chain start)
      ((p.seq tail).either (q.seq tail) chain start) before := by
  have hleft := yields_seq_answer (yields_either_answer hp hq) htail start
  have hright := yields_either_answer (yields_seq_answer hp htail) (yields_seq_answer hq htail)
    start
  apply Run.yieldAlike_of_yields hleft hright hbefore
  rw [Answer.seq_eq_bind, Answer.seq_eq_bind, Answer.seq_eq_bind]
  exact Answer.either_bind_agrees hfirst hsecond
    (fun value cursor => (hlater cursor).map (Prod.mk value)) chain start

/-- **The laws of alternatives.** The branches are arbitrary parsers that yield candidates from the
cursor on. Exhaustive and committed choices may be bracketed in any way, whatever the workspace. A
committed choice succeeds where the exhaustive one does, with the first of its candidates, and if
its first branch fails it does the same; it meets the same fault unless its first branch succeeds.
And if the parts are functions of the cursor, as steady grammars are (`Grammar.reads_of_steady`),
what follows an exhaustive choice may be read behind each branch: unless a part meets a fault, the
candidates are the same in the same order, and the diagnostic lies as far. -/
theorem either_lawful {p q r : Parser Run α} {tail : Parser Run β} (hp : p.Proper chain)
    (hq : q.Proper chain) (htail : tail.Proper chain) (start : Cursor) :
    (p.either q).either r chain start = p.either (q.either r) chain start ∧
    (p.orElse q).orElse r = p.orElse (q.orElse r) ∧
    ∀ before : Workspace,
      Lands (p.either q chain start) before
        (fun every _ => ∃ committed after, p.orElse q chain start before = .ok committed after ∧
          committed.isSuccess = every.isSuccess ∧ committed.candidates <+: every.candidates)
        (fun fault after => p.orElse q chain start before = .error fault after ∨
          ∃ candidates carried? between,
            p chain start before = .ok (.success candidates carried?) between ∧
            p.orElse q chain start before = .ok (.success candidates carried?) between) ∧
      (∀ diagnostic between, p chain start before = .ok (.failure diagnostic) between →
        p.orElse q chain start before = p.either q chain start before) ∧
      ∀ {holds : Workspace → Prop}, holds before → p.Reads chain holds → q.Reads chain holds →
        tail.Reads chain holds →
          Run.YieldAlike
            (fun fault after => p.Meets chain holds fault after ∨ q.Meets chain holds fault after ∨
              tail.Meets chain holds fault after)
            Outcome.Agrees ((p.either q).seq tail chain start)
            ((p.seq tail).either (q.seq tail) chain start) before := by
  refine ⟨either_either hp hq r start, orElse_orElse p q r, fun before =>
    ⟨orElse_of_either hp hq start before, fun _ _ => orElse_eq_either_of_failure hq, ?_⟩⟩
  intro holds hbefore hpReads hqReads htailReads
  obtain ⟨first, hfirst, hfirstProper⟩ := hpReads.exists_answer hp
  obtain ⟨second, hsecond, hsecondProper⟩ := hqReads.exists_answer hq
  obtain ⟨later, hlater, hlaterProper⟩ := htailReads.exists_answer htail
  apply either_seq_yieldAlike hfirstProper hsecondProper hlaterProper _ _ _ start hbefore
  · exact hfirst.yields fun _ _ => .inl
  · exact hsecond.yields fun _ _ h => .inr (.inl h)
  · exact hlater.yields fun _ _ h => .inr (.inr h)

/-- Two branches read the same letter, and the second one also meets a diagnostic behind it. The
committed choice has one of the two readings. If the tail fails at the same place, it depends on the
order of reading whether the diagnostic of the branch or that of the tail is kept. -/
theorem either_lawful_letter :
    ∃ (workspace : Workspace) (chain : Chain) (letter refused tail : Parser Run Value)
      (holds : Workspace → Prop),
      (letter.Proper chain ∧ refused.Proper chain ∧ tail.Proper chain ∧ holds workspace ∧
        letter.Reads chain holds ∧ refused.Reads chain holds ∧ tail.Reads chain holds) ∧
      (∃ (every committed : Outcome Value) (after later : Workspace),
        letter.either refused chain 0 workspace = .ok every after ∧
        letter.orElse refused chain 0 workspace = .ok committed later ∧
        every.candidates.length = 2 ∧ committed.candidates.length = 1 ∧
        committed.candidates <+: every.candidates) ∧
      ∃ (left right : Outcome (Value × Value)) (after later : Workspace),
        (letter.either refused).seq tail chain 0 workspace = .ok left after ∧
        (letter.seq tail).either (refused.seq tail) chain 0 workspace = .ok right later ∧
        left = .failure (.custom "refused" chain 1) ∧
        right = .failure (.custom "not followed" chain 1) ∧ left.Agrees right := by
  let token (index : Nat) : Token := ⟨"letter", "a", ⟨index, 1, index + 1, 1, index + 2⟩⟩
  let chain : Chain := #[token 0, token 1]
  let pattern : Grammar := .leaf (.literal "a")
  let workspace : Workspace := { slots := #[some pattern] }
  let first : Grammar := .linked (.rule 0)
  let second : Grammar :=
    .binary .either pattern (.binary .seqRight pattern (.leaf (.fail "refused")))
  let third : Grammar := .leaf (.fail "not followed")
  let root : Grammar := .binary .either first (.binary .seq second third)
  have hsteady : workspace.Steady root :=
    Workspace.steady_of_closed (Workspace.all_of_slot rfl) rfl (Workspace.all_of_slot rfl) rfl
  obtain ⟨holds, hbefore, hparts⟩ := Grammar.reads_of_steady hsteady chain
  let letter : Parser Run Value := first.parseWithin 2 []
  let refused : Parser Run Value := second.parseWithin 2 []
  let tail : Parser Run Value := third.parseWithin 2 []
  obtain ⟨hletter, hletterReads⟩ := hparts (.first .root) 2 []
  obtain ⟨hrefused, hrefusedReads⟩ := hparts (.first (.second .root)) 2 []
  obtain ⟨htail, htailReads⟩ := hparts (.second (.second .root)) 2 []
  have hlaws := either_lawful hletter hrefused htail 0 (r := letter)
  obtain ⟨hcommitted, -, hdistributes⟩ := hlaws.2.2 workspace
  refine ⟨workspace, chain, letter, refused, tail, holds,
    ⟨hletter, hrefused, htail, hbefore, hletterReads, hrefusedReads, htailReads⟩, ?_, ?_⟩
  · obtain ⟨every, after, hevery, htwo⟩ : ∃ (every : Outcome Value) (after : Workspace),
        letter.either refused chain 0 workspace = .ok every after ∧
        every.candidates.length = 2 := ⟨_, _, rfl, rfl⟩
    obtain ⟨committed, later, hrun, hone⟩ : ∃ (committed : Outcome Value) (later : Workspace),
        letter.orElse refused chain 0 workspace = .ok committed later ∧
        committed.candidates.length = 1 := ⟨_, _, rfl, rfl⟩
    obtain ⟨_, _, hrun', _, hprefix⟩ := hcommitted.of_ok hevery
    rw [hrun] at hrun'
    cases hrun'
    exact ⟨every, committed, after, later, hevery, hrun, htwo, hone, hprefix⟩
  · obtain ⟨left, right, after, later, hleft, hright, hbranch, hbehind⟩ :
        ∃ (left right : Outcome (Value × Value)) (after later : Workspace),
          (letter.either refused).seq tail chain 0 workspace = .ok left after ∧
          (letter.seq tail).either (refused.seq tail) chain 0 workspace = .ok right later ∧
          left = .failure (.custom "refused" chain 1) ∧
          right = .failure (.custom "not followed" chain 1) := ⟨_, _, _, _, rfl, rfl, rfl, rfl⟩
    obtain ⟨_, _, hfirst, hsecond, hagrees⟩ :=
      hdistributes hbefore hletterReads hrefusedReads htailReads
    obtain rfl := hfirst.of_ok hleft
    obtain rfl := hsecond.of_ok hright
    exact ⟨left, right, after, later, hleft, hright, hbranch, hbehind, hagrees⟩

end Parser

end TokenGrammar
