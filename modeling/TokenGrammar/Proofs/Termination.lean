import TokenGrammar.Proofs.Advancing
import TokenGrammar.Proofs.Correspondence
import TokenGrammar.Proofs.Faults

/-!
# Grammars without left recursion end

Whatever is entered inside a grammar is entered further on in the chain, or is left-called. Without
left recursion neither goes on for ever: from some depth on a parse has a result, and always the
same one. Only faults can be met that lie at one place of the grammar, and where parts are traced,
the representation of one of them may have no end.

A repetition may explore as many levels as tokens are left, and one more. This bound is never what
ends it: all runs have come to their end by then, because no step of theirs is still.
-/

namespace TokenGrammar

/-- The faults that a parse may meet which ends. Only a grammar that is traced may turn out to have
no representation. -/
def Workspace.MayMeet (workspace : Workspace) (root : Grammar) (fault : Fault) : Prop :=
  fault.isLocal ∨ fault = .unprintable ∧
    ∃ home? label part, workspace.Comprises root home? (.traced label part)

namespace Run

def Finishes {α : Type} (workspace : Workspace) (root : Grammar) (before : Workspace)
    (post : List Diagnostic → α → Prop) : EStateM.Result Fault Workspace α → Prop
  | .ok value after =>
      workspace.Follows root after ∧ before.Grows after ∧ ∃ misses, post misses value
  | .error fault _ => workspace.MayMeet root fault

/-- What runs yield that depend on a depth, but not on which one if it is large enough, and that
start when the workspace has got at least as far as a base. -/
def finishing (workspace : Workspace) (root : Grammar) (base : Workspace) :
    Observation (ReaderT Nat Run) where
  Yields run post := ∀ before, workspace.Follows root before → base.Grows before →
    ∃ depth result, (∀ more, run (depth + more) before = result) ∧
      Finishes workspace root before post result
  pure {α a post} hpost before hfollows _ :=
    ⟨0, .ok a before, fun _ => rfl, hfollows, .refl before, [], hpost⟩
  bind {α β run next between post} hrun hnext before hfollows hbase := by
    obtain ⟨depth, result, hresult, hfinishes⟩ := hrun before hfollows hbase
    cases result with
    | error fault after =>
        exact ⟨depth, .error fault after, fun more => bind_of_error (hresult more), hfinishes⟩
    | ok a after =>
        obtain ⟨hfollows', hgrows, misses, ha⟩ := hfinishes
        obtain ⟨depth', result', hresult', hfinishes'⟩ :=
          hnext misses a ha after hfollows' (hbase.trans hgrows)
        refine ⟨depth + depth', result', fun more => ?_, ?_⟩
        · have hfirst : run (depth + depth' + more) before = .ok a after := by
            rw [Nat.add_assoc]
            exact hresult (depth' + more)
          have hsecond : next a (depth + depth' + more) after = result' := by
            rw [Nat.add_comm depth, Nat.add_assoc]
            exact hresult' (depth + more)
          exact (bind_of_ok hfirst).trans hsecond
        · cases result' with
          | error fault after => exact hfinishes'
          | ok b after' =>
              obtain ⟨hfollows'', hgrows', later, hb⟩ := hfinishes'
              exact ⟨hfollows'', hgrows.trans hgrows', misses ++ later, hb⟩

def atDepth (depth : Nat) : Correspondence (ReaderT Nat Run) Run where
  Relates run run' := run depth = run'
  pure _ := rfl
  bind {α β run run' next next'} hrun hnext := by
    subst hrun
    exact congrArg (run depth >>= ·) (funext hnext)

end Run

/-! ### Parsing at all depths -/

namespace Grammar

/-- The parser of a grammar that was built, at all depths at once. -/
def parserAt (held : List Grammar) (grammar : Grammar) : Parser (ReaderT Nat Run) Value :=
  fun chain start depth => grammar.parser (parseWithin depth) held chain start

theorem parserAt_unary (held : List Grammar) (operator : UnaryOperator) (part : Grammar) :
    (unary operator part).parserAt held = operator.parser (part.parserAt held) := by
  funext chain start depth
  have hpart : (Run.atDepth depth).Parsers (part.parserAt held)
      (part.parser (parseWithin depth) held) := fun _ _ => rfl
  exact (hpart.unary operator chain start).symm

theorem parserAt_binary (held : List Grammar) (operator : BinaryOperator) (first second : Grammar) :
    (binary operator first second).parserAt held
      = operator.parser (first.parserAt held) (second.parserAt held) := by
  funext chain start depth
  have hfirst : (Run.atDepth depth).Parsers (first.parserAt held)
      (first.parser (parseWithin depth) held) := fun _ _ => rfl
  have hsecond : (Run.atDepth depth).Parsers (second.parserAt held)
      (second.parser (parseWithin depth) held) := fun _ _ => rfl
  exact (hfirst.binary operator hsecond chain start).symm

def enterAt (opened : Run (List Grammar × Grammar)) : Parser (ReaderT Nat Run) Value :=
  fun chain start depth => opened >>= fun part => part.2.parseWithin depth part.1 chain start

def alone (held : List Grammar) (built : Run Grammar) : Run (List Grammar × Grammar) := do
  let grammar ← built
  return (grammar :: held, grammar)

theorem parserAt_bind (held : List Grammar) (part : Grammar) (next : Selector) :
    (bind part next).parserAt held = (part.parserAt held).bind fun value =>
      enterAt (alone held ((next.select value).link none)) := by
  funext chain start depth
  have hpart : (Run.atDepth depth).Parsers (part.parserAt held)
      (part.parser (parseWithin depth) held) := fun _ _ => rfl
  have hnext (value : Value) : (Run.atDepth depth).Parsers
      (enterAt (alone held ((next.select value).link none)))
      (fun chain start => (next.select value).link none >>= fun selected =>
        parseWithin depth (selected :: held) selected chain start) := by
    intro chain start
    simp only [Run.atDepth, enterAt, alone, bind_assoc, pure_bind]
  exact (hpart.bind hnext chain start).symm

theorem parserAt_deferred (held : List Grammar) (part : Grammar) :
    (deferred part).parserAt held = enterAt (alone held (Run.partContent part)) := by
  funext chain start depth
  simp only [parserAt, parser, parserTracing, enterAt, alone, bind_assoc, pure_bind]

theorem parserAt_linked (held : List Grammar) (target : Link) :
    (linked target).parserAt held = enterAt (target.opened held) := by
  funext chain start depth
  exact target.parser_eq_opened (parseWithin depth) held chain start

end Grammar

/-! ### The induction -/

section Ends

variable {workspace : Workspace} {root : Grammar} {chain : Chain} {start : Cursor}
  {home? : Option Nat} {grammar : Grammar}

/-- That parsing every construction of a grammar ends from a cursor, with candidates that move on
unless the grammar is nullable. -/
def Workspace.Ends (workspace : Workspace) (root : Grammar) (chain : Chain) (start : Cursor)
    (node : Option Nat × Grammar) : Prop :=
  ∀ (base : Workspace) (held : List Grammar) (built : Grammar),
    Builds workspace root base.body? node.1 node.2 built →
    (built.parserAt held).Advances (Run.finishing workspace root base) chain
      (workspace.Nullable root node.1 node.2) start

theorem Run.finishing_throw {base : Workspace} {α : Type} {run : ReaderT Nat Run α} {fault : Fault}
    {post : List Diagnostic → α → Prop} (hlocal : fault.isLocal)
    (hrun : ∀ depth before, run depth before = .error fault before) :
    (Run.finishing workspace root base).Yields run post :=
  fun before _ _ => ⟨0, .error fault before, fun _ => hrun _ before, .inl hlocal⟩

theorem Leaf.advances (matcher : Leaf) {base : Workspace} {held : List Grammar} :
    ((Grammar.leaf matcher).parserAt held).Advances (Run.finishing workspace root base) chain
      (workspace.Nullable root home? (.leaf matcher)) start := by
  intro before hfollows _
  obtain ⟨change, hrun⟩ : ∃ change, matcher.parseNoting chain start before
      = .ok (matcher.outcome chain start) (before.modifyJournal change) := by
    rw [Leaf.parseNoting_eq]
    exact ⟨_, rfl⟩
  refine ⟨0, .ok (matcher.outcome chain start) (before.modifyJournal change), fun _ => hrun,
    hfollows.modifyJournal change, .refl before, [], fun candidate hmem => ?_⟩
  have hreads := matcher.reads_outcome chain start
  generalize matcher.outcome chain start = outcome at hreads hmem
  cases hreads with
  | missed => cases hmem
  | matched hmatch =>
      rw [List.mem_singleton.1 hmem]
      obtain rfl | ⟨hlt, rfl⟩ := hmatch.stop_cases
      · refine .here ?_
        cases hmatch with
        | nothing => exact .nothing
        | succeed => exact .succeed
      · exact ⟨.next .here hlt, fun heq => absurd heq (Nat.succ_ne_self start)⟩

/-- Tracing ends unless the part has no representation. -/
theorem Run.advances_traced {base : Workspace} {held : List Grammar} {label : String}
    {part built : Grammar} {still : Prop}
    (hcomprises : workspace.Comprises root home? (.traced label part))
    (hbuilt :
      (built.parserAt held).Advances (Run.finishing workspace root base) chain still start) :
    ((Grammar.traced label built).parserAt held).Advances (Run.finishing workspace root base) chain
      still start := by
  intro before hfollows hbase
  have htraced (depth : Nat) : (Grammar.traced label built).parserAt held chain start depth before
      = (Run.demand .unprintable (before.textOf? held built) >>= fun text => do
          Run.noteEvent (.entered label text start)
          let outcome ← built.parserAt held chain start depth
          Run.noteEvent (.ofOutcome label outcome)
          return outcome : Run (Outcome Value)) before := rfl
  cases htext : before.textOf? held built with
  | none =>
      refine ⟨0, .error .unprintable before, fun more => ?_,
        .inr ⟨rfl, home?, label, part, hcomprises⟩⟩
      rw [htraced, htext]
      rfl
  | some text =>
      obtain ⟨depth, result, hresult, hfinishes⟩ :=
        hbuilt (before.modifyJournal _) (hfollows.modifyJournal _) hbase
      have hentered (more : Nat) :
          (Grammar.traced label built).parserAt held chain start (depth + more) before
            = (built.parserAt held chain start (depth + more) >>= fun outcome => do
                Run.noteEvent (.ofOutcome label outcome)
                return outcome : Run (Outcome Value))
              (before.modifyJournal fun journal =>
                { journal with events := .entered label text start :: journal.events }) := by
        rw [htraced, htext]
        rfl
      cases result with
      | error fault after =>
          refine ⟨depth, .error fault after, fun more => ?_, hfinishes⟩
          rw [hentered]
          exact Run.bind_of_error (hresult more)
      | ok outcome after =>
          obtain ⟨hfollows', hgrows, misses, honward⟩ := hfinishes
          refine ⟨depth, .ok outcome (after.modifyJournal fun journal =>
              { journal with events := .ofOutcome label outcome :: journal.events }),
            fun more => ?_, hfollows'.modifyJournal _, hgrows, misses, honward⟩
          rw [hentered]
          exact Run.bind_of_ok (hresult more)

theorem Workspace.Ends.enterAt {base : Workspace} {opened : Run (List Grammar × Grammar)}
    {still : Prop} (hlocal : opened.FailsLocally)
    (hopens : ∀ before part after, workspace.Follows root before → base.Grows before →
      opened before = .ok part after → ∃ home'? grammar',
        Linked workspace root home'? grammar' before part.2 after ∧
          workspace.Ends root chain start (home'?, grammar') ∧
            (workspace.Nullable root home'? grammar' → still)) :
    (Grammar.enterAt opened).Advances (Run.finishing workspace root base) chain still start := by
  intro before hfollows hbase
  cases hopened : opened before with
  | error fault after =>
      refine ⟨0, .error fault after, fun more => Run.bind_of_error hopened, .inl ?_⟩
      exact hlocal before fault after hopened
  | ok part between =>
      obtain ⟨home'?, grammar', hlinked, hends, hstill⟩ :=
        hopens before part between hfollows hbase hopened
      obtain ⟨depth, result, hresult, hfinishes⟩ :=
        hends between part.1 part.2 hlinked.builds between hlinked.follows (.refl between)
      refine ⟨depth + 1, result, fun more => ?_, ?_⟩
      · rw [Nat.add_right_comm]
        exact (Run.bind_of_ok hopened).trans (hresult more)
      · cases result with
        | error fault after => exact hfinishes
        | ok outcome after =>
            obtain ⟨hfollows', hgrows, misses, honward⟩ := hfinishes
            refine ⟨hfollows', hlinked.grows.trans hgrows, misses, fun candidate hmem => ?_⟩
            exact (honward candidate hmem).imp hstill

/-- A grammar ends from a cursor if what it left-calls ends from there, and everything from further
on. -/
theorem Workspace.Ends.of_leftCalls {node : Option Nat × Grammar}
    (hcomprises : workspace.Comprises root node.1 node.2)
    (hcalls : ∀ callee, workspace.LeftCalls root node callee →
      workspace.Ends root chain start callee)
    (hlater : ∀ later, chain.Reaches start later → later ≠ start → ∀ node : Option Nat × Grammar,
      workspace.Comprises root node.1 node.2 → workspace.Ends root chain later node) :
    workspace.Ends root chain start node := by
  obtain ⟨home?, grammar⟩ := node
  dsimp only at hcomprises
  -- a part that is left-called is entered where the whole is, and any part further on
  have hpart {part : Option Nat × Grammar} (hpart : workspace.Comprises root part.1 part.2)
      {called : Prop} (hcall : called → workspace.LeftCalls root (home?, grammar) part)
      {between : Cursor} (hbetween : chain.Onward called start between) :
      workspace.Ends root chain between part := by
    by_cases heq : between = start
    · rw [heq]
      exact hcalls part (hcall (hbetween.still heq))
    · exact hlater between hbetween.reaches heq part hpart
  have hopens {before after : Workspace} {built : Grammar}
      (h : Opens workspace root home? grammar before built after) : ∃ home'? grammar',
        Linked workspace root home'? grammar' before built after ∧
          workspace.Ends root chain start (home'?, grammar') ∧
            (workspace.Nullable root home'? grammar' → workspace.Nullable root home? grammar) := by
    obtain ⟨home'?, grammar', hstands, hlinked⟩ := h
    exact ⟨home'?, grammar', hlinked, hcalls _ (.standing hstands), .standing hstands⟩
  intro base held built hbuilds
  dsimp only at hbuilds ⊢
  cases hbuilds with
  | leaf => exact Leaf.advances _
  | @unary _ operator part built' hbuilds =>
      rw [Grammar.parserAt_unary]
      have hadvances (henters : operator.entersPart) (between : Cursor)
          (hbetween : chain.Reaches start between) :=
        hpart hcomprises.part (fun _ => .part henters) hbetween.onward base held _ hbuilds
      exact (Parser.Advances.unary hadvances).imp (Or.rec .operator .part)
  | @binary _ operator first second first' second' hfirst hsecond =>
      rw [Grammar.parserAt_binary]
      have hadvances (henters : operator.entersFirst) (between : Cursor)
          (hbetween : chain.Reaches start between) :=
        hpart hcomprises.first (fun _ => .first henters) hbetween.onward base held _ hfirst
      have hadvances' (henters : operator.entersSecond) (between : Cursor)
          (hbetween : chain.Onward
            (operator.isChoice ∨ workspace.Nullable root home? first) start between) :=
        hpart hcomprises.second (.second henters) hbetween base held _ hsecond
      refine (Parser.Advances.binary hadvances hadvances').imp ?_
      rintro (rfl | ⟨hends, hfirst⟩ | ⟨hchoice, hsecond⟩ | ⟨hfirst, hsecond⟩)
      · exact .noParts
      · exact .first hends hfirst
      · exact .second hchoice hsecond
      · exact .both hfirst hsecond
  | @bind _ part built' next next' hbuilds hnext =>
      rw [Grammar.parserAt_bind]
      have hselected (value : Value) (between : Cursor)
          (hbetween : chain.Onward (workspace.Nullable root home? part) start between) :
          (Grammar.enterAt (Grammar.alone held ((next'.select value).link none))).Advances
            (Run.finishing workspace root base) chain
            (workspace.Nullable root home? (next.select value)) between := by
        have hcomprises' := hcomprises.selected value
        refine Workspace.Ends.enterAt ?_ fun before opened after hfollows _ hopened => ?_
        · exact (Grammar.link_failsLocally _ _).bind fun _ => Run.failsLocally_pure _
        · obtain ⟨selected, _, hlink, hpure⟩ := Run.bind_eq_ok_iff.1 hopened
          obtain ⟨rfl, rfl⟩ := Run.pure_eq_ok_iff.1 hpure
          exact ⟨home?, _, Grammar.link_builds _ hcomprises' (hnext value) hfollows hlink,
            hpart hcomprises' (.selected value) hbetween, id⟩
      refine ((hcalls _ .selecting base held _ hbuilds).bind hselected).imp ?_
      exact fun ⟨hpart, value, hvalue⟩ => .bind value hpart hvalue
  | @traced _ label part built' hbuilds =>
      refine Run.advances_traced hcomprises ?_
      exact (hcalls _ (.standing (.unfolded rfl)) base held _ hbuilds).imp
        (.standing (.unfolded rfl))
  | deferred hpresents =>
      rw [Grammar.parserAt_deferred]
      refine Workspace.Ends.enterAt ?_ fun before opened after hfollows _ hopened => ?_
      · exact (Run.partContent_failsLocally _).bind fun _ => Run.failsLocally_pure _
      · obtain ⟨content, _, hcontent, hpure⟩ := Run.bind_eq_ok_iff.1 hopened
        obtain ⟨rfl, rfl⟩ := Run.pure_eq_ok_iff.1 hpure
        exact hopens (Run.partContent_builds hcomprises hpresents hfollows hcontent)
  | @opened _ place part waiting hplace hbody hpresents =>
      rw [Grammar.parserAt_linked]
      refine Workspace.Ends.enterAt (Link.opened_failsLocally held _)
        fun before opened after hfollows hbase hopened => hopens ?_
      exact Link.opened_cell_builds hcomprises hplace hbody hpresents hfollows hbase hopened
  | linked =>
      rw [Grammar.parserAt_linked]
      refine Workspace.Ends.enterAt (Link.opened_failsLocally held _)
        fun before opened after hfollows _ hopened => ?_
      exact hopens (Link.opened_builds hcomprises hfollows hopened)
  | standing _ hstands hbuilds =>
      exact (hcalls _ (.standing hstands) base held _ hbuilds).imp (.standing hstands)
  | named | siblingOr | shared | deferredOnce =>
      exact Run.finishing_throw rfl fun depth before => rfl

/-- Without left recursion everything ends, by induction on the tokens that are left and on the left
calls that are possible before the next of them is read. -/
theorem Workspace.NoLeftRecursion.ends (h : workspace.NoLeftRecursion root)
    {node : Option Nat × Grammar} (hcomprises : workspace.Comprises root node.1 node.2) :
    workspace.Ends root chain start node := by
  induction hremaining : chain.remaining start using Nat.strong_induction_on
    generalizing start node with
  | _ remaining ihlater =>
      have hcalls := h.leftCallsEnd hcomprises
      induction hcalls with
      | intro node _ ihcalls =>
          refine .of_leftCalls hcomprises (fun callee hcall => ?_)
            fun later hreaches hne node hnode => ?_
          · exact ihcalls callee hcall (hcomprises.leftCall hcall)
          · exact ihlater _ (hremaining ▸ hreaches.remaining_lt hne) hnode rfl

end Ends

/-! ### Repetitions run out -/

namespace Run

variable {α β : Type}

def results : Observation Run where
  Yields run post := ∀ before a after, run before = .ok a after → ∃ misses, post misses a
  pure := exists_misses_of_pure
  bind := exists_misses_of_bind

theorem bind_congr_of_yields {run : Run α} {next next' : α → Run β}
    {post : List Diagnostic → α → Prop} (hrun : results.Yields run post)
    (hnext : ∀ misses a, post misses a → next a = next' a) : run >>= next = run >>= next' := by
  funext before
  cases hresult : run before with
  | error fault after => rw [bind_of_error hresult, bind_of_error hresult]
  | ok a after =>
      obtain ⟨misses, ha⟩ := hrun before a after hresult
      rw [bind_of_ok hresult, bind_of_ok hresult, hnext misses a ha]

end Run

namespace Parser

variable {α : Type} {chain : Chain}

/-- That a repetition is never cut short: more levels than it is allowed to explore change nothing,
and neither do more levels to climb. -/
def RunsOut (p : Parser Run α) (chain : Chain) : Prop :=
  ∀ start more,
    p.explore chain (chain.remaining start + 1 + more) [.still start []] [] none
        = p.explore chain (chain.remaining start + 1) [.still start []] [] none ∧
      p.climb chain (chain.remaining start + 1 + more) [.still start []] none
        = p.climb chain (chain.remaining start + 1) [.still start []] none

/-- That a level of runs is followed by no more than a number of levels. -/
def LeavesWithin (chain : Chain) (levels : Nat) (level : List (Candidate (List α))) : Prop :=
  ∀ run ∈ level, chain.remaining run.stop < levels

theorem leavesWithin_still (start : Cursor) :
    LeavesWithin chain (chain.remaining start + 1) [(.still start [] : Candidate (List α))] := by
  intro run hrun
  rw [List.mem_singleton.1 hrun]
  exact Nat.lt_succ_self _

theorem LeavesWithin.eq_nil {level : List (Candidate (List α))} (h : LeavesWithin chain 0 level) :
    level = [] :=
  List.eq_nil_iff_forall_not_mem.2 fun run hrun => Nat.not_lt_zero _ (h run hrun)

variable {p : Parser Run α}

theorem leavesWithin_advancing {levels : Nat} {level : List (Candidate (List α))}
    {later : List Diagnostic} {steps : Steps α}
    (hlevel : LeavesWithin chain (levels + 1) level)
    (hsteps : Collected (Observation.StepOf fun start _ outcome =>
      ∀ candidate ∈ outcome.candidates, chain.Reaches start candidate.stop) level later steps) :
    LeavesWithin chain levels steps.advancing := by
  intro next hnext
  obtain ⟨step, hstep, hnext⟩ := List.mem_flatMap.1 hnext
  obtain ⟨candidate, hcandidate, rfl⟩ := List.mem_map.1 hnext
  obtain ⟨hcandidate, hmoves⟩ := List.mem_filter.1 hcandidate
  obtain ⟨run, hrun, _, rfl, hreaches⟩ := hsteps.exists_of_mem_right hstep
  have hlt := (hreaches candidate hcandidate).remaining_lt (bne_iff_ne.1 hmoves)
  exact Nat.lt_of_lt_of_le hlt (Nat.le_of_lt_succ (hlevel _ hrun))

variable (hp : ∀ start, Run.results.Yields (p chain start) fun _ outcome =>
  ∀ candidate ∈ outcome.candidates, chain.Reaches start candidate.stop)

include hp

theorem stepAll_reaches (level : List (Candidate (List α))) :
    Run.results.Yields (p.stepAll chain level) (Collected (Observation.StepOf fun start _ outcome =>
      ∀ candidate ∈ outcome.candidates, chain.Reaches start candidate.stop) level) :=
  Run.results.yields_stepAll fun run _ => hp run.stop

theorem explore_add (more levels : Nat) :
    ∀ {level : List (Candidate (List α))} {explored : List (Candidate (List α))}
      {seen : Option Diagnostic}, LeavesWithin chain levels level →
      p.explore chain (levels + more) level explored seen
        = p.explore chain levels level explored seen := by
  induction levels with
  | zero =>
      intro level explored seen hlevel
      obtain rfl := hlevel.eq_nil
      cases more with
      | zero => rfl
      | succ more => rfl
  | succ levels ih =>
      intro level explored seen hlevel
      rw [Nat.add_right_comm, Parser.explore, Parser.explore]
      split
      · rfl
      · refine Run.bind_congr_of_yields (stepAll_reaches hp level) fun later steps hsteps => ?_
        exact ih (leavesWithin_advancing hlevel hsteps)

theorem climb_add (more levels : Nat) :
    ∀ {level : List (Candidate (List α))} {seen : Option Diagnostic},
      LeavesWithin chain levels level →
      p.climb chain (levels + more) level seen = p.climb chain levels level seen := by
  induction levels with
  | zero =>
      intro level seen hlevel
      obtain rfl := hlevel.eq_nil
      cases more with
      | zero => rfl
      | succ more => rfl
  | succ levels ih =>
      intro level seen hlevel
      rw [Nat.add_right_comm, Parser.climb, Parser.climb]
      refine Run.bind_congr_of_yields (stepAll_reaches hp level) fun later steps hsteps => ?_
      split
      · rfl
      · exact ih (leavesWithin_advancing hlevel hsteps)

theorem runsOut : p.RunsOut chain := by
  intro start more
  exact ⟨explore_add hp more _ (leavesWithin_still start),
    climb_add hp more _ (leavesWithin_still start)⟩

end Parser

/-- Every candidate of a grammar is further on, so repeating a grammar runs out. -/
theorem Grammar.parseWithin_runsOut (grammar : Grammar) (depth : Nat) (held : List Grammar)
    (chain : Chain) : (grammar.parseWithin depth held).RunsOut chain := by
  refine Parser.runsOut fun start before outcome after hrun => ⟨[], fun candidate hmem => ?_⟩
  exact (Grammar.reaches_of_parseWithin hrun candidate hmem).2

/-! ### Parses -/

/-- **Every grammar without left recursion ends**, on every chain and from every cursor: from some
depth on the result is always the same, and if it is a fault, then one that lies at one place of the
grammar, or a traced part turned out to have no representation. Repetitions, be it of grammars that
read nothing, end because they run out, and not because they are cut short. -/
theorem Grammar.ends_of_noLeftRecursion {workspace : Workspace} {root : Grammar}
    (h : workspace.NoLeftRecursion root) (held : List Grammar) (chain : Chain) (start : Cursor) :
    (∃ depth result,
      (∀ more, root.parseWithin (depth + more) held chain start workspace = result) ∧
        ∀ fault after, result = .error fault after → workspace.MayMeet root fault) ∧
      ∀ (grammar : Grammar) (depth : Nat) (held : List Grammar),
        (grammar.parseWithin depth held).RunsOut chain := by
  refine ⟨?_, fun grammar depth held => grammar.parseWithin_runsOut depth held chain⟩
  have hends : workspace.Ends root chain start (none, root) := h.ends .root
  obtain ⟨depth, result, hresult, hfinishes⟩ :=
    hends workspace held root (.refl _ root) workspace (.refl workspace root) (.refl workspace)
  refine ⟨depth + 1, result, fun more => ?_, fun fault after hfault => ?_⟩
  · rw [Nat.add_right_comm]
    exact hresult more
  · rw [hfault] at hfinishes
    exact hfinishes

section Letters

/-- Letters, by a rule that refers to itself behind a token, and may also read nothing. -/
private def lettersPattern : Grammar :=
  .binary .either (.binary .seqRight (.leaf (.literal "a")) (.linked (.rule 0))) (.leaf .nothing)

private def lettersWorkspace : Workspace := { slots := #[some lettersPattern] }

private def repeatedLetters : Grammar := .unary .manyLongestFirst (.linked (.rule 0))

/-- What repeated letters comprise, from the repetition down to the leaves. -/
private inductive LettersPart : Grammar → Nat → Prop
  | repeated : LettersPart repeatedLetters 4
  | linked : LettersPart (.linked (.rule 0)) 3
  | pattern : LettersPart lettersPattern 2
  | step : LettersPart (.binary .seqRight (.leaf (.literal "a")) (.linked (.rule 0))) 1
  | first : LettersPart (.leaf (.literal "a")) 0
  | none : LettersPart (.leaf .nothing) 0

private theorem exists_lettersPart {home? : Option Nat} {grammar : Grammar}
    (h : lettersWorkspace.Comprises repeatedLetters home? grammar) :
    ∃ rank, LettersPart grammar rank := by
  induction h with
  | root => exact ⟨4, .repeated⟩
  | part _ ih =>
      obtain ⟨_, hpart⟩ := ih
      cases hpart with
      | repeated => exact ⟨3, .linked⟩
  | first _ ih =>
      obtain ⟨_, hpart⟩ := ih
      cases hpart with
      | pattern => exact ⟨1, .step⟩
      | step => exact ⟨0, .first⟩
  | second _ ih =>
      obtain ⟨_, hpart⟩ := ih
      cases hpart with
      | pattern => exact ⟨0, .none⟩
      | step => exact ⟨3, .linked⟩
  | selecting _ ih =>
      obtain ⟨_, hpart⟩ := ih
      cases hpart
  | selected _ _ ih =>
      obtain ⟨_, hpart⟩ := ih
      cases hpart
  | unfolded _ hmeaning ih =>
      obtain ⟨_, hpart⟩ := ih
      cases hpart with
      | linked =>
          cases hmeaning
          exact ⟨2, .pattern⟩
      | _ => cases hmeaning

private theorem LettersPart.unique {grammar : Grammar} {rank rank' : Nat}
    (h : LettersPart grammar rank) (h' : LettersPart grammar rank') : rank' = rank := by
  cases h <;> cases h' <;> rfl

private theorem LettersPart.leftCall {root : Grammar} {caller callee : Option Nat × Grammar}
    {rank : Nat} (h : LettersPart caller.2 rank)
    (hcall : lettersWorkspace.LeftCalls root caller callee) :
    ∃ rank' < rank, LettersPart callee.2 rank' := by
  obtain ⟨home?, grammar⟩ := caller
  have hfirst : ¬ lettersWorkspace.Nullable root home? (.leaf (.literal "a")) := by
    intro hnullable
    cases hnullable with
    | standing hstands => cases hstands with
      | unfolded hmeaning => cases hmeaning
  cases h with
  | repeated =>
      obtain rfl := hcall.of_unary
      exact ⟨3, by decide, .linked⟩
  | linked =>
      cases hcall with
      | standing hstands => cases hstands with
        | unfolded hmeaning =>
            cases hmeaning
            exact ⟨2, by decide, .pattern⟩
  | pattern =>
      obtain rfl | ⟨rfl, _⟩ := hcall.of_binary
      · exact ⟨1, by decide, .step⟩
      · exact ⟨0, by decide, .none⟩
  | step =>
      obtain rfl | ⟨rfl, hbefore⟩ := hcall.of_binary
      · exact ⟨0, by decide, .first⟩
      · exact absurd (hbefore.resolve_left (nomatch ·)) hfirst
  | first | none => exact (Workspace.not_leftCalls_leaf hcall).elim

private theorem noLeftRecursion_repeatedLetters :
    lettersWorkspace.NoLeftRecursion repeatedLetters := by
  intro home? reference hcomprises _ hcycle
  obtain ⟨rank, hpart⟩ := exists_lettersPart hcomprises
  have hless : ∀ node, Relation.TransGen (lettersWorkspace.LeftCalls repeatedLetters)
      (home?, reference) node → ∃ rank' < rank, LettersPart node.2 rank' := by
    intro node hcalls
    induction hcalls with
    | single hcall => exact hpart.leftCall hcall
    | tail _ hcall ih =>
        obtain ⟨rank', hlt, hpart'⟩ := ih
        obtain ⟨rank'', hlt', hpart''⟩ := hpart'.leftCall hcall
        exact ⟨rank'', hlt'.trans hlt, hpart''⟩
  obtain ⟨rank', hlt, hpart'⟩ := hless _ hcycle
  exact Nat.ne_of_lt hlt (hpart.unique hpart')

theorem Grammar.ends_repeated_letters :
    ∃ (workspace : Workspace) (repeated : Grammar), workspace.NoLeftRecursion repeated ∧
      ∃ depth result, (∀ more, repeated.parseWithin (depth + more) []
          #[⟨"letter", "a", ⟨0, 1, 1, 1, 2⟩⟩] 0 workspace = result) ∧
        ∀ fault after, result = .error fault after → workspace.MayMeet repeated fault :=
  ⟨lettersWorkspace, repeatedLetters, noLeftRecursion_repeatedLetters,
    (Grammar.ends_of_noLeftRecursion noLeftRecursion_repeatedLetters [] _ 0).1⟩

end Letters

end TokenGrammar
