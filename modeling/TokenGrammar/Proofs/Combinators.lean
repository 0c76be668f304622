import TokenGrammar.Proofs.Observation
import TokenGrammar.Parser.Choice
import TokenGrammar.Parser.Group
import TokenGrammar.Parser.Recover
import TokenGrammar.Parser.Repeat

/-!
# Rules for the combinators

What a combinator yields, in terms of what its parts yield: one rule for each, in every monad and
for every notion of observation. A rule takes a combinator apart into outcomes of its parts and the
function that puts them together; the properties of outcomes that are proved elsewhere never look at
a monad again. Repetitions have loop rules, which ask for an invariant of what a level holds.
-/

namespace TokenGrammar

namespace Observation

variable {m : Type → Type} [Monad m] (observation : Observation m) {α β : Type}
  {chain : Chain} {start : Cursor}

theorem yields_map {p : Parser m α} {f : α → β} {given : List Diagnostic → Outcome α → Prop}
    {post : List Diagnostic → Outcome β → Prop} (hp : observation.Yields (p chain start) given)
    (h : ∀ misses outcome, given misses outcome → post misses (outcome.map f)) :
    observation.Yields (p.map f chain start) post :=
  observation.map hp h

theorem yields_mapCandidate {p : Parser m α} {f : Chain → Candidate α → β}
    {given : List Diagnostic → Outcome α → Prop} {post : List Diagnostic → Outcome β → Prop}
    (hp : observation.Yields (p chain start) given)
    (h : ∀ misses outcome, given misses outcome → post misses
      (outcome.mapCandidates (·.map fun candidate => candidate.map fun _ => f chain candidate))) :
    observation.Yields (p.mapCandidate f chain start) post :=
  observation.map hp h

theorem yields_either {p q : Parser m α} {given given' post : List Diagnostic → Outcome α → Prop}
    (hp : observation.Yields (p chain start) given)
    (hq : observation.Yields (q chain start) given')
    (h : ∀ misses first later second, given misses first → given' later second →
      post (misses ++ later) (.settle chain start (first.candidates ++ second.candidates)
        (Diagnostic.furthest first.diagnostic? second.diagnostic?))) :
    observation.Yields (p.either q chain start) post :=
  observation.bind hp fun misses first hfirst =>
    observation.map hq fun later second hsecond => h misses first later second hfirst hsecond

theorem yields_orElse {p q : Parser m α} {given given' post : List Diagnostic → Outcome α → Prop}
    (hp : observation.Yields (p chain start) given)
    (hq : observation.Yields (q chain start) given')
    (hfirst : ∀ misses candidates carried?, given misses (.success candidates carried?) →
      post misses (.success candidates carried?))
    (hsecond : ∀ misses diagnostic later candidates carried?,
      given misses (.failure diagnostic) → given' later (.success candidates carried?) →
      post (misses ++ later) (.success candidates (Diagnostic.furthest (some diagnostic) carried?)))
    (hneither : ∀ misses diagnostic later diagnostic',
      given misses (.failure diagnostic) → given' later (.failure diagnostic') →
      post (misses ++ later) (.failure (diagnostic.further diagnostic'))) :
    observation.Yields (p.orElse q chain start) post := by
  refine observation.bind hp fun misses first hgiven => ?_
  cases first with
  | success candidates carried? =>
      exact observation.pure_behind (hfirst misses candidates carried? hgiven)
  | failure diagnostic =>
      refine observation.bind hq fun later second hgiven' => ?_
      cases second with
      | success candidates carried? =>
          refine observation.pure ?_
          rw [List.append_nil]
          exact hsecond misses diagnostic later candidates carried? hgiven hgiven'
      | failure diagnostic' =>
          refine observation.pure ?_
          rw [List.append_nil]
          exact hneither misses diagnostic later diagnostic' hgiven hgiven'

theorem yields_optional {p : Parser m α} {given : List Diagnostic → Outcome α → Prop}
    {post : List Diagnostic → Outcome (Option α) → Prop}
    (hp : observation.Yields (p chain start) given)
    (h : ∀ misses outcome, given misses outcome → post misses
      (.success (outcome.candidates.map (·.map some) ++ [.still start none]) outcome.diagnostic?)) :
    observation.Yields (p.optional chain start) post :=
  observation.map hp h

theorem yields_optionalGreedy {p : Parser m α} {given : List Diagnostic → Outcome α → Prop}
    {post : List Diagnostic → Outcome (Option α) → Prop}
    (hp : observation.Yields (p chain start) given)
    (hpresent : ∀ misses candidates carried?, given misses (.success candidates carried?) →
      post misses ((Outcome.success candidates carried?).map some))
    (habsent : ∀ misses diagnostic, given misses (.failure diagnostic) →
      post misses (.success [.still start none] (some diagnostic))) :
    observation.Yields (p.optionalGreedy chain start) post := by
  refine observation.bind hp fun misses outcome hgiven => ?_
  cases outcome with
  | success candidates carried? =>
      exact observation.pure_behind (hpresent misses candidates carried? hgiven)
  | failure diagnostic =>
      exact observation.pure_behind (habsent misses diagnostic hgiven)

theorem yields_grouped {p : Parser m α} {given : List Diagnostic → Outcome α → Prop}
    {post : List Diagnostic → Outcome (List α) → Prop}
    (hp : observation.Yields (p chain start) given)
    (h : ∀ misses outcome, given misses outcome →
      post misses (outcome.mapCandidates groupByStop)) :
    observation.Yields (p.grouped chain start) post :=
  observation.map hp h

theorem yields_relabel {p : Parser m α} {message : String}
    {given post : List Diagnostic → Outcome α → Prop}
    (hp : observation.Yields (p chain start) given)
    (hsuccess : ∀ misses candidates carried?, given misses (.success candidates carried?) →
      post misses (.success candidates carried?))
    (hfailure : ∀ misses diagnostic, given misses (.failure diagnostic) →
      post misses (.failure (diagnostic.relabelled message))) :
    observation.Yields (p.relabel message chain start) post := by
  refine observation.bind hp fun misses outcome hgiven => ?_
  cases outcome with
  | success candidates carried? =>
      exact observation.pure_behind (hsuccess misses candidates carried? hgiven)
  | failure diagnostic =>
      exact observation.pure_behind (hfailure misses diagnostic hgiven)

theorem yields_recover {p : Parser m α} {message : String} {value : α}
    {given post : List Diagnostic → Outcome α → Prop}
    (hp : observation.Yields (p chain start) given)
    (hsuccess : ∀ misses candidates carried?, given misses (.success candidates carried?) →
      post misses (.success candidates carried?))
    (hfailure : ∀ misses diagnostic, given misses (.failure diagnostic) →
      post misses (.success [.still start value] (some (diagnostic.relabelled message)))) :
    observation.Yields (p.recover message value chain start) post := by
  refine observation.bind hp fun misses outcome hgiven => ?_
  cases outcome with
  | success candidates carried? =>
      exact observation.pure_behind (hsuccess misses candidates carried? hgiven)
  | failure diagnostic =>
      exact observation.pure_behind (hfailure misses diagnostic hgiven)

variable [LawfulMonad m]

/-! ### Sequences

The second part is entered where a candidate of the first one ends, and nowhere else. -/

theorem yields_bind_of_mem {p : Parser m α} {next : α → Parser m β}
    {given : List Diagnostic → Outcome α → Prop}
    (given' : α → Cursor → List Diagnostic → Outcome β → Prop)
    {post : List Diagnostic → Outcome β → Prop}
    (hp : observation.Yields (p chain start) given)
    (hnext : ∀ {misses firsts}, given misses firsts → ∀ first ∈ firsts.candidates,
      observation.Yields (next first.value chain first.stop) (given' first.value first.stop))
    (h : ∀ misses firsts later parts, given misses firsts →
      Collected (fun first => given' first.value first.stop) firsts.candidates later parts →
      post (misses ++ later) (.gather chain start firsts.diagnostic? parts)) :
    observation.Yields (p.bind next chain start) post :=
  observation.bind hp fun misses firsts hfirsts =>
    observation.map (observation.mapM (hnext hfirsts))
      fun later parts hparts => h misses firsts later parts hfirsts hparts

/-- The rule for a second part that may be entered anywhere. -/
theorem yields_bind {p : Parser m α} {next : α → Parser m β}
    {given : List Diagnostic → Outcome α → Prop}
    {given' : α → Cursor → List Diagnostic → Outcome β → Prop}
    {post : List Diagnostic → Outcome β → Prop}
    (hp : observation.Yields (p chain start) given)
    (hnext : ∀ value start, observation.Yields (next value chain start) (given' value start))
    (h : ∀ misses firsts later parts, given misses firsts →
      Collected (fun first => given' first.value first.stop) firsts.candidates later parts →
      post (misses ++ later) (.gather chain start firsts.diagnostic? parts)) :
    observation.Yields (p.bind next chain start) post :=
  observation.yields_bind_of_mem given' hp (fun _ first _ => hnext first.value first.stop) h

theorem yields_seq_of_mem {p : Parser m α} {q : Parser m β}
    {given : List Diagnostic → Outcome α → Prop}
    (given' : Cursor → List Diagnostic → Outcome β → Prop)
    {post : List Diagnostic → Outcome (α × β) → Prop}
    (hp : observation.Yields (p chain start) given)
    (hq : ∀ {misses firsts}, given misses firsts → ∀ first ∈ firsts.candidates,
      observation.Yields (q chain first.stop) (given' first.stop))
    (h : ∀ misses firsts later parts, given misses firsts →
      Collected (fun first misses part => ∃ seconds, given' first.stop misses seconds ∧
        part = seconds.map fun value => (first.value, value)) firsts.candidates later parts →
      post (misses ++ later) (.gather chain start firsts.diagnostic? parts)) :
    observation.Yields (p.seq q chain start) post := by
  refine observation.bind hp fun misses firsts hfirsts => ?_
  refine observation.map (observation.mapM fun first hmem => ?_)
    fun later parts hparts => h misses firsts later parts hfirsts hparts
  exact observation.map (hq hfirsts first hmem) fun later seconds hseconds =>
    ⟨seconds, hseconds, rfl⟩

theorem yields_seq {p : Parser m α} {q : Parser m β} {given : List Diagnostic → Outcome α → Prop}
    {given' : Cursor → List Diagnostic → Outcome β → Prop}
    {post : List Diagnostic → Outcome (α × β) → Prop}
    (hp : observation.Yields (p chain start) given)
    (hq : ∀ start, observation.Yields (q chain start) (given' start))
    (h : ∀ misses firsts later parts, given misses firsts →
      Collected (fun first misses part => ∃ seconds, given' first.stop misses seconds ∧
        part = seconds.map fun value => (first.value, value)) firsts.candidates later parts →
      post (misses ++ later) (.gather chain start firsts.diagnostic? parts)) :
    observation.Yields (p.seq q chain start) post :=
  observation.yields_seq_of_mem given' hp (fun _ first _ => hq first.stop) h

/-! ### Repetitions

The step is entered where a run of the level ends. -/

def StepOf (given : Cursor → List Diagnostic → Outcome α → Prop) (run : Candidate (List α))
    (misses : List Diagnostic) (step : Candidate (List α) × Outcome α) : Prop :=
  step.1 = run ∧ given run.stop misses step.2

theorem yields_stepAll {p : Parser m α} {given : Cursor → List Diagnostic → Outcome α → Prop}
    {runs : List (Candidate (List α))}
    (hp : ∀ run ∈ runs, observation.Yields (p chain run.stop) (given run.stop)) :
    observation.Yields (Parser.stepAll p chain runs) (Collected (StepOf given) runs) :=
  observation.mapM fun run hrun =>
    observation.map (hp run hrun) fun _ _ houtcome => ⟨rfl, houtcome⟩

/-- Exploring by levels keeps an invariant of the number of steps, the level, what was explored
before, the diagnostic so far and the misses so far. In the end a level is empty, or as many levels
were explored as allowed. -/
theorem yields_explore_of_mem {p : Parser m α}
    (given : Cursor → List Diagnostic → Outcome α → Prop)
    (invariant : Nat → List (Candidate (List α)) → List (Candidate (List α)) →
      Option Diagnostic → List Diagnostic → Prop)
    (hp : ∀ {count level explored seen misses}, invariant count level explored seen misses →
      ∀ run ∈ level, observation.Yields (p chain run.stop) (given run.stop))
    (hstep : ∀ {count level explored seen misses later steps},
      invariant count level explored seen misses → Collected (StepOf given) level later steps →
      invariant (count + 1) (Steps.advancing steps) (level.reverse ++ explored)
        (Steps.diagnosticAfter seen steps) (misses ++ later)) (levels : Nat) :
    ∀ (count : Nat) (misses : List Diagnostic) {level explored seen},
      invariant count level explored seen misses →
      observation.Yields (Parser.explore p chain levels level explored seen) fun later result =>
        ∃ count' level' explored', invariant count' level' explored' result.2 (misses ++ later) ∧
          result.1 = level'.reverse ++ explored' ∧ (level' = [] ∨ count' = count + levels) := by
  induction levels with
  | zero =>
      intro count misses level explored seen hinvariant
      refine observation.pure ⟨count, level, explored, ?_, rfl, .inr rfl⟩
      rwa [List.append_nil]
  | succ levels ih =>
      intro count misses level explored seen hinvariant
      rw [Parser.explore]
      split
      · rename_i hempty
        obtain rfl := List.isEmpty_iff.1 hempty
        refine observation.pure ⟨count, [], explored, ?_, rfl, .inl rfl⟩
        rwa [List.append_nil]
      · have hsteps := observation.yields_stepAll (hp hinvariant)
        refine observation.bind hsteps fun later steps hsteps => ?_
        refine observation.weaken (ih _ _ (hstep hinvariant hsteps)) fun last result hresult => ?_
        obtain ⟨count', level', explored', hinvariant', hresult, hend⟩ := hresult
        refine ⟨count', level', explored', ?_, hresult, hend.imp_right fun hcount => ?_⟩
        · rwa [← List.append_assoc]
        · omega

theorem yields_explore {p : Parser m α} {given : Cursor → List Diagnostic → Outcome α → Prop}
    (hp : ∀ start, observation.Yields (p chain start) (given start))
    (invariant : Nat → List (Candidate (List α)) → List (Candidate (List α)) →
      Option Diagnostic → List Diagnostic → Prop)
    (hstep : ∀ {count level explored seen misses later steps},
      invariant count level explored seen misses → Collected (StepOf given) level later steps →
      invariant (count + 1) (Steps.advancing steps) (level.reverse ++ explored)
        (Steps.diagnosticAfter seen steps) (misses ++ later)) (levels : Nat) :
    ∀ (count : Nat) (misses : List Diagnostic) {level explored seen},
      invariant count level explored seen misses →
      observation.Yields (Parser.explore p chain levels level explored seen) fun later result =>
        ∃ count' level' explored', invariant count' level' explored' result.2 (misses ++ later) ∧
          result.1 = level'.reverse ++ explored' ∧ (level' = [] ∨ count' = count + levels) :=
  observation.yields_explore_of_mem given invariant (fun _ run _ => hp run.stop) hstep levels

/-- Climbing keeps an invariant of the level, the diagnostic so far and the misses so far. -/
theorem yields_climb_of_mem {p : Parser m α}
    (given : Cursor → List Diagnostic → Outcome α → Prop)
    (invariant : List (Candidate (List α)) → Option Diagnostic → List Diagnostic → Prop)
    (hp : ∀ {level seen misses}, invariant level seen misses →
      ∀ run ∈ level, observation.Yields (p chain run.stop) (given run.stop))
    (hstep : ∀ {level seen misses later steps}, invariant level seen misses →
      Collected (StepOf given) level later steps → Steps.advancing steps ≠ [] →
      invariant (Steps.advancing steps) (Steps.diagnosticAfter seen steps) (misses ++ later))
    (hstop : ∀ {level seen misses later steps}, invariant level seen misses →
      Collected (StepOf given) level later steps → Steps.advancing steps = [] →
      invariant level (Steps.diagnosticAfter seen steps) (misses ++ later)) (levels : Nat) :
    ∀ (misses : List Diagnostic) {level seen}, invariant level seen misses →
      observation.Yields (Parser.climb p chain levels level seen) fun later result =>
        invariant result.1 result.2 (misses ++ later) := by
  induction levels with
  | zero =>
      intro misses level seen hinvariant
      refine observation.pure ?_
      rwa [List.append_nil]
  | succ levels ih =>
      intro misses level seen hinvariant
      have hsteps := observation.yields_stepAll (hp hinvariant)
      refine observation.bind hsteps fun later steps hsteps => ?_
      split
      · rename_i hempty
        refine observation.pure ?_
        rw [List.append_nil]
        exact hstop hinvariant hsteps (List.isEmpty_iff.1 hempty)
      · rename_i hmore
        have hnext := hstep hinvariant hsteps fun hempty => hmore (List.isEmpty_iff.2 hempty)
        refine observation.weaken (ih _ hnext) fun last result hresult => ?_
        rwa [← List.append_assoc]

theorem yields_climb {p : Parser m α} {given : Cursor → List Diagnostic → Outcome α → Prop}
    (hp : ∀ start, observation.Yields (p chain start) (given start))
    (invariant : List (Candidate (List α)) → Option Diagnostic → List Diagnostic → Prop)
    (hstep : ∀ {level seen misses later steps}, invariant level seen misses →
      Collected (StepOf given) level later steps → Steps.advancing steps ≠ [] →
      invariant (Steps.advancing steps) (Steps.diagnosticAfter seen steps) (misses ++ later))
    (hstop : ∀ {level seen misses later steps}, invariant level seen misses →
      Collected (StepOf given) level later steps → Steps.advancing steps = [] →
      invariant level (Steps.diagnosticAfter seen steps) (misses ++ later)) (levels : Nat) :
    ∀ (misses : List Diagnostic) {level seen}, invariant level seen misses →
      observation.Yields (Parser.climb p chain levels level seen) fun later result =>
        invariant result.1 result.2 (misses ++ later) :=
  observation.yields_climb_of_mem given invariant (fun _ run _ => hp run.stop) hstep hstop levels

/-- A fixed number of steps keeps an invariant of the steps left, the level, the diagnostic so far
and the misses so far, until there are no steps left, or no runs. -/
theorem yields_exactlyFrom_of_mem {p : Parser m α}
    (given : Cursor → List Diagnostic → Outcome α → Prop)
    (invariant : Nat → List (Candidate (List α)) → Option Diagnostic → List Diagnostic → Prop)
    (hp : ∀ {count level seen misses}, invariant (count + 1) level seen misses →
      ∀ run ∈ level, observation.Yields (p chain run.stop) (given run.stop))
    (post : List Diagnostic → Outcome (List α) → Prop)
    (hstep : ∀ {count level seen misses later steps}, invariant (count + 1) level seen misses →
      Collected (StepOf given) level later steps → Steps.all steps ≠ [] →
      invariant count (Steps.all steps) (Steps.diagnosticAfter seen steps) (misses ++ later))
    (hfail : ∀ {count level seen misses later steps}, invariant (count + 1) level seen misses →
      Collected (StepOf given) level later steps → Steps.all steps = [] →
      post (misses ++ later) (.settle chain start [] (Steps.diagnosticAfter seen steps)))
    (hend : ∀ {level seen misses}, invariant 0 level seen misses →
      post misses (.success (level.map (·.inOrder)) seen)) (count : Nat) :
    ∀ (misses : List Diagnostic) {level seen}, invariant count level seen misses →
      observation.Yields (Parser.exactlyFrom p chain start count level seen) fun later outcome =>
        post (misses ++ later) outcome := by
  induction count with
  | zero =>
      intro misses level seen hinvariant
      exact observation.pure_behind (hend hinvariant)
  | succ count ih =>
      intro misses level seen hinvariant
      have hsteps := observation.yields_stepAll (hp hinvariant)
      refine observation.bind hsteps fun later steps hsteps => ?_
      split
      · rename_i hempty
        refine observation.pure ?_
        rw [List.append_nil]
        exact hfail hinvariant hsteps (List.isEmpty_iff.1 hempty)
      · rename_i hmore
        have hnext := hstep hinvariant hsteps fun hempty => hmore (List.isEmpty_iff.2 hempty)
        refine observation.weaken (ih _ hnext) fun last outcome houtcome => ?_
        rwa [← List.append_assoc]

theorem yields_exactlyFrom {p : Parser m α} {given : Cursor → List Diagnostic → Outcome α → Prop}
    (hp : ∀ start, observation.Yields (p chain start) (given start))
    (invariant : Nat → List (Candidate (List α)) → Option Diagnostic → List Diagnostic → Prop)
    (post : List Diagnostic → Outcome (List α) → Prop)
    (hstep : ∀ {count level seen misses later steps}, invariant (count + 1) level seen misses →
      Collected (StepOf given) level later steps → Steps.all steps ≠ [] →
      invariant count (Steps.all steps) (Steps.diagnosticAfter seen steps) (misses ++ later))
    (hfail : ∀ {count level seen misses later steps}, invariant (count + 1) level seen misses →
      Collected (StepOf given) level later steps → Steps.all steps = [] →
      post (misses ++ later) (.settle chain start [] (Steps.diagnosticAfter seen steps)))
    (hend : ∀ {level seen misses}, invariant 0 level seen misses →
      post misses (.success (level.map (·.inOrder)) seen)) (count : Nat) :
    ∀ (misses : List Diagnostic) {level seen}, invariant count level seen misses →
      observation.Yields (Parser.exactlyFrom p chain start count level seen) fun later outcome =>
        post (misses ++ later) outcome :=
  observation.yields_exactlyFrom_of_mem given invariant (fun _ run _ => hp run.stop) post hstep
    hfail hend count

end Observation

end TokenGrammar
