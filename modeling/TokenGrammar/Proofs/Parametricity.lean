import TokenGrammar.Grammar.Operators
import Mathlib.Data.List.Forall2

/-!
# Combinators on related values

Combinators move values about without looking at them, and they look at diagnostics only to find the
furthest one, which is no more than another diagnostic. So where the parts of two parsers have
related values over the same stretches, in the same order, the wholes have too, whatever the
relation and whatever the diagnostics are. The two parsers may run in different monads and on
different chains of one length; how their runs are related is left open (`Lockstep`).
-/

namespace TokenGrammar

variable {α α' β β' : Type}

/-! ### Related outcomes -/

/-- Candidates over the same stretch with related values. -/
structure Candidate.Alike (R : α → α' → Prop) (candidate : Candidate α)
    (candidate' : Candidate α') : Prop where
  start : candidate.start = candidate'.start
  stop : candidate.stop = candidate'.stop
  value : R candidate.value candidate'.value

/-- Candidates that are related one by one, in the same order. -/
abbrev Candidate.AllAlike (R : α → α' → Prop) :
    List (Candidate α) → List (Candidate α') → Prop :=
  List.Forall₂ (Candidate.Alike R)

/-- Successes with related candidates, or two failures. Diagnostics may be any. -/
inductive Outcome.Alike (R : α → α' → Prop) : Outcome α → Outcome α' → Prop where
  | success {candidates : List (Candidate α)} {candidates' : List (Candidate α')}
      (carried? carried'? : Option Diagnostic)
      (hcandidates : Candidate.AllAlike R candidates candidates') :
      Alike R (.success candidates carried?) (.success candidates' carried'?)
  | failure (diagnostic diagnostic' : Diagnostic) :
      Alike R (.failure diagnostic) (.failure diagnostic')

def BothRelated (R : α → α' → Prop) (S : β → β' → Prop) (pair : α × β) (pair' : α' × β') : Prop :=
  R pair.1 pair'.1 ∧ S pair.2 pair'.2

variable {R : α → α' → Prop} {S : β → β' → Prop}

namespace Candidate.Alike

theorem still (cursor : Cursor) {value : α} {value' : α'} (h : R value value') :
    Alike R (.still cursor value) (.still cursor value') :=
  ⟨rfl, rfl, h⟩

theorem map {candidate : Candidate α} {candidate' : Candidate α'} (h : candidate.Alike R candidate')
    {f : α → β} {f' : α' → β'} (hf : S (f candidate.value) (f' candidate'.value)) :
    (candidate.map f).Alike S (candidate'.map f') :=
  ⟨h.start, h.stop, hf⟩

theorem startingAt {candidate : Candidate α} {candidate' : Candidate α'}
    (h : candidate.Alike R candidate') (start : Cursor) :
    (candidate.startingAt start).Alike R (candidate'.startingAt start) :=
  ⟨rfl, h.stop, h.value⟩

theorem extend {run : Candidate (List α)} {run' : Candidate (List α')} {step : Candidate α}
    {step' : Candidate α'} (hrun : run.Alike (List.Forall₂ R) run') (hstep : step.Alike R step') :
    (run.extend step).Alike (List.Forall₂ R) (run'.extend step') :=
  ⟨hrun.start, hstep.stop, .cons hstep.value hrun.value⟩

theorem inOrder {run : Candidate (List α)} {run' : Candidate (List α')}
    (h : run.Alike (List.Forall₂ R) run') : run.inOrder.Alike (List.Forall₂ R) run'.inOrder :=
  h.map (List.forall₂_reverse_iff.2 h.value)

end Candidate.Alike

theorem Candidate.AllAlike.map {candidates : List (Candidate α)} {candidates' : List (Candidate α')}
    (h : AllAlike R candidates candidates') {f : Candidate α → Candidate β}
    {f' : Candidate α' → Candidate β'}
    (hf : ∀ candidate candidate', candidate.Alike R candidate' →
      (f candidate).Alike S (f' candidate')) :
    AllAlike S (candidates.map f) (candidates'.map f') :=
  List.rel_map (fun candidate candidate' => hf candidate candidate') h

theorem isEmpty_eq_of_forall₂ {as : List α} {as' : List α'} (h : List.Forall₂ R as as') :
    as.isEmpty = as'.isEmpty := by
  cases h <;> rfl

namespace Outcome.Alike

theorem candidates {outcome : Outcome α} {outcome' : Outcome α'} (h : outcome.Alike R outcome') :
    Candidate.AllAlike R outcome.candidates outcome'.candidates := by
  cases h with
  | success _ _ hcandidates => exact hcandidates
  | failure => exact .nil

theorem mapCandidates {outcome : Outcome α} {outcome' : Outcome α'} (h : outcome.Alike R outcome')
    {f : List (Candidate α) → List (Candidate β)} {f' : List (Candidate α') → List (Candidate β')}
    (hf : ∀ candidates candidates', Candidate.AllAlike R candidates candidates' →
      Candidate.AllAlike S (f candidates) (f' candidates')) :
    (outcome.mapCandidates f).Alike S (outcome'.mapCandidates f') := by
  cases h with
  | success _ _ hcandidates => exact .success _ _ (hf _ _ hcandidates)
  | failure => exact .failure _ _

theorem map {outcome : Outcome α} {outcome' : Outcome α'} (h : outcome.Alike R outcome')
    {f : α → β} {f' : α' → β'} (hf : ∀ a a', R a a' → S (f a) (f' a')) :
    (outcome.map f).Alike S (outcome'.map f') :=
  h.mapCandidates fun _ _ hcandidates => hcandidates.map fun _ _ hcandidate =>
    hcandidate.map (hf _ _ hcandidate.value)

/-- Which diagnostics were found makes no difference to whether a reading succeeds. -/
theorem settle {chain chain' : Chain} {start start' : Cursor} {candidates : List (Candidate α)}
    {candidates' : List (Candidate α')} (h : Candidate.AllAlike R candidates candidates')
    (diagnostic? diagnostic'? : Option Diagnostic) :
    (Outcome.settle chain start candidates diagnostic?).Alike R
      (.settle chain' start' candidates' diagnostic'?) := by
  cases h with
  | nil => exact .failure _ _
  | cons hcandidate hrest => exact .success _ _ (.cons hcandidate hrest)

theorem gather {chain chain' : Chain} {start : Cursor} {parts : List (Outcome α)}
    {parts' : List (Outcome α')} (h : List.Forall₂ (Outcome.Alike R) parts parts')
    (diagnostic? diagnostic'? : Option Diagnostic) :
    (Outcome.gather chain start diagnostic? parts).Alike R
      (.gather chain' start diagnostic'? parts') := by
  refine settle (List.rel_flatMap h fun part part' hpart => ?_) _ _
  exact hpart.candidates.map fun _ _ hcandidate => hcandidate.startingAt start

end Outcome.Alike

/-! ### Groups and steps -/

theorem addToGroup_alike {candidate : Candidate α} {candidate' : Candidate α'}
    (hcandidate : candidate.Alike R candidate') {groups : List (Candidate (List α))}
    {groups' : List (Candidate (List α'))}
    (hgroups : Candidate.AllAlike (List.Forall₂ R) groups groups') :
    Candidate.AllAlike (List.Forall₂ R) (addToGroup candidate groups)
      (addToGroup candidate' groups') := by
  induction hgroups with
  | nil => exact .cons (hcandidate.map (.cons hcandidate.value .nil)) .nil
  | cons hgroup hgroups ih =>
      rw [addToGroup, addToGroup, hgroup.stop, hcandidate.stop]
      split
      · exact .cons (hgroup.map (.cons hcandidate.value hgroup.value)) hgroups
      · exact .cons hgroup ih

theorem groupByStop_alike {candidates : List (Candidate α)} {candidates' : List (Candidate α')}
    (h : Candidate.AllAlike R candidates candidates') :
    Candidate.AllAlike (List.Forall₂ R) (groupByStop candidates) (groupByStop candidates') := by
  have hgroups := List.rel_foldl (P := Candidate.AllAlike (List.Forall₂ R))
    (fun _ _ hgroups _ _ hcandidate => addToGroup_alike hcandidate hgroups) List.Forall₂.nil h
  exact hgroups.map fun _ _ hgroup => hgroup.map (List.forall₂_reverse_iff.2 hgroup.value)

abbrev Steps.Alike (R : α → α' → Prop) : Steps α → Steps α' → Prop :=
  List.Forall₂ (BothRelated (Candidate.Alike (List.Forall₂ R)) (Outcome.Alike R))

namespace Steps.Alike

variable {steps : Steps α} {steps' : Steps α'}

theorem all (h : Steps.Alike R steps steps') :
    Candidate.AllAlike (List.Forall₂ R) steps.all steps'.all := by
  refine List.rel_flatMap h fun step step' hstep => ?_
  exact hstep.2.candidates.map fun _ _ hcandidate => hstep.1.extend hcandidate

theorem advancing (h : Steps.Alike R steps steps') :
    Candidate.AllAlike (List.Forall₂ R) steps.advancing steps'.advancing := by
  refine List.rel_flatMap h fun step step' hstep => ?_
  have hmoving := List.rel_filter (R := Candidate.Alike R)
    (p := fun candidate => candidate.stop != step.1.stop)
    (q := fun candidate => candidate.stop != step'.1.stop)
    (fun candidate candidate' hcandidate => by simp only [hcandidate.stop, hstep.1.stop])
    hstep.2.candidates
  exact Candidate.AllAlike.map hmoving fun _ _ hcandidate => hstep.1.extend hcandidate

end Steps.Alike

/-! ### Runs in lockstep -/

/-- A relation between the computations of two monads, for every relation between what they
yield. -/
structure Lockstep (m m' : Type → Type) [Monad m] [Monad m'] where
  Relates : {α α' : Type} → (α → α' → Prop) → m α → m' α' → Prop
  pure : ∀ {α α' : Type} {R : α → α' → Prop} {a : α} {a' : α'}, R a a' →
    Relates R (Pure.pure a) (Pure.pure a')
  bind : ∀ {α α' β β' : Type} {R : α → α' → Prop} {S : β → β' → Prop} {run : m α} {run' : m' α'}
    {next : α → m β} {next' : α' → m' β'}, Relates R run run' →
    (∀ a a', R a a' → Relates S (next a) (next' a')) → Relates S (run >>= next) (run' >>= next')

namespace Lockstep

variable {m m' : Type → Type} [Monad m] [Monad m'] (lockstep : Lockstep m m')

def Parsers (chain chain' : Chain) (R : α → α' → Prop) (p : Parser m α) (p' : Parser m' α') :
    Prop :=
  ∀ start, lockstep.Relates (Outcome.Alike R) (p chain start) (p' chain' start)

theorem map {run : m α} {run' : m' α'} (h : lockstep.Relates R run run') {f : α → β} {f' : α' → β'}
    (hf : ∀ a a', R a a' → S (f a) (f' a')) :
    lockstep.Relates S (run >>= fun a => Pure.pure (f a)) (run' >>= fun a => Pure.pure (f' a)) :=
  lockstep.bind h fun a a' ha => lockstep.pure (hf a a' ha)

theorem mapM [LawfulMonad m] [LawfulMonad m'] {f : α → m β} {f' : α' → m' β'}
    (hf : ∀ a a', R a a' → lockstep.Relates S (f a) (f' a')) {as : List α} {as' : List α'}
    (h : List.Forall₂ R as as') :
    lockstep.Relates (List.Forall₂ S) (as.mapM f) (as'.mapM f') := by
  induction h with
  | nil =>
      rw [List.mapM_nil, List.mapM_nil]
      exact lockstep.pure .nil
  | cons ha _ ih =>
      rw [List.mapM_cons, List.mapM_cons]
      refine lockstep.bind (hf _ _ ha) fun b b' hb => ?_
      exact lockstep.map ih fun bs bs' hbs => .cons hb hbs

namespace Parsers

variable {lockstep : Lockstep m m'} {chain chain' : Chain} {p : Parser m α} {p' : Parser m' α'}

theorem succeed {value : α} {value' : α'} (h : R value value') :
    lockstep.Parsers chain chain' R (Parser.succeed value) (Parser.succeed value') := fun start =>
  lockstep.pure (.success _ _ (.cons (.still start h) .nil))

theorem map (hp : lockstep.Parsers chain chain' R p p') {f : α → β} {f' : α' → β'}
    (hf : ∀ a a', R a a' → S (f a) (f' a')) :
    lockstep.Parsers chain chain' S (p.map f) (p'.map f') := fun start =>
  lockstep.map (hp start) fun _ _ houtcome => houtcome.map hf

theorem mapCandidate (hp : lockstep.Parsers chain chain' R p p') {f : Chain → Candidate α → β}
    {f' : Chain → Candidate α' → β'}
    (hf : ∀ candidate candidate', candidate.Alike R candidate' →
      S (f chain candidate) (f' chain' candidate')) :
    lockstep.Parsers chain chain' S (p.mapCandidate f) (p'.mapCandidate f') := fun start =>
  lockstep.map (hp start) fun _ _ houtcome => houtcome.mapCandidates fun _ _ hcandidates =>
    hcandidates.map fun _ _ hcandidate => hcandidate.map (hf _ _ hcandidate)

theorem grouped (hp : lockstep.Parsers chain chain' R p p') :
    lockstep.Parsers chain chain' (List.Forall₂ R) p.grouped p'.grouped := fun start =>
  lockstep.map (hp start) fun _ _ houtcome => houtcome.mapCandidates fun _ _ => groupByStop_alike

theorem optional (hp : lockstep.Parsers chain chain' R p p') :
    lockstep.Parsers chain chain' (Option.Rel R) p.optional p'.optional := by
  refine fun start => lockstep.map (hp start) fun _ _ houtcome => .success _ _ ?_
  refine List.rel_append ?_ (.cons (.still start .none) .nil)
  exact houtcome.candidates.map fun _ _ hcandidate => hcandidate.map (.some hcandidate.value)

theorem optionalGreedy (hp : lockstep.Parsers chain chain' R p p') :
    lockstep.Parsers chain chain' (Option.Rel R) p.optionalGreedy p'.optionalGreedy := by
  refine fun start => lockstep.bind (hp start) fun outcome outcome' houtcome => ?_
  cases houtcome with
  | success _ _ hcandidates =>
      exact lockstep.pure (Outcome.Alike.map (.success _ _ hcandidates) fun _ _ => .some)
  | failure => exact lockstep.pure (.success _ _ (.cons (.still start .none) .nil))

theorem relabel (hp : lockstep.Parsers chain chain' R p p') (message message' : String) :
    lockstep.Parsers chain chain' R (p.relabel message) (p'.relabel message') := by
  refine fun start => lockstep.bind (hp start) fun outcome outcome' houtcome => ?_
  cases houtcome with
  | success _ _ hcandidates => exact lockstep.pure (.success _ _ hcandidates)
  | failure => exact lockstep.pure (.failure _ _)

theorem recover (hp : lockstep.Parsers chain chain' R p p') (message message' : String) {value : α}
    {value' : α'} (hvalue : R value value') :
    lockstep.Parsers chain chain' R (p.recover message value) (p'.recover message' value') := by
  refine fun start => lockstep.bind (hp start) fun outcome outcome' houtcome => ?_
  cases houtcome with
  | success _ _ hcandidates => exact lockstep.pure (.success _ _ hcandidates)
  | failure => exact lockstep.pure (.success _ _ (.cons (.still start hvalue) .nil))

theorem either {q : Parser m α} {q' : Parser m' α'} (hp : lockstep.Parsers chain chain' R p p')
    (hq : lockstep.Parsers chain chain' R q q') :
    lockstep.Parsers chain chain' R (p.either q) (p'.either q') := by
  refine fun start => lockstep.bind (hp start) fun first first' hfirst => ?_
  refine lockstep.map (hq start) fun second second' hsecond => ?_
  exact .settle (List.rel_append hfirst.candidates hsecond.candidates) _ _

theorem orElse {q : Parser m α} {q' : Parser m' α'} (hp : lockstep.Parsers chain chain' R p p')
    (hq : lockstep.Parsers chain chain' R q q') :
    lockstep.Parsers chain chain' R (p.orElse q) (p'.orElse q') := by
  refine fun start => lockstep.bind (hp start) fun first first' hfirst => ?_
  cases hfirst with
  | success _ _ hcandidates => exact lockstep.pure (.success _ _ hcandidates)
  | failure =>
      refine lockstep.bind (hq start) fun second second' hsecond => ?_
      cases hsecond with
      | success _ _ hcandidates => exact lockstep.pure (.success _ _ hcandidates)
      | failure => exact lockstep.pure (.failure _ _)

variable [LawfulMonad m] [LawfulMonad m'] {q : Parser m β} {q' : Parser m' β'}

theorem bind {next : α → Parser m β} {next' : α' → Parser m' β'}
    (hp : lockstep.Parsers chain chain' R p p')
    (hnext : ∀ a a', R a a' → lockstep.Parsers chain chain' S (next a) (next' a')) :
    lockstep.Parsers chain chain' S (p.bind next) (p'.bind next') := by
  refine fun start => lockstep.bind (hp start) fun firsts firsts' hfirsts => ?_
  refine lockstep.map (lockstep.mapM (fun first first' hfirst => ?_) hfirsts.candidates)
    fun parts parts' hparts => .gather hparts _ _
  rw [hfirst.stop]
  exact hnext _ _ hfirst.value first'.stop

theorem seq (hp : lockstep.Parsers chain chain' R p p')
    (hq : lockstep.Parsers chain chain' S q q') :
    lockstep.Parsers chain chain' (BothRelated R S) (p.seq q) (p'.seq q') := by
  refine fun start => lockstep.bind (hp start) fun firsts firsts' hfirsts => ?_
  refine lockstep.map (lockstep.mapM (fun first first' hfirst => ?_) hfirsts.candidates)
    fun parts parts' hparts => .gather hparts _ _
  rw [hfirst.stop]
  exact lockstep.map (hq first'.stop) fun seconds seconds' hseconds =>
    hseconds.map fun _ _ hsecond => ⟨hfirst.value, hsecond⟩

theorem seqLeft (hp : lockstep.Parsers chain chain' R p p')
    (hq : lockstep.Parsers chain chain' S q q') :
    lockstep.Parsers chain chain' R (p.seqLeft q) (p'.seqLeft q') :=
  (hp.seq hq).map fun _ _ hpair => hpair.1

theorem seqRight (hp : lockstep.Parsers chain chain' R p p')
    (hq : lockstep.Parsers chain chain' S q q') :
    lockstep.Parsers chain chain' S (p.seqRight q) (p'.seqRight q') :=
  (hp.seq hq).map fun _ _ hpair => hpair.2

/-! ### Repetitions -/

theorem stepAll (hp : lockstep.Parsers chain chain' R p p') {level : List (Candidate (List α))}
    {level' : List (Candidate (List α'))}
    (hlevel : Candidate.AllAlike (List.Forall₂ R) level level') :
    lockstep.Relates (Steps.Alike R) (p.stepAll chain level) (p'.stepAll chain' level') := by
  refine lockstep.mapM (fun run run' hrun => ?_) hlevel
  rw [hrun.stop]
  exact lockstep.map (hp run'.stop) fun outcome outcome' houtcome => ⟨hrun, houtcome⟩

abbrev LevelsAlike (R : α → α' → Prop)
    (levels : List (Candidate (List α)) × Option Diagnostic)
    (levels' : List (Candidate (List α')) × Option Diagnostic) : Prop :=
  Candidate.AllAlike (List.Forall₂ R) levels.1 levels'.1

theorem explore (hp : lockstep.Parsers chain chain' R p p') (levels : Nat)
    {level explored : List (Candidate (List α))} {level' explored' : List (Candidate (List α'))}
    (seen seen' : Option Diagnostic)
    (hlevel : Candidate.AllAlike (List.Forall₂ R) level level')
    (hexplored : Candidate.AllAlike (List.Forall₂ R) explored explored') :
    lockstep.Relates (LevelsAlike R) (p.explore chain levels level explored seen)
      (p'.explore chain' levels level' explored' seen') := by
  have hmore := List.rel_append (List.forall₂_reverse_iff.2 hlevel) hexplored
  induction levels generalizing level level' explored explored' seen seen' with
  | zero => exact lockstep.pure hmore
  | succ levels ih =>
      rw [Parser.explore, Parser.explore, isEmpty_eq_of_forall₂ hlevel]
      split
      · exact lockstep.pure hexplored
      · refine lockstep.bind (hp.stepAll hlevel) fun steps steps' hsteps => ?_
        exact ih _ _ hsteps.advancing hmore
          (List.rel_append (List.forall₂_reverse_iff.2 hsteps.advancing) hmore)

theorem climb (hp : lockstep.Parsers chain chain' R p p') (levels : Nat)
    {level : List (Candidate (List α))} {level' : List (Candidate (List α'))}
    (seen seen' : Option Diagnostic)
    (hlevel : Candidate.AllAlike (List.Forall₂ R) level level') :
    lockstep.Relates (LevelsAlike R) (p.climb chain levels level seen)
      (p'.climb chain' levels level' seen') := by
  induction levels generalizing level level' seen seen' with
  | zero => exact lockstep.pure hlevel
  | succ levels ih =>
      rw [Parser.climb, Parser.climb]
      refine lockstep.bind (hp.stepAll hlevel) fun steps steps' hsteps => ?_
      rw [isEmpty_eq_of_forall₂ hsteps.advancing]
      split
      · exact lockstep.pure hlevel
      · exact ih _ _ hsteps.advancing

private theorem first (R : α → α' → Prop) (start : Cursor) :
    Candidate.AllAlike (List.Forall₂ R) [.still start []] [.still start []] :=
  .cons (.still start .nil) .nil

variable (hsize : chain.size = chain'.size)

include hsize

theorem manyShortestFirst (hp : lockstep.Parsers chain chain' R p p') :
    lockstep.Parsers chain chain' (List.Forall₂ R) p.manyShortestFirst p'.manyShortestFirst := by
  intro start
  rw [Parser.manyShortestFirst, Parser.manyShortestFirst, Chain.remaining, Chain.remaining, hsize]
  refine lockstep.map (hp.explore _ none none (first R start) .nil) fun runs runs' hruns => ?_
  have hordered := List.forall₂_reverse_iff.2 hruns
  exact .success _ _ (Candidate.AllAlike.map hordered fun _ _ hrun => hrun.inOrder)

theorem manyLongestFirst (hp : lockstep.Parsers chain chain' R p p') :
    lockstep.Parsers chain chain' (List.Forall₂ R) p.manyLongestFirst p'.manyLongestFirst :=
  fun start => lockstep.map (hp.manyShortestFirst hsize start) fun _ _ houtcome =>
    houtcome.mapCandidates fun _ _ => List.forall₂_reverse_iff.2

theorem manyGreedy (hp : lockstep.Parsers chain chain' R p p') :
    lockstep.Parsers chain chain' (List.Forall₂ R) p.manyGreedy p'.manyGreedy := by
  intro start
  rw [Parser.manyGreedy, Parser.manyGreedy, Chain.remaining, Chain.remaining, hsize]
  refine lockstep.map (hp.climb _ none none (first R start)) fun runs runs' hruns => ?_
  exact .success _ _ (Candidate.AllAlike.map hruns fun _ _ hrun => hrun.inOrder)

omit hsize

theorem exactlyFrom (hp : lockstep.Parsers chain chain' R p p') (start : Cursor) (count : Nat)
    {level : List (Candidate (List α))} {level' : List (Candidate (List α'))}
    (seen seen' : Option Diagnostic)
    (hlevel : Candidate.AllAlike (List.Forall₂ R) level level') :
    lockstep.Relates (Outcome.Alike (List.Forall₂ R))
      (p.exactlyFrom chain start count level seen)
      (p'.exactlyFrom chain' start count level' seen') := by
  induction count generalizing level level' seen seen' with
  | zero => exact lockstep.pure (.success _ _ (hlevel.map fun _ _ hrun => hrun.inOrder))
  | succ count ih =>
      rw [Parser.exactlyFrom, Parser.exactlyFrom]
      refine lockstep.bind (hp.stepAll hlevel) fun steps steps' hsteps => ?_
      rw [isEmpty_eq_of_forall₂ hsteps.all]
      split
      · exact lockstep.pure (.settle .nil _ _)
      · exact ih _ _ hsteps.all

theorem exactly (hp : lockstep.Parsers chain chain' R p p') (count : Nat) :
    lockstep.Parsers chain chain' (List.Forall₂ R) (Parser.exactly count p)
      (Parser.exactly count p') := fun start =>
  hp.exactlyFrom start count none none (first R start)

/-! ### Lists and folds -/

theorem headed {r : Parser m (List α)} {r' : Parser m' (List α')}
    (hp : lockstep.Parsers chain chain' R p p')
    (hr : lockstep.Parsers chain chain' (List.Forall₂ R) r r') :
    lockstep.Parsers chain chain' (List.Forall₂ R)
      ((p.seq r).map fun (first, rest) => first :: rest)
      ((p'.seq r').map fun (first, rest) => first :: rest) :=
  (hp.seq hr).map fun _ _ hpair => .cons hpair.1 hpair.2

theorem foldedAll {f : α → β → α} {f' : α' → β' → α'}
    (hf : ∀ a a' b b', R a a' → S b b' → R (f a b) (f' a' b')) {r : Parser m (List β)}
    {r' : Parser m' (List β')} (hp : lockstep.Parsers chain chain' R p p')
    (hr : lockstep.Parsers chain chain' (List.Forall₂ S) r r') :
    lockstep.Parsers chain chain' R
      ((p.seq r).map fun (first, rest) => rest.foldl f first)
      ((p'.seq r').map fun (first, rest) => rest.foldl f' first) :=
  (hp.seq hr).map fun _ _ hpair =>
    List.rel_foldl (fun a a' ha b b' hb => hf a a' b b' ha hb) hpair.1 hpair.2

theorem separatedExactly (hp : lockstep.Parsers chain chain' R p p')
    (hq : lockstep.Parsers chain chain' S q q') (count : Nat) :
    lockstep.Parsers chain chain' (List.Forall₂ R) (Parser.separatedExactly count p q)
      (Parser.separatedExactly count p' q') := by
  match count with
  | 0 => exact .succeed .nil
  | 1 => exact hp.map fun _ _ hvalue => .cons hvalue .nil
  | count + 2 => exact hp.headed ((hq.seqRight hp).exactly (count + 1))

end Parsers

end Lockstep

end TokenGrammar
