import TokenGrammar.Grammar.Operators

/-!
# Corresponding computations

The combinators are written once for all monads, so they do the same in two monads, or twice in one
monad from different states, as long as their parts do. A correspondence is any relation between
computations that holds of pure ones with the same value and that sequences pass on. Whatever it is,
each combinator, and so each operator of a grammar, passes it on from the parts to the whole.
-/

namespace TokenGrammar

/-- A relation between the computations of two monads that yield the same values, if any. -/
structure Correspondence (m m' : Type → Type) [Monad m] [Monad m'] where
  Relates : {α : Type} → m α → m' α → Prop
  pure : ∀ {α : Type} (a : α), Relates (Pure.pure a) (Pure.pure a)
  bind : ∀ {α β : Type} {run : m α} {run' : m' α} {next : α → m β} {next' : α → m' β},
    Relates run run' → (∀ a, Relates (next a) (next' a)) → Relates (run >>= next) (run' >>= next')

namespace Correspondence

variable {m m' : Type → Type} [Monad m] [Monad m'] (correspondence : Correspondence m m')
  {α β : Type}

def Parsers (p : Parser m α) (p' : Parser m' α) : Prop :=
  ∀ chain start, correspondence.Relates (p chain start) (p' chain start)

def ParsersOn (chain : Chain) (p : Parser m α) (p' : Parser m' α) : Prop :=
  ∀ start, correspondence.Relates (p chain start) (p' chain start)

theorem map {run : m α} {run' : m' α} (h : correspondence.Relates run run') (f : α → β) :
    correspondence.Relates (run >>= fun a => Pure.pure (f a))
      (run' >>= fun a => Pure.pure (f a)) :=
  correspondence.bind h fun a => correspondence.pure (f a)

theorem mapM [LawfulMonad m] [LawfulMonad m'] {f : α → m β} {f' : α → m' β}
    (h : ∀ a, correspondence.Relates (f a) (f' a)) (as : List α) :
    correspondence.Relates (as.mapM f) (as.mapM f') := by
  induction as with
  | nil =>
      rw [List.mapM_nil, List.mapM_nil]
      exact correspondence.pure []
  | cons a as ih =>
      rw [List.mapM_cons, List.mapM_cons]
      exact correspondence.bind (h a) fun b => correspondence.map ih fun bs => b :: bs

/-! ### Combinators -/

namespace ParsersOn

variable {correspondence : Correspondence m m'} {chain : Chain} {p : Parser m α} {p' : Parser m' α}

theorem leaf (matcher : Leaf) :
    correspondence.ParsersOn chain (matcher.parser : Parser m Value) matcher.parser := by
  intro start
  cases matcher with
  | nothing | succeed | fail => exact correspondence.pure _
  | literal | kind => exact correspondence.map (correspondence.pure _) _
  | range low high =>
      refine correspondence.map ?_ _
      rw [Parser.range, Parser.range]
      split
      · exact correspondence.pure _
      · exact correspondence.pure _

theorem map (hp : correspondence.ParsersOn chain p p') (f : α → β) :
    correspondence.ParsersOn chain (p.map f) (p'.map f) := fun start =>
  correspondence.map (hp start) _

theorem mapCandidate (hp : correspondence.ParsersOn chain p p') (f : Chain → Candidate α → β) :
    correspondence.ParsersOn chain (p.mapCandidate f) (p'.mapCandidate f) := fun start =>
  correspondence.map (hp start) _

theorem optional (hp : correspondence.ParsersOn chain p p') :
    correspondence.ParsersOn chain p.optional p'.optional := fun start =>
  correspondence.map (hp start) _

theorem grouped (hp : correspondence.ParsersOn chain p p') :
    correspondence.ParsersOn chain p.grouped p'.grouped := fun start =>
  correspondence.map (hp start) _

theorem optionalGreedy (hp : correspondence.ParsersOn chain p p') :
    correspondence.ParsersOn chain p.optionalGreedy p'.optionalGreedy := fun start =>
  correspondence.bind (hp start) fun outcome => by
    cases outcome <;> exact correspondence.pure _

theorem relabel (hp : correspondence.ParsersOn chain p p') (message : String) :
    correspondence.ParsersOn chain (p.relabel message) (p'.relabel message) := fun start =>
  correspondence.bind (hp start) fun outcome => by
    cases outcome <;> exact correspondence.pure _

theorem recover (hp : correspondence.ParsersOn chain p p') (message : String) (value : α) :
    correspondence.ParsersOn chain (p.recover message value) (p'.recover message value) :=
  fun start => correspondence.bind (hp start) fun outcome => by
    cases outcome <;> exact correspondence.pure _

theorem either {q : Parser m α} {q' : Parser m' α} (hp : correspondence.ParsersOn chain p p')
    (hq : correspondence.ParsersOn chain q q') :
    correspondence.ParsersOn chain (p.either q) (p'.either q') :=
  fun start => correspondence.bind (hp start) fun _ =>
    correspondence.map (hq start) _

theorem orElse {q : Parser m α} {q' : Parser m' α} (hp : correspondence.ParsersOn chain p p')
    (hq : correspondence.ParsersOn chain q q') :
    correspondence.ParsersOn chain (p.orElse q) (p'.orElse q') := by
  refine fun start => correspondence.bind (hp start) fun first => ?_
  cases first with
  | success => exact correspondence.pure _
  | failure =>
      refine correspondence.bind (hq start) fun second => ?_
      cases second <;> exact correspondence.pure _

variable [LawfulMonad m] [LawfulMonad m']

theorem bind {next : α → Parser m β} {next' : α → Parser m' β}
    (hp : correspondence.ParsersOn chain p p')
    (hnext : ∀ value, correspondence.ParsersOn chain (next value) (next' value)) :
    correspondence.ParsersOn chain (p.bind next) (p'.bind next') := by
  refine fun start => correspondence.bind (hp start) fun firsts => ?_
  refine correspondence.map (correspondence.mapM (fun first => ?_) _) _
  exact hnext first.value first.stop

theorem seq {q : Parser m β} {q' : Parser m' β} (hp : correspondence.ParsersOn chain p p')
    (hq : correspondence.ParsersOn chain q q') :
    correspondence.ParsersOn chain (p.seq q) (p'.seq q') := by
  refine fun start => correspondence.bind (hp start) fun firsts => ?_
  refine correspondence.map (correspondence.mapM (fun first => ?_) _) _
  exact correspondence.map (hq first.stop) _

theorem stepAll (hp : correspondence.ParsersOn chain p p')
    (runs : List (Candidate (List α))) :
    correspondence.Relates (p.stepAll chain runs) (p'.stepAll chain runs) := by
  refine correspondence.mapM (fun run => ?_) runs
  exact correspondence.map (hp run.stop) _

theorem explore (hp : correspondence.ParsersOn chain p p') (levels : Nat) :
    ∀ (level explored : List (Candidate (List α))) (seen : Option Diagnostic),
      correspondence.Relates (p.explore chain levels level explored seen)
        (p'.explore chain levels level explored seen) := by
  induction levels with
  | zero => exact fun level explored seen => correspondence.pure _
  | succ levels ih =>
      intro level explored seen
      rw [Parser.explore, Parser.explore]
      split
      · exact correspondence.pure _
      · exact correspondence.bind (hp.stepAll level) fun steps => ih _ _ _

theorem manyShortestFirst (hp : correspondence.ParsersOn chain p p') :
    correspondence.ParsersOn chain p.manyShortestFirst p'.manyShortestFirst := fun _ =>
  correspondence.map (hp.explore _ _ _ _) _

theorem manyLongestFirst (hp : correspondence.ParsersOn chain p p') :
    correspondence.ParsersOn chain p.manyLongestFirst p'.manyLongestFirst := fun start =>
  correspondence.map (hp.manyShortestFirst start) _

theorem climb (hp : correspondence.ParsersOn chain p p') (levels : Nat) :
    ∀ (level : List (Candidate (List α))) (seen : Option Diagnostic),
      correspondence.Relates (p.climb chain levels level seen)
        (p'.climb chain levels level seen) := by
  induction levels with
  | zero => exact fun level seen => correspondence.pure _
  | succ levels ih =>
      intro level seen
      refine correspondence.bind (hp.stepAll level) fun steps => ?_
      split
      · exact correspondence.pure _
      · exact ih _ _

theorem manyGreedy (hp : correspondence.ParsersOn chain p p') :
    correspondence.ParsersOn chain p.manyGreedy p'.manyGreedy := fun _ =>
  correspondence.map (hp.climb _ _ _) _

theorem exactlyFrom (hp : correspondence.ParsersOn chain p p') (start : Cursor) (count : Nat) :
    ∀ (level : List (Candidate (List α))) (seen : Option Diagnostic),
      correspondence.Relates (p.exactlyFrom chain start count level seen)
        (p'.exactlyFrom chain start count level seen) := by
  induction count with
  | zero => exact fun level seen => correspondence.pure _
  | succ count ih =>
      intro level seen
      refine correspondence.bind (hp.stepAll level) fun steps => ?_
      split
      · exact correspondence.pure _
      · exact ih _ _

theorem exactly (hp : correspondence.ParsersOn chain p p') (count : Nat) :
    correspondence.ParsersOn chain (Parser.exactly count p) (Parser.exactly count p') :=
  fun start => hp.exactlyFrom start count _ _

theorem separatedExactly {q : Parser m β} {q' : Parser m' β}
    (hp : correspondence.ParsersOn chain p p') (hq : correspondence.ParsersOn chain q q')
    (count : Nat) :
    correspondence.ParsersOn chain (Parser.separatedExactly count p q)
      (Parser.separatedExactly count p' q') := by
  match count with
  | 0 => exact fun _ => correspondence.pure _
  | 1 => exact hp.map _
  | count + 2 => exact (hp.seq (((hq.seq hp).map Prod.snd).exactly (count + 1))).map _

/-! ### Operators -/

theorem unary (operator : UnaryOperator) {p : Parser m Value} {p' : Parser m' Value}
    (hp : correspondence.ParsersOn chain p p') :
    correspondence.ParsersOn chain (operator.parser p) (operator.parser p') := by
  cases operator with
  | mapped transform => exact hp.map _
  | spanned view => exact hp.mapCandidate _
  | optional => exact hp.optional.map _
  | optionalGreedy => exact hp.optionalGreedy.map _
  | manyShortestFirst => exact hp.manyShortestFirst.map _
  | manyLongestFirst => exact hp.manyLongestFirst.map _
  | manyGreedy => exact hp.manyGreedy.map _
  | exactly count => exact (hp.exactly count).map _
  | grouped => exact hp.grouped.map _
  | relabelled message => exact hp.relabel message
  | recovered message value => exact hp.recover message value

theorem binary (operator : BinaryOperator) {p q : Parser m Value} {p' q' : Parser m' Value}
    (hp : correspondence.ParsersOn chain p p') (hq : correspondence.ParsersOn chain q q') :
    correspondence.ParsersOn chain (operator.parser p q) (operator.parser p' q') := by
  -- what follows the head of a list: a separator and another part
  have hstep : correspondence.ParsersOn chain (q.seqRight p) (q'.seqRight p') :=
    (hq.seq hp).map Prod.snd
  cases operator with
  | seq | seqLeft | seqRight => exact (hp.seq hq).map _
  | either => exact hp.either hq
  | orElse => exact hp.orElse hq
  | separated => exact ((hp.seq hstep.manyLongestFirst).map _).map _
  | separatedGreedy => exact ((hp.seq hstep.manyGreedy).map _).map _
  | separatedExactly count => exact (hp.separatedExactly hq count).map _
  | folded fold => exact (hp.seq hq.manyLongestFirst).map _
  | foldedGreedy fold => exact (hp.seq hq.manyGreedy).map _

end ParsersOn

/-! ### Parsers that correspond on every chain -/

namespace Parsers

variable {correspondence : Correspondence m m'}

theorem leaf (matcher : Leaf) :
    correspondence.Parsers (matcher.parser : Parser m Value) matcher.parser :=
  fun _ => ParsersOn.leaf matcher

variable [LawfulMonad m] [LawfulMonad m']

theorem bind {p : Parser m α} {p' : Parser m' α} {next : α → Parser m β}
    {next' : α → Parser m' β} (hp : correspondence.Parsers p p')
    (hnext : ∀ value, correspondence.Parsers (next value) (next' value)) :
    correspondence.Parsers (p.bind next) (p'.bind next') := fun chain =>
  ParsersOn.bind (hp chain) fun value => hnext value chain

theorem unary (operator : UnaryOperator) {p : Parser m Value} {p' : Parser m' Value}
    (hp : correspondence.Parsers p p') :
    correspondence.Parsers (operator.parser p) (operator.parser p') := fun chain =>
  ParsersOn.unary operator (hp chain)

theorem binary (operator : BinaryOperator) {p q : Parser m Value} {p' q' : Parser m' Value}
    (hp : correspondence.Parsers p p') (hq : correspondence.Parsers q q') :
    correspondence.Parsers (operator.parser p q) (operator.parser p' q') := fun chain =>
  ParsersOn.binary operator (hp chain) (hq chain)

end Parsers

end Correspondence

end TokenGrammar
