import TokenGrammar.Proofs.LeftRecursion
import TokenGrammar.Proofs.WellFormed

/-!
# Where parts are entered

A combinator enters its parts at the cursor where it was entered itself, or further on: a second
part is entered at its own start only if the first one may read nothing, and the step of a
repetition is entered at the end of every run of steps. The rules below say where a part has to end,
so that the whole ends, and whether the whole may then read nothing.
-/

namespace TokenGrammar

namespace Chain

variable {chain : Chain} {start between stop : Cursor}

theorem Reaches.remaining_lt (h : chain.Reaches start stop) (hne : stop ≠ start) :
    chain.remaining stop < chain.remaining start := by
  have hlt : start < stop := Nat.lt_of_le_of_ne h.le (Ne.symm hne)
  have hle : stop ≤ chain.size := h.le_size.resolve_left hne
  exact Nat.sub_lt_sub_left (Nat.lt_of_lt_of_le hlt hle) hlt

/-- That a cursor is reached from another one, and is the same one only under a condition. -/
structure Onward (chain : Chain) (still : Prop) (start stop : Cursor) : Prop where
  reaches : chain.Reaches start stop
  still : stop = start → still

theorem Onward.here {still : Prop} (h : still) : chain.Onward still start start :=
  ⟨.here, fun _ => h⟩

theorem Onward.imp {still still' : Prop} (h : chain.Onward still start stop)
    (himp : still → still') : chain.Onward still' start stop :=
  ⟨h.reaches, fun heq => himp (h.still heq)⟩

theorem Onward.trans {still still' : Prop} (h : chain.Onward still start between)
    (h' : chain.Onward still' between stop) : chain.Onward (still ∧ still') start stop := by
  refine ⟨h.reaches.trans h'.reaches, fun heq => ?_⟩
  have hbetween : between = start := Nat.le_antisymm (heq ▸ h'.reaches.le) h.reaches.le
  exact ⟨h.still hbetween, h'.still (heq.trans hbetween.symm)⟩

theorem Reaches.onward (h : chain.Reaches start stop) : chain.Onward True start stop :=
  ⟨h, fun _ => trivial⟩

end Chain

variable {m : Type → Type} [Monad m] {α β : Type}

/-- That the candidates of a parser lie onward, and stay at the start only under a condition. -/
def Parser.Advances (observation : Observation m) (chain : Chain) (p : Parser m α) (still : Prop)
    (start : Cursor) : Prop :=
  observation.Yields (p chain start) fun _ outcome =>
    ∀ candidate ∈ outcome.candidates, chain.Onward still start candidate.stop

namespace Parser.Advances

variable {observation : Observation m} {chain : Chain} {start : Cursor} {p : Parser m α}
  {q : Parser m β} {still still' : Prop}

theorem succeed (value : α) :
    (Parser.succeed value).Advances observation chain True start := by
  refine observation.pure fun candidate hmem => ?_
  rw [List.mem_singleton.1 hmem]
  exact .here trivial

theorem map (hp : p.Advances observation chain still start) (f : α → β) :
    (p.map f).Advances observation chain still start := by
  refine observation.yields_map hp fun _ outcome h candidate hmem => ?_
  rw [Outcome.candidates_map] at hmem
  obtain ⟨read, hread, rfl⟩ := List.mem_map.1 hmem
  exact h read hread

theorem mapCandidate (hp : p.Advances observation chain still start)
    (f : Chain → Candidate α → β) :
    (p.mapCandidate f).Advances observation chain still start := by
  refine observation.yields_mapCandidate hp fun _ outcome h candidate hmem => ?_
  rw [Outcome.candidates_mapCandidates _ rfl] at hmem
  obtain ⟨read, hread, rfl⟩ := List.mem_map.1 hmem
  exact h read hread

theorem grouped (hp : p.Advances observation chain still start) :
    p.grouped.Advances observation chain still start := by
  refine observation.yields_grouped hp fun _ outcome h candidate hmem => ?_
  rw [Outcome.candidates_mapCandidates _ rfl] at hmem
  obtain ⟨candidate', hmem, _, hstop⟩ := exists_of_mem_groupByStop hmem
  rw [hstop]
  exact h candidate' hmem

theorem relabel (hp : p.Advances observation chain still start) (message : String) :
    (p.relabel message).Advances observation chain still start :=
  observation.yields_relabel hp (fun _ _ _ h => h) fun _ _ _ _ hmem => nomatch hmem

theorem recover (hp : p.Advances observation chain still start) (message : String) (value : α) :
    (p.recover message value).Advances observation chain True start := by
  refine observation.yields_recover hp ?_ fun _ diagnostic _ candidate hmem => ?_
  · exact fun _ candidates carried? h candidate hmem => (h candidate hmem).imp fun _ => trivial
  · rw [List.mem_singleton.1 hmem]
    exact .here trivial

theorem optional (hp : p.Advances observation chain still start) :
    p.optional.Advances observation chain True start := by
  refine observation.yields_optional hp fun _ outcome h candidate hmem => ?_
  rcases List.mem_append.1 hmem with hmem | hmem
  · obtain ⟨read, hread, rfl⟩ := List.mem_map.1 hmem
    exact (h read hread).imp fun _ => trivial
  · rw [List.mem_singleton.1 hmem]
    exact .here trivial

theorem optionalGreedy (hp : p.Advances observation chain still start) :
    p.optionalGreedy.Advances observation chain True start := by
  refine observation.yields_optionalGreedy hp ?_ fun _ diagnostic _ candidate hmem => ?_
  · intro _ candidates carried? h candidate hmem
    obtain ⟨read, hread, rfl⟩ := List.mem_map.1 hmem
    exact (h read hread).imp fun _ => trivial
  · rw [List.mem_singleton.1 hmem]
    exact .here trivial

section

variable {q : Parser m α}

theorem either (hp : p.Advances observation chain still start)
    (hq : q.Advances observation chain still' start) :
    (p.either q).Advances observation chain (still ∨ still') start := by
  refine observation.yields_either hp hq fun _ first _ second h h' candidate hmem => ?_
  rw [Outcome.candidates_settle] at hmem
  rcases List.mem_append.1 hmem with hmem | hmem
  · exact (h candidate hmem).imp .inl
  · exact (h' candidate hmem).imp .inr

theorem orElse (hp : p.Advances observation chain still start)
    (hq : q.Advances observation chain still' start) :
    (p.orElse q).Advances observation chain (still ∨ still') start := by
  refine observation.yields_orElse hp hq ?_ ?_ ?_
  · exact fun _ candidates carried? h candidate hmem => (h candidate hmem).imp .inl
  · exact fun _ _ _ candidates carried? _ h candidate hmem => (h candidate hmem).imp .inr
  · exact fun _ _ _ _ _ _ candidate hmem => nomatch hmem

end

variable [LawfulMonad m]

theorem imp (hp : p.Advances observation chain still start) (himp : still → still') :
    p.Advances observation chain still' start :=
  observation.weaken hp fun _ _ h candidate hmem => (h candidate hmem).imp himp

theorem bind {next : α → Parser m β} {still' : α → Prop}
    (hp : p.Advances observation chain still start)
    (hnext : ∀ value between, chain.Onward still start between →
      (next value).Advances observation chain (still' value) between) :
    (p.bind next).Advances observation chain (still ∧ ∃ value, still' value) start := by
  refine observation.yields_bind_of_mem
    (fun value between _ outcome => ∀ candidate ∈ outcome.candidates,
      chain.Onward (still' value) between candidate.stop) hp
    (fun h first hfirst => hnext first.value first.stop (h first hfirst)) ?_
  intro _ firsts later parts h hparts candidate hmem
  rw [Outcome.gather, Outcome.candidates_settle] at hmem
  obtain ⟨part, hpart, hmem⟩ := List.mem_flatMap.1 hmem
  obtain ⟨second, hsecond, rfl⟩ := List.mem_map.1 hmem
  obtain ⟨first, hfirst, _, h'⟩ := hparts.exists_of_mem_right hpart
  exact ((h first hfirst).trans (h' second hsecond)).imp fun hstill => ⟨hstill.1, _, hstill.2⟩

theorem seq (hp : p.Advances observation chain still start)
    (hq : ∀ between, chain.Onward still start between →
      q.Advances observation chain still' between) :
    (p.seq q).Advances observation chain (still ∧ still') start := by
  refine observation.yields_seq_of_mem
    (fun between _ outcome => ∀ candidate ∈ outcome.candidates,
      chain.Onward still' between candidate.stop) hp
    (fun h first hfirst => hq first.stop (h first hfirst)) ?_
  intro _ firsts later parts h hparts candidate hmem
  rw [Outcome.gather, Outcome.candidates_settle] at hmem
  obtain ⟨part, hpart, hmem⟩ := List.mem_flatMap.1 hmem
  obtain ⟨second, hsecond, rfl⟩ := List.mem_map.1 hmem
  obtain ⟨first, hfirst, _, seconds, h', rfl⟩ := hparts.exists_of_mem_right hpart
  rw [Outcome.candidates_map] at hsecond
  obtain ⟨read, hread, rfl⟩ := List.mem_map.1 hsecond
  exact (h first hfirst).trans (h' read hread)

/-! ### Repetitions -/

theorem onward_of_mem_all {reached : Prop} {level : List (Candidate (List α))}
    {later : List Diagnostic} {steps : Steps α}
    (hlevel : ∀ run ∈ level, chain.Onward reached start run.stop)
    (hsteps : Collected (Observation.StepOf fun between _ outcome =>
      ∀ candidate ∈ outcome.candidates, chain.Onward still between candidate.stop)
      level later steps) :
    ∀ run ∈ steps.all, chain.Onward (reached ∧ still) start run.stop := by
  intro next hnext
  obtain ⟨step, hstep, hnext⟩ := List.mem_flatMap.1 hnext
  obtain ⟨candidate, hcandidate, rfl⟩ := List.mem_map.1 hnext
  obtain ⟨run, hrun, _, rfl, hadvances⟩ := hsteps.exists_of_mem_right hstep
  exact (hlevel _ hrun).trans (hadvances candidate hcandidate)

theorem manyShortestFirst
    (hp : ∀ between, chain.Reaches start between → p.Advances observation chain still between) :
    p.manyShortestFirst.Advances observation chain True start := by
  refine observation.map (observation.yields_explore_of_mem
    (fun between _ outcome => ∀ candidate ∈ outcome.candidates,
      chain.Onward still between candidate.stop)
    (fun _ level explored _ _ =>
      ∀ run ∈ level.reverse ++ explored, chain.Onward True start run.stop)
    (fun hruns run hrun => hp run.stop (hruns run ?_).reaches) ?_ _ 0 [] ?_) ?_
  · exact List.mem_append_left _ (List.mem_reverse.2 hrun)
  · intro count level explored seen misses later steps hruns hsteps run hrun
    rcases List.mem_append.1 hrun with hrun | hrun
    · have hlevel : ∀ run ∈ level, chain.Onward True start run.stop := fun run hrun =>
        hruns run (List.mem_append_left _ (List.mem_reverse.2 hrun))
      have hall := onward_of_mem_all hlevel hsteps run
        (Steps.mem_all_of_mem_advancing (List.mem_reverse.1 hrun))
      exact hall.reaches.onward
    · exact hruns run hrun
  · intro run hrun
    have hfirst : run = .still start [] := by simpa using hrun
    rw [hfirst]
    exact .here trivial
  · rintro misses ⟨runs, seen⟩ ⟨_, level, explored, hruns, rfl, _⟩ candidate hmem
    obtain ⟨run, hrun, rfl⟩ := List.mem_map.1 hmem
    exact hruns run (List.mem_reverse.1 hrun)

theorem manyLongestFirst
    (hp : ∀ between, chain.Reaches start between → p.Advances observation chain still between) :
    p.manyLongestFirst.Advances observation chain True start := by
  refine observation.map (manyShortestFirst hp) fun misses outcome h => ?_
  rw [Outcome.candidates_mapCandidates _ rfl]
  exact fun candidate hmem => h candidate (List.mem_reverse.1 hmem)

theorem manyGreedy
    (hp : ∀ between, chain.Reaches start between → p.Advances observation chain still between) :
    p.manyGreedy.Advances observation chain True start := by
  refine observation.map (observation.yields_climb_of_mem
    (fun between _ outcome => ∀ candidate ∈ outcome.candidates,
      chain.Onward still between candidate.stop)
    (fun level _ _ => ∀ run ∈ level, chain.Onward True start run.stop)
    (fun hlevel run hrun => hp run.stop (hlevel run hrun).reaches) ?_ ?_ _ [] ?_) ?_
  · intro level seen misses later steps hlevel hsteps _ run hrun
    have hall := onward_of_mem_all hlevel hsteps run (Steps.mem_all_of_mem_advancing hrun)
    exact hall.reaches.onward
  · exact fun hlevel _ _ => hlevel
  · intro run hrun
    rw [List.mem_singleton.1 hrun]
    exact .here trivial
  · rintro misses ⟨runs, seen⟩ hlevel candidate hmem
    obtain ⟨run, hrun, rfl⟩ := List.mem_map.1 hmem
    exact hlevel run hrun

theorem exactly (count : Nat)
    (hp : count ≠ 0 → ∀ between, chain.Reaches start between →
      p.Advances observation chain still between) :
    (Parser.exactly count p).Advances observation chain (count = 0 ∨ still) start := by
  refine observation.yields_exactlyFrom_of_mem
    (fun between _ outcome => ∀ candidate ∈ outcome.candidates,
      chain.Onward still between candidate.stop)
    (fun left level _ _ => left ≤ count ∧
      ∀ run ∈ level, chain.Onward (left = count ∨ still) start run.stop)
    (fun hlevel run hrun => hp (Nat.ne_of_gt (Nat.lt_of_lt_of_le (Nat.succ_pos _) hlevel.1))
      run.stop (hlevel.2 run hrun).reaches)
    (fun _ outcome => ∀ candidate ∈ outcome.candidates,
      chain.Onward (count = 0 ∨ still) start candidate.stop) ?_ ?_ ?_ count [] ⟨Nat.le_refl _, ?_⟩
  · rintro left level seen misses later steps ⟨hle, hlevel⟩ hsteps _
    refine ⟨Nat.le_of_succ_le hle, fun run hrun => ?_⟩
    exact (onward_of_mem_all hlevel hsteps run hrun).imp fun hstill => .inr hstill.2
  · intro left level seen misses later steps _ _ _ candidate hmem
    rw [Outcome.candidates_settle] at hmem
    cases hmem
  · rintro level seen misses ⟨_, hlevel⟩ candidate hmem
    obtain ⟨run, hrun, rfl⟩ := List.mem_map.1 hmem
    exact (hlevel run hrun).imp (.imp_left Eq.symm)
  · intro run hrun
    rw [List.mem_singleton.1 hrun]
    exact .here (.inl rfl)

/-! ### Operators -/

section

variable {p q : Parser m Value}

theorem unary {operator : UnaryOperator}
    (hp : operator.entersPart → ∀ between, chain.Reaches start between →
      p.Advances observation chain still between) :
    (operator.parser p).Advances observation chain (operator.isNullable ∨ still) start := by
  cases operator with
  | mapped transform => exact ((hp rfl start .here).map _).imp .inr
  | spanned view => exact ((hp rfl start .here).mapCandidate _).imp .inr
  | relabelled message => exact ((hp rfl start .here).relabel message).imp .inr
  | grouped => exact ((hp rfl start .here).grouped.map _).imp .inr
  | recovered message value =>
      exact ((hp rfl start .here).recover message value).imp fun _ => .inl rfl
  | optional => exact ((hp rfl start .here).optional.map _).imp fun _ => .inl rfl
  | optionalGreedy => exact ((hp rfl start .here).optionalGreedy.map _).imp fun _ => .inl rfl
  | manyShortestFirst => exact ((manyShortestFirst (hp rfl)).map _).imp fun _ => .inl rfl
  | manyLongestFirst => exact ((manyLongestFirst (hp rfl)).map _).imp fun _ => .inl rfl
  | manyGreedy => exact ((manyGreedy (hp rfl)).map _).imp fun _ => .inl rfl
  | exactly count =>
      have hcount : count ≠ 0 → (UnaryOperator.exactly count).entersPart := by
        simp [UnaryOperator.entersPart]
      refine ((exactly count fun hne => hp (hcount hne)).map _).imp (.imp_left ?_)
      rintro rfl
      rfl

theorem separatedExactly (count : Nat) {q : Parser m Value}
    (hp : count ≠ 0 → ∀ between, chain.Reaches start between →
      p.Advances observation chain still between)
    (hq : 1 < count → ∀ between, chain.Onward still start between →
      q.Advances observation chain still' between) :
    (Parser.separatedExactly count p q).Advances observation chain
      (count = 0 ∨ count = 1 ∧ still ∨ still ∧ still') start := by
  match count with
  | 0 => exact (succeed []).imp fun _ => .inl rfl
  | 1 =>
      exact ((hp Nat.one_ne_zero start .here).map _).imp fun hstill => .inr (.inl ⟨rfl, hstill⟩)
  | count + 2 =>
      have hstep : ∀ between, chain.Onward still start between →
          (q.seqRight p).Advances observation chain (still' ∧ still) between := by
        intro between hbetween
        refine ((hq (Nat.one_lt_succ_succ count) between hbetween).seq fun later hlater => ?_).map _
        exact hp (Nat.succ_ne_zero _) later (hbetween.trans hlater).reaches
      have hrest : ∀ between, chain.Onward still start between →
          (Parser.exactly (count + 1) (q.seqRight p)).Advances observation chain
            (still' ∧ still) between := by
        intro between hbetween
        refine (exactly (count + 1) fun _ later hlater => hstep later ?_).imp
          fun hstill => hstill.resolve_left (Nat.succ_ne_zero count)
        exact (hbetween.trans hlater.onward).imp And.left
      refine (((hp (Nat.succ_ne_zero _) start .here).seq hrest).map _).imp ?_
      exact fun hstill => .inr (.inr ⟨hstill.1, hstill.2.1⟩)

/-- The second part is entered at the start if it is an alternative, or follows nothing. -/
theorem binary {operator : BinaryOperator}
    (hp : operator.entersFirst → ∀ between, chain.Reaches start between →
      p.Advances observation chain still between)
    (hq : operator.entersSecond → ∀ between,
      chain.Onward (operator.isChoice ∨ still) start between →
      q.Advances observation chain still' between) :
    (operator.parser p q).Advances observation chain
      (operator = .separatedExactly 0 ∨ operator.endsAfterFirst ∧ still ∨
        operator.isChoice ∧ still' ∨ still ∧ still') start := by
  have hjoined (hfirst : operator.entersFirst) (hsecond : operator.entersSecond) :
      (p.seq q).Advances observation chain (still ∧ still') start :=
    (hp hfirst start .here).seq fun between hbetween => hq hsecond between (hbetween.imp .inr)
  -- what follows the head of a list: a separator and another part
  have hstep (hfirst : operator.entersFirst) (hsecond : operator.entersSecond) (between : Cursor)
      (hbetween : chain.Onward still start between) :
      (q.seqRight p).Advances observation chain (still' ∧ still) between := by
    refine ((hq hsecond between (hbetween.imp .inr)).seq fun later hlater => ?_).map _
    exact hp hfirst later (hbetween.trans hlater).reaches
  have honward {between later : Cursor} (hbetween : chain.Onward still start between)
      (hlater : chain.Reaches between later) : chain.Onward still start later :=
    (hbetween.trans hlater.onward).imp And.left
  cases operator with
  | seq | seqLeft | seqRight => exact ((hjoined rfl rfl).map _).imp fun h => .inr (.inr (.inr h))
  | either =>
      refine (either (hp rfl start .here) (hq rfl start (.here (.inl rfl)))).imp ?_
      exact Or.rec (fun h => .inr (.inl ⟨rfl, h⟩)) fun h => .inr (.inr (.inl ⟨rfl, h⟩))
  | orElse =>
      refine (orElse (hp rfl start .here) (hq rfl start (.here (.inl rfl)))).imp ?_
      exact Or.rec (fun h => .inr (.inl ⟨rfl, h⟩)) fun h => .inr (.inr (.inl ⟨rfl, h⟩))
  | separated =>
      refine ((((hp rfl start .here).seq fun between hbetween => manyLongestFirst
        fun later hlater => hstep rfl rfl later (honward hbetween hlater)).map _).map _).imp ?_
      exact fun h => .inr (.inl ⟨rfl, h.1⟩)
  | separatedGreedy =>
      refine ((((hp rfl start .here).seq fun between hbetween => manyGreedy
        fun later hlater => hstep rfl rfl later (honward hbetween hlater)).map _).map _).imp ?_
      exact fun h => .inr (.inl ⟨rfl, h.1⟩)
  | folded fold =>
      refine (((hp rfl start .here).seq fun between hbetween => manyLongestFirst
        fun later hlater => hq rfl later ((honward hbetween hlater).imp .inr)).map _).imp ?_
      exact fun h => .inr (.inl ⟨rfl, h.1⟩)
  | foldedGreedy fold =>
      refine (((hp rfl start .here).seq fun between hbetween => manyGreedy
        fun later hlater => hq rfl later ((honward hbetween hlater).imp .inr)).map _).imp ?_
      exact fun h => .inr (.inl ⟨rfl, h.1⟩)
  | separatedExactly count =>
      have hcount : count ≠ 0 → (BinaryOperator.separatedExactly count).entersFirst := by
        simp [BinaryOperator.entersFirst]
      refine ((separatedExactly count (fun hne => hp (hcount hne)) fun hlt between hbetween =>
        hq (decide_eq_true hlt) between (hbetween.imp .inr)).map _).imp ?_
      rintro (rfl | ⟨rfl, hstill⟩ | hstill)
      · exact .inl rfl
      · exact .inr (.inl ⟨rfl, hstill⟩)
      · exact .inr (.inr (.inr hstill))

end

end Parser.Advances

end TokenGrammar
