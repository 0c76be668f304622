import TokenGrammar.Proofs.Enumeration

/-!
# Committing combinators invent nothing

A combinator that commits to a branch leaves out readings, and which ones depends on what fails. It
never has a candidate that the exhaustive combinator in its place would not have: a branch that was
chosen is a branch, and the runs of a last level are runs. So the candidates of a parser are
readings of a relation if those of its parts are, in which every committing combinator counts as the
exhaustive one.
-/

namespace TokenGrammar

variable {m : Type → Type} [Monad m] {ι κ α β : Type}

def Parser.Within (observation : Observation m) (chain : Chain) (p : Parser m α)
    (readings : Readings ι α) : Prop :=
  ∀ start, observation.Yields (p chain start) fun _ outcome =>
    ∀ candidate ∈ outcome.candidates, ∃ way, readings.Gives start way candidate

namespace Parser.Within

variable {observation : Observation m} {chain : Chain} {p : Parser m α} {q : Parser m β}
  {readings : Readings ι α} {others : Readings κ β}

theorem succeed (value : α) : (Parser.succeed value).Within observation chain
    fun start (_ : Unit) value' stop => value' = value ∧ stop = start := by
  refine fun start => observation.pure fun candidate hcandidate => ?_
  rw [List.mem_singleton.1 hcandidate]
  exact ⟨(), rfl, rfl, rfl⟩

theorem mapCandidate (hp : p.Within observation chain readings) (f : Chain → Candidate α → β) :
    (p.mapCandidate f).Within observation chain (readings.view (f chain)) := by
  refine fun start => observation.yields_mapCandidate (hp start) fun _ outcome h => ?_
  rw [Outcome.candidates_mapCandidates _ rfl]
  intro candidate hcandidate
  obtain ⟨candidate, hmem, rfl⟩ := List.mem_map.1 hcandidate
  obtain ⟨way, rfl, hread⟩ := h candidate hmem
  exact ⟨way, rfl, _, hread, rfl⟩

theorem map (hp : p.Within observation chain readings) (f : α → β) :
    (p.map f).Within observation chain (readings.map f) :=
  hp.mapCandidate fun _ candidate => f candidate.value

theorem relabel (hp : p.Within observation chain readings) (message : String) :
    (p.relabel message).Within observation chain readings := by
  refine fun start => observation.yields_relabel (hp start) ?_ ?_
  · exact fun misses candidates carried? h => h
  · exact fun misses diagnostic h => h

section

variable {q : Parser m α} {others : Readings κ α}

theorem either (hp : p.Within observation chain readings) (hq : q.Within observation chain others) :
    (p.either q).Within observation chain (readings.either others) := by
  intro start
  refine observation.yields_either (hp start) (hq start) fun _ first _ second h h' => ?_
  rw [Outcome.candidates_settle]
  intro candidate hcandidate
  rcases List.mem_append.1 hcandidate with hmem | hmem
  · obtain ⟨way, hgives⟩ := h candidate hmem
    exact ⟨.inl way, hgives⟩
  · obtain ⟨way, hgives⟩ := h' candidate hmem
    exact ⟨.inr way, hgives⟩

/-- The second branch is one of two, also where it is taken because the first has failed. -/
theorem orElse (hp : p.Within observation chain readings) (hq : q.Within observation chain others) :
    (p.orElse q).Within observation chain (readings.either others) := by
  refine fun start => observation.yields_orElse (hp start) (hq start) ?_ ?_ ?_
  · intro misses candidates carried? h candidate hmem
    obtain ⟨way, hgives⟩ := h candidate hmem
    exact ⟨.inl way, hgives⟩
  · intro misses diagnostic later candidates carried? _ h candidate hmem
    obtain ⟨way, hgives⟩ := h candidate hmem
    exact ⟨.inr way, hgives⟩
  · exact fun misses diagnostic later diagnostic' _ _ candidate hmem => nomatch hmem

end

theorem optional (hp : p.Within observation chain readings) :
    p.optional.Within observation chain readings.optional := by
  refine fun start => observation.yields_optional (hp start) fun _ outcome h candidate hmem => ?_
  rcases List.mem_append.1 hmem with hmem | hmem
  · obtain ⟨present, hpresent, rfl⟩ := List.mem_map.1 hmem
    obtain ⟨way, hstart, hread⟩ := h present hpresent
    exact ⟨some way, hstart, _, hread, rfl⟩
  · rw [List.mem_singleton.1 hmem]
    exact ⟨none, rfl, rfl, rfl⟩

theorem optionalGreedy (hp : p.Within observation chain readings) :
    p.optionalGreedy.Within observation chain readings.optional := by
  refine fun start => observation.yields_optionalGreedy (hp start) ?_ ?_
  · intro misses candidates carried? h candidate hmem
    obtain ⟨present, hpresent, rfl⟩ := List.mem_map.1 hmem
    obtain ⟨way, hstart, hread⟩ := h present hpresent
    exact ⟨some way, hstart, _, hread, rfl⟩
  · intro misses diagnostic _ candidate hmem
    rw [List.mem_singleton.1 hmem]
    exact ⟨none, rfl, rfl, rfl⟩

variable [LawfulMonad m]

theorem bind {next : α → Parser m β} {others : α → Readings κ β}
    (hp : p.Within observation chain readings)
    (hnext : ∀ value, (next value).Within observation chain (others value)) :
    (p.bind next).Within observation chain (readings.bind others) := by
  refine fun start => observation.yields_bind (hp start) hnext
    fun _ firsts later parts hfirsts hparts => ?_
  rw [Outcome.gather, Outcome.candidates_settle]
  intro candidate hmem
  obtain ⟨part, hpart, hmem⟩ := List.mem_flatMap.1 hmem
  obtain ⟨second, hsecond, rfl⟩ := List.mem_map.1 hmem
  obtain ⟨first, hfirst, _, hseconds⟩ := hparts.exists_of_mem_right hpart
  obtain ⟨way, rfl, hread⟩ := hfirsts first hfirst
  obtain ⟨way', _, hread'⟩ := hseconds second hsecond
  exact ⟨(way, way'), rfl, first.value, first.stop, hread, hread'⟩

theorem seq (hp : p.Within observation chain readings) (hq : q.Within observation chain others) :
    (p.seq q).Within observation chain (readings.seq others) := by
  intro start
  refine observation.yields_seq (hp start) hq fun _ firsts later parts hfirsts hparts => ?_
  rw [Outcome.gather, Outcome.candidates_settle]
  intro candidate hmem
  obtain ⟨part, hpart, hmem⟩ := List.mem_flatMap.1 hmem
  obtain ⟨first, hfirst, _, seconds, hseconds, rfl⟩ := hparts.exists_of_mem_right hpart
  rw [Outcome.candidates_map, List.map_map] at hmem
  obtain ⟨second, hsecond, rfl⟩ := List.mem_map.1 hmem
  obtain ⟨way, rfl, hread⟩ := hfirsts first hfirst
  obtain ⟨way', _, hread'⟩ := hseconds second hsecond
  exact ⟨(way, way'), rfl, first.stop, hread, hread'⟩

theorem exists_extend {level : List (Candidate (List α))} {later : List Diagnostic}
    {steps : Steps α} (select : Candidate (List α) × Outcome α → List (Candidate α))
    (hsteps : Collected (fun run _ step => step.1 = run ∧
      ∀ candidate ∈ select step, ∃ way, readings.Gives run.stop way candidate) level later steps)
    {next : Candidate (List α)}
    (hnext : next ∈ steps.flatMap fun step => (select step).map step.1.extend) :
    ∃ run ∈ level, ∃ way candidate, readings.Gives run.stop way candidate ∧
      next = run.extend candidate := by
  obtain ⟨step, hstep, hnext⟩ := List.mem_flatMap.1 hnext
  obtain ⟨candidate, hcandidate, rfl⟩ := List.mem_map.1 hnext
  obtain ⟨run, hrun, _, rfl, hselect⟩ := hsteps.exists_of_mem_right hstep
  obtain ⟨way, hgives⟩ := hselect candidate hcandidate
  exact ⟨_, hrun, way, candidate, hgives, rfl⟩

theorem runs_advancing {start : Cursor} {level : List (Candidate (List α))}
    {later : List Diagnostic} {steps : Steps α}
    (hlevel : ∀ run ∈ level, ∃ count ways, readings.moving.Runs start count ways run)
    (hsteps : Collected (Observation.StepOf fun start _ outcome => ∀ candidate ∈ outcome.candidates,
      ∃ way, readings.Gives start way candidate) level later steps) :
    ∀ run ∈ steps.advancing, ∃ count ways, readings.moving.Runs start count ways run := by
  intro next hnext
  have hmoving : ∃ run ∈ level, ∃ way candidate, readings.moving.Gives run.stop way candidate ∧
      next = run.extend candidate := by
    refine exists_extend
      (fun step => step.2.candidates.filter fun candidate => candidate.stop != step.1.stop)
      (hsteps.imp fun run _ step hstep => ⟨hstep.1, fun candidate hcandidate => ?_⟩) hnext
    obtain ⟨hmem, hstop⟩ := List.mem_filter.1 hcandidate
    obtain ⟨way, hstart, hread⟩ := hstep.2 candidate hmem
    refine ⟨way, hstart, hread, ?_⟩
    rw [← hstep.1]
    exact bne_iff_ne.1 hstop
  obtain ⟨run, hrun, way, candidate, hgives, rfl⟩ := hmoving
  obtain ⟨count, ways, hruns⟩ := hlevel run hrun
  exact ⟨count + 1, ways ++ [way], hruns.extend hgives⟩

theorem manyShortestFirst (hp : p.Within observation chain readings) :
    p.manyShortestFirst.Within observation chain readings.many := by
  intro start
  refine observation.map (observation.yields_explore hp (fun _ level explored _ _ =>
    ∀ run ∈ level.reverse ++ explored, ∃ count ways, readings.moving.Runs start count ways run)
    ?_ _ 0 [] ?_) ?_
  · intro count level explored seen misses later steps hruns hsteps run hrun
    rcases List.mem_append.1 hrun with hrun | hrun
    · refine runs_advancing (fun run hrun => hruns run ?_) hsteps run (List.mem_reverse.1 hrun)
      exact List.mem_append_left _ (List.mem_reverse.2 hrun)
    · exact hruns run hrun
  · intro run hrun
    exact ⟨0, (readings.moving.runs_zero start).exists_of_mem (by simpa using hrun)⟩
  · rintro misses ⟨runs, seen⟩ ⟨_, level, explored, hruns, rfl, _⟩ candidate hmem
    obtain ⟨run, hrun, rfl⟩ := List.mem_map.1 hmem
    obtain ⟨count, ways, hstart, _, hrepeats⟩ := hruns run (List.mem_reverse.1 hrun)
    exact ⟨ways, hstart, hrepeats⟩

theorem manyLongestFirst (hp : p.Within observation chain readings) :
    p.manyLongestFirst.Within observation chain readings.many := by
  refine fun start => observation.map (hp.manyShortestFirst start) fun misses outcome h => ?_
  rw [Outcome.candidates_mapCandidates _ rfl]
  exact fun candidate hmem => h candidate (List.mem_reverse.1 hmem)

theorem manyGreedy (hp : p.Within observation chain readings) :
    p.manyGreedy.Within observation chain readings.many := by
  intro start
  refine observation.map (observation.yields_climb hp (fun level _ _ =>
    ∀ run ∈ level, ∃ count ways, readings.moving.Runs start count ways run) ?_ ?_ _ [] ?_) ?_
  · exact fun hlevel hsteps _ => runs_advancing hlevel hsteps
  · exact fun hlevel _ _ => hlevel
  · exact fun run hrun => ⟨0, (readings.moving.runs_zero start).exists_of_mem hrun⟩
  · rintro misses ⟨runs, seen⟩ hruns candidate hmem
    obtain ⟨run, hrun, rfl⟩ := List.mem_map.1 hmem
    obtain ⟨count, ways, hstart, _, hrepeats⟩ := hruns run hrun
    exact ⟨ways, hstart, hrepeats⟩

theorem exactly (hp : p.Within observation chain readings) (count : Nat) :
    (Parser.exactly count p).Within observation chain (readings.exactly count) := by
  intro start
  refine observation.yields_exactlyFrom hp (fun left level _ _ =>
    ∃ done, done + left = count ∧ ∀ run ∈ level, ∃ ways, readings.Runs start done ways run)
    (fun _ outcome => ∀ candidate ∈ outcome.candidates, ∃ way,
      (readings.exactly count).Gives start way candidate)
    ?_ ?_ ?_ count [] ⟨0, by omega, fun run hrun => (readings.runs_zero start).exists_of_mem hrun⟩
  · rintro left level seen misses later steps ⟨done, hdone, hlevel⟩ hsteps _
    refine ⟨done + 1, by omega, fun next hnext => ?_⟩
    obtain ⟨run, hrun, way, candidate, hgives, rfl⟩ :=
      exists_extend (fun step => step.2.candidates)
        (hsteps.imp fun run _ step hstep => ⟨hstep.1, hstep.2⟩) hnext
    obtain ⟨ways, hruns⟩ := hlevel run hrun
    exact ⟨ways ++ [way], hruns.extend hgives⟩
  · intro left level seen misses later steps _ _ _ candidate hmem
    rw [Outcome.candidates_settle] at hmem
    cases hmem
  · rintro level seen misses ⟨done, rfl, hlevel⟩ candidate hmem
    obtain ⟨run, hrun, rfl⟩ := List.mem_map.1 hmem
    exact hlevel run hrun

end Parser.Within

end TokenGrammar
