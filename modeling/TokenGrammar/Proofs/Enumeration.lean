import TokenGrammar.Proofs.Combinators
import TokenGrammar.Proofs.Readings
import Mathlib.Data.Option.Basic
import Mathlib.Data.Sum.Basic

/-!
# Exhaustive combinators enumerate

An exhaustive combinator finds every reading once: if its parts enumerate what they read, then its
own candidates enumerate the relation that it stands for. Repetitions explore level by level. A
level enumerates the runs of one length, and the levels before it all shorter ones, so nothing is
left when a level is empty, and nothing can be left after one level for each remaining token.
-/

namespace TokenGrammar

variable {m : Type → Type} [Monad m] {ι κ μ α β : Type}

namespace Enumerates

variable {relation : ι → α → Prop} {elements : List α}

theorem mapWays {image : κ → α → Prop} (h : Enumerates relation elements) {f : ι → κ}
    (hf : Function.Injective f)
    (himage : ∀ way' element, image way' element ↔ ∃ way, relation way element ∧ way' = f way) :
    Enumerates image elements := by
  rw [← List.map_id elements]
  refine h.map hf id fun way' element => (himage way' element).trans ?_
  constructor
  · rintro ⟨way, hrelation, rfl⟩
    exact ⟨way, element, hrelation, rfl, rfl⟩
  · rintro ⟨way, _, hrelation, rfl, rfl⟩
    exact ⟨way, hrelation, rfl⟩

theorem mapElements {image : ι → β → Prop} (h : Enumerates relation elements) (g : α → β)
    (himage : ∀ way element', image way element' ↔
      ∃ element, relation way element ∧ element' = g element) :
    Enumerates image (elements.map g) := by
  refine h.map Function.injective_id g fun way element' => (himage way element').trans ?_
  constructor
  · rintro ⟨element, hrelation, rfl⟩
    exact ⟨way, element, hrelation, rfl, rfl⟩
  · rintro ⟨_, element, hrelation, rfl, rfl⟩
    exact ⟨element, hrelation, rfl⟩

end Enumerates

/-! ### Levels of runs -/

theorem Candidate.inOrder_inOrder (run : Candidate (List α)) : run.inOrder.inOrder = run := by
  simp [Candidate.inOrder, Candidate.map]

namespace Readings

variable {readings : Readings ι α} {start : Cursor} {count : Nat}
  {level : List (Candidate (List α))}

/-- The runs of a number of steps, each with its values latest first. -/
def Runs (readings : Readings ι α) (start : Cursor) (count : Nat) (ways : List ι)
    (run : Candidate (List α)) : Prop :=
  (readings.exactly count).Gives start ways run.inOrder

theorem runs_zero (readings : Readings ι α) (start : Cursor) :
    Enumerates (readings.Runs start 0) [.still start []] := by
  refine .singleton [] _ fun ways run => ?_
  constructor
  · rintro ⟨hstart, hlength, hrepeats⟩
    obtain rfl := List.length_eq_zero_iff.1 hlength
    obtain ⟨hvalue, hstop⟩ := repeats_nil_iff.1 hrepeats
    obtain ⟨first, stop, value⟩ := run
    obtain rfl : value = [] := List.reverse_eq_nil_iff.1 hvalue
    obtain rfl : first = start := hstart
    obtain rfl : stop = first := hstop
    exact ⟨rfl, rfl⟩
  · rintro ⟨rfl, rfl⟩
    exact ⟨rfl, rfl, .nil start⟩

theorem Runs.extend {ways : List ι} {run : Candidate (List α)} {way : ι} {step : Candidate α}
    (hrun : readings.Runs start count ways run) (hstep : readings.Gives run.stop way step) :
    readings.Runs start (count + 1) (ways ++ [way]) (run.extend step) := by
  obtain ⟨hstart, hlength, hrepeats⟩ := hrun
  refine ⟨hstart, by simpa using hlength, repeats_concat_iff.2 ?_⟩
  exact ⟨run.stop, run.value.reverse, step.value, List.reverse_cons, hrepeats, hstep.2⟩

/-- The next level, if each run is continued by the readings from its end. -/
theorem runs_extend (hlevel : Enumerates (readings.Runs start count) level)
    (select : Candidate (List α) × Outcome α → List (Candidate α)) {later : List Diagnostic}
    {steps : Steps α} (hsteps : Collected (fun run _ step => step.1 = run ∧
      Enumerates (readings.Gives run.stop) (select step)) level later steps) :
    Enumerates (readings.Runs start (count + 1))
      (steps.flatMap fun step => (select step).map step.1.extend) := by
  have hnext : ∀ run (misses : List Diagnostic) (step : Candidate (List α) × Outcome α),
      (step.1 = run ∧ Enumerates (readings.Gives run.stop) (select step)) →
      Enumerates (fun way run' => ∃ candidate, readings.Gives run.stop way candidate ∧
        run' = run.extend candidate) ((select step).map step.1.extend) := by
    rintro run _ step ⟨rfl, hstep⟩
    exact hstep.mapElements _ fun way run' => Iff.rfl
  refine (Enumerates.collected hnext hlevel hsteps).mapWays (f := fun way => way.1 ++ [way.2]) ?_ ?_
  · rintro ⟨ways, way⟩ ⟨ways', way'⟩ heq
    have := List.append_inj' heq rfl
    simp_all
  · intro ways run
    constructor
    · rintro ⟨hstart, hlength, hrepeats⟩
      rcases ways.eq_nil_or_concat with rfl | ⟨ways, way, rfl⟩
      · cases hlength
      · rw [List.concat_eq_append] at hlength hrepeats ⊢
        obtain ⟨between, values, value, hvalues, hrepeats, hlast⟩ := repeats_concat_iff.1 hrepeats
        have hvalue : run.value = value :: values.reverse := by
          rw [← List.reverse_inj, List.reverse_cons, List.reverse_reverse]
          exact hvalues
        refine ⟨(ways, way), ⟨⟨start, between, values.reverse⟩, ⟨rfl, by simpa using hlength, ?_⟩,
          ⟨between, run.stop, value⟩, ⟨rfl, hlast⟩, ?_⟩, rfl⟩
        · simpa [Candidate.inOrder, Candidate.map] using hrepeats
        · obtain ⟨_, stop, _⟩ := run
          cases hstart
          cases hvalue
          rfl
    · rintro ⟨⟨ways, way⟩, ⟨run, hrun, candidate, hstep, rfl⟩, rfl⟩
      exact hrun.extend hstep

end Readings

/-- Whether the candidates of a parser enumerate readings. -/
def Parser.Lists (observation : Observation m) (chain : Chain) (p : Parser m α)
    (readings : Readings ι α) : Prop :=
  ∀ start, observation.Yields (p chain start) fun _ outcome =>
    Enumerates (readings.Gives start) outcome.candidates

namespace Parser.Lists

variable {observation : Observation m} {chain : Chain} {p : Parser m α} {q : Parser m β}
  {readings : Readings ι α} {others : Readings κ β}

theorem succeed (value : α) : (Parser.succeed value).Lists observation chain
    fun start (_ : Unit) value' stop => value' = value ∧ stop = start := by
  refine fun start => observation.pure (.singleton () _ fun way candidate => ?_)
  constructor
  · rintro ⟨hstart, hvalue, hstop⟩
    obtain ⟨first, stop, value'⟩ := candidate
    obtain rfl : first = start := hstart
    obtain rfl : value' = value := hvalue
    obtain rfl : stop = first := hstop
    exact ⟨rfl, rfl⟩
  · rintro ⟨_, rfl⟩
    exact ⟨rfl, rfl, rfl⟩

theorem mapCandidate (hp : p.Lists observation chain readings) (f : Chain → Candidate α → β) :
    (p.mapCandidate f).Lists observation chain (readings.view (f chain)) := by
  refine fun start => observation.yields_mapCandidate (hp start) fun _ outcome h => ?_
  rw [Outcome.candidates_mapCandidates _ rfl]
  refine h.mapElements _ fun way candidate => ?_
  constructor
  · rintro ⟨rfl, value, hread, hvalue⟩
    exact ⟨⟨candidate.start, candidate.stop, value⟩, ⟨rfl, hread⟩, by rw [Candidate.map, ← hvalue]⟩
  · rintro ⟨candidate, ⟨rfl, hread⟩, rfl⟩
    exact ⟨rfl, _, hread, rfl⟩

theorem map (hp : p.Lists observation chain readings) (f : α → β) :
    (p.map f).Lists observation chain (readings.map f) :=
  hp.mapCandidate fun _ candidate => f candidate.value

theorem relabel (hp : p.Lists observation chain readings) (message : String) :
    (p.relabel message).Lists observation chain readings := by
  refine fun start => observation.yields_relabel (hp start) ?_ ?_
  · exact fun misses candidates carried? h => h
  · exact fun misses diagnostic h => h

theorem either {q : Parser m α} {others : Readings κ α} (hp : p.Lists observation chain readings)
    (hq : q.Lists observation chain others) :
    (p.either q).Lists observation chain (readings.either others) := by
  intro start
  refine observation.yields_either (hp start) (hq start) fun _ first _ second h h' => ?_
  rw [Outcome.candidates_settle]
  have hfirst : Enumerates (fun way candidate => ∃ way', readings.Gives start way' candidate ∧
      way = (.inl way' : ι ⊕ κ)) first.candidates :=
    h.mapWays Sum.inl_injective fun _ _ => Iff.rfl
  have hsecond : Enumerates (fun way candidate => ∃ way', others.Gives start way' candidate ∧
      way = (.inr way' : ι ⊕ κ)) second.candidates :=
    h'.mapWays Sum.inr_injective fun _ _ => Iff.rfl
  refine hfirst.append hsecond ?_ fun way candidate => ?_
  · rintro way candidate candidate' ⟨_, _, rfl⟩ ⟨_, _, heq⟩
    cases heq
  · cases way with
    | inl way => simp [Readings.Gives, Readings.either]
    | inr way => simp [Readings.Gives, Readings.either]

theorem optional (hp : p.Lists observation chain readings) :
    p.optional.Lists observation chain readings.optional := by
  refine fun start => observation.yields_optional (hp start) fun _ outcome h => ?_
  have hpresent : Enumerates (fun way candidate => ∃ way' candidate',
      readings.Gives start way' candidate' ∧ way = some way' ∧ candidate = candidate'.map some)
      (outcome.candidates.map (·.map some)) :=
    h.map (Option.some_injective ι) _ fun _ _ => Iff.rfl
  have habsent : Enumerates (fun (way : Option ι) candidate => way = none ∧
      candidate = .still start none) [(.still start none : Candidate (Option α))] :=
    .singleton none _ fun _ _ => Iff.rfl
  refine hpresent.append habsent ?_ fun way candidate => ?_
  · rintro way candidate candidate' ⟨_, _, _, rfl, _⟩ ⟨heq, _⟩
    cases heq
  · constructor
    · rintro ⟨hstart, hread⟩
      obtain ⟨first, stop, value⟩ := candidate
      obtain rfl : first = start := hstart
      cases way with
      | none =>
          obtain ⟨hvalue, hstop⟩ := hread
          obtain rfl : value = none := hvalue
          obtain rfl : stop = first := hstop
          exact .inr ⟨rfl, rfl⟩
      | some way =>
          obtain ⟨value', hread, hvalue⟩ := hread
          obtain rfl : value = some value' := hvalue
          exact .inl ⟨way, ⟨first, stop, value'⟩, ⟨rfl, hread⟩, rfl, rfl⟩
    · rintro (⟨way, candidate, ⟨rfl, hread⟩, rfl, rfl⟩ | ⟨rfl, rfl⟩)
      · exact ⟨rfl, candidate.value, hread, rfl⟩
      · exact ⟨rfl, rfl, rfl⟩

variable [LawfulMonad m]

theorem bind {next : α → Parser m β} {others : α → Readings κ β}
    (hp : p.Lists observation chain readings)
    (hnext : ∀ value, (next value).Lists observation chain (others value)) :
    (p.bind next).Lists observation chain (readings.bind others) := by
  refine fun start => observation.yields_bind (hp start) hnext
    fun _ firsts later parts hfirsts hparts => ?_
  rw [Outcome.gather, Outcome.candidates_settle]
  have hjoined := Enumerates.collected (fun (first : Candidate α) _ part hpart =>
    Enumerates.mapElements hpart (·.startingAt start) fun way candidate => Iff.rfl) hfirsts hparts
  refine hjoined.congr fun way candidate => ?_
  constructor
  · rintro ⟨hstart, value, between, hfirst, hsecond⟩
    refine ⟨⟨start, between, value⟩, ⟨rfl, hfirst⟩,
      ⟨between, candidate.stop, candidate.value⟩, ⟨rfl, hsecond⟩, ?_⟩
    rw [Candidate.startingAt, ← hstart]
  · rintro ⟨first, ⟨_, hfirst⟩, second, ⟨_, hsecond⟩, rfl⟩
    exact ⟨rfl, first.value, first.stop, hfirst, hsecond⟩

theorem seq (hp : p.Lists observation chain readings) (hq : q.Lists observation chain others) :
    (p.seq q).Lists observation chain (readings.seq others) := by
  intro start
  refine observation.yields_seq (hp start) hq fun _ firsts later parts hfirsts hparts => ?_
  rw [Outcome.gather, Outcome.candidates_settle]
  have hpart : ∀ (first : Candidate α) (misses : List Diagnostic) (part : Outcome (α × β)),
      (∃ seconds : Outcome β, Enumerates (others.Gives first.stop) seconds.candidates ∧
        part = seconds.map fun value => (first.value, value)) →
      Enumerates (fun way candidate => ∃ second, others.Gives first.stop way second ∧
          candidate = (second.map fun value => (first.value, value)).startingAt start)
        (part.candidates.map (·.startingAt start)) := by
    rintro first _ _ ⟨seconds, hseconds, rfl⟩
    rw [Outcome.candidates_map, List.map_map]
    exact hseconds.mapElements _ fun way candidate => Iff.rfl
  refine (Enumerates.collected hpart hfirsts hparts).congr fun way candidate => ?_
  constructor
  · rintro ⟨hstart, between, hfirst, hsecond⟩
    obtain ⟨first, stop, value, value'⟩ := candidate
    obtain rfl : first = start := hstart
    exact ⟨⟨first, between, value⟩, ⟨rfl, hfirst⟩, ⟨between, stop, value'⟩, ⟨rfl, hsecond⟩, rfl⟩
  · rintro ⟨first, ⟨_, hfirst⟩, second, ⟨_, hsecond⟩, rfl⟩
    exact ⟨rfl, first.stop, hfirst, hsecond⟩

/-- Every number of steps is listed. The last level is empty, or it has as many steps as tokens were
left and one more, and then it is empty too. -/
theorem manyShortestFirst (hp : p.Lists observation chain readings)
    (hforward : readings.Forward chain) :
    p.manyShortestFirst.Lists observation chain readings.many := by
  intro start
  refine observation.map (observation.yields_explore hp (fun count level explored _ _ =>
    Enumerates (readings.moving.Runs start count) level ∧ Enumerates (fun ways run =>
      ways.length < count ∧ readings.many.Gives start ways run.inOrder) explored)
    ?_ _ 0 [] ⟨readings.moving.runs_zero start, .nil fun _ _ h => Nat.not_lt_zero _ h.1⟩) ?_
  · rintro count level explored seen misses later steps ⟨hlevel, hexplored⟩ hsteps
    constructor
    · refine Readings.runs_extend hlevel
        (fun step => step.2.candidates.filter fun candidate => candidate.stop != step.1.stop)
        (hsteps.imp fun run _ step hstep => ⟨hstep.1, ?_⟩)
      refine hstep.2.filter _ fun way candidate => ?_
      rw [hstep.1]
      simp [Readings.Gives, Readings.moving, and_assoc]
    · refine hlevel.reverse.append hexplored ?_ fun ways run => ?_
      · exact fun ways run run' hrun hrun' => Nat.ne_of_lt hrun'.1 hrun.2.1
      · constructor
        · rintro ⟨hlt, hstart, hmany⟩
          rcases Nat.lt_succ_iff_lt_or_eq.1 hlt with hlt | heq
          · exact .inr ⟨hlt, hstart, hmany⟩
          · exact .inl ⟨hstart, heq, hmany⟩
        · rintro (⟨hstart, heq, hmany⟩ | ⟨hlt, hgives⟩)
          · exact ⟨Nat.lt_succ_of_le (Nat.le_of_eq heq), hstart, hmany⟩
          · exact ⟨Nat.lt_succ_of_lt hlt, hgives⟩
  · rintro misses ⟨runs, seen⟩ ⟨count, level, explored, ⟨hlevel, hexplored⟩, hruns, hend⟩
    have hshort : ∀ {ways values stop}, readings.many start ways values stop →
        ways.length < count := by
      intro ways values stop hmany
      rcases hend with rfl | hcount
      · refine Nat.lt_of_not_le fun hge => ?_
        obtain ⟨between, htake⟩ := hmany.take count
        refine hlevel.eq_nil_iff.1 rfl (ways.take count)
          ⟨start, between, (values.take count).reverse⟩ ⟨rfl, List.length_take_of_le hge, ?_⟩
        rwa [Candidate.inOrder, Candidate.map, List.reverse_reverse]
      · have := hforward.length_le_remaining hmany
        omega
    have hlast : level = [] :=
      hlevel.eq_nil_iff.2 fun ways run hrun => Nat.ne_of_lt (hshort hrun.2.2) hrun.2.1
    rw [hlast, List.reverse_nil, List.nil_append] at hruns
    rw [hruns]
    refine hexplored.reverse.mapElements _ fun ways candidate => ?_
    constructor
    · rintro ⟨hstart, hmany⟩
      refine ⟨candidate.inOrder, ⟨hshort hmany, ?_⟩, candidate.inOrder_inOrder.symm⟩
      rw [candidate.inOrder_inOrder]
      exact ⟨hstart, hmany⟩
    · rintro ⟨run, ⟨_, hgives⟩, rfl⟩
      exact hgives

theorem manyLongestFirst (hp : p.Lists observation chain readings)
    (hforward : readings.Forward chain) :
    p.manyLongestFirst.Lists observation chain readings.many := by
  intro start
  refine observation.map (hp.manyShortestFirst hforward start) fun misses outcome h => ?_
  rw [Outcome.candidates_mapCandidates _ rfl]
  exact h.reverse

theorem exactly (hp : p.Lists observation chain readings) (count : Nat) :
    (Parser.exactly count p).Lists observation chain (readings.exactly count) := by
  intro start
  refine observation.yields_exactlyFrom hp (fun left level _ _ =>
    ∃ done, done + left = count ∧ Enumerates (readings.Runs start done) level)
    (fun _ outcome => Enumerates ((readings.exactly count).Gives start) outcome.candidates)
    ?_ ?_ ?_ count [] ⟨0, by omega, readings.runs_zero start⟩
  · rintro left level seen misses later steps ⟨done, hdone, hlevel⟩ hsteps _
    exact ⟨done + 1, by omega, Readings.runs_extend hlevel (fun step => step.2.candidates)
      (hsteps.imp fun run _ step hstep => hstep)⟩
  · rintro left level seen misses later steps ⟨done, hdone, hlevel⟩ hsteps hempty
    rw [Outcome.candidates_settle]
    have hnext := Readings.runs_extend hlevel (fun step => step.2.candidates)
      (hsteps.imp fun run _ step hstep => hstep)
    -- there is no beginning with one more step
    refine .nil fun ways candidate hgives => ?_
    obtain ⟨hstart, hlength, hrepeats⟩ := hgives
    obtain ⟨between, htake⟩ := hrepeats.take (done + 1)
    refine hnext.eq_nil_iff.1 hempty (ways.take (done + 1))
      ⟨start, between, (candidate.value.take (done + 1)).reverse⟩
      ⟨rfl, List.length_take_of_le (by omega), ?_⟩
    rwa [Candidate.inOrder, Candidate.map, List.reverse_reverse]
  · rintro level seen misses ⟨done, rfl, hlevel⟩
    refine hlevel.mapElements _ fun ways candidate => ?_
    constructor
    · intro hgives
      refine ⟨candidate.inOrder, ?_, candidate.inOrder_inOrder.symm⟩
      rwa [Readings.Runs, candidate.inOrder_inOrder]
    · rintro ⟨run, hrun, rfl⟩
      exact hrun

end Parser.Lists

end TokenGrammar
