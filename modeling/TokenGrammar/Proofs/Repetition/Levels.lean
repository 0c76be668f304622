import TokenGrammar.Proofs.Advancing
import TokenGrammar.Proofs.Grouping

/-!
# Levels of runs

If a parser is a function of the cursor, then its repetitions are too, and what they yield can be
said without following them. The runs of one length make up a level: the first level is the run
without a step, and the next one extends each run of a level, in order, by each candidate that the
function has at its end. Exploring yields the levels one after the other, up to the first empty one,
and a fixed number of steps yields the level of that number. Either carries the furthest diagnostic
of the function at the ends of the runs that were extended.
-/

namespace TokenGrammar

variable {m : Type → Type} [Monad m] [LawfulMonad m] {α : Type}

/-! ### Runs in order -/

namespace Candidate

def followedBy (run : Candidate (List α)) (step : Candidate α) : Candidate (List α) :=
  ⟨run.start, step.stop, run.value ++ [step.value]⟩

def append (run later : Candidate (List α)) : Candidate (List α) :=
  ⟨run.start, later.stop, run.value ++ later.value⟩

theorem inOrder_extend (run : Candidate (List α)) (step : Candidate α) :
    (run.extend step).inOrder = run.inOrder.followedBy step := by
  simp [inOrder, map, extend, followedBy]

theorem append_still (run : Candidate (List α)) : run.append (still run.stop []) = run := by
  simp [append, still]

end Candidate

/-- What a parser yields, if it depends on the cursor alone. -/
abbrev Answer (α : Type) := Cursor → Outcome α

namespace Answer

def all (answer : Answer α) (cursor : Cursor) : List (Candidate α) := (answer cursor).candidates

def moving (answer : Answer α) (cursor : Cursor) : List (Candidate α) :=
  (answer cursor).candidates.filter fun step => step.stop != cursor

/-- The furthest diagnostic at the ends of some runs. -/
def diagnosticAt (answer : Answer α) (runs : List (Candidate (List α))) : Option Diagnostic :=
  Diagnostic.furthestOf (fun run => (answer run.stop).diagnostic?) runs

theorem diagnosticAt_append (answer : Answer α) (runs later : List (Candidate (List α))) :
    answer.diagnosticAt (runs ++ later)
      = later.foldl (fun seen run => Diagnostic.furthest seen (answer run.stop).diagnostic?)
          (answer.diagnosticAt runs) := by
  rw [diagnosticAt, Diagnostic.furthestOf, List.foldl_append]
  rfl

end Answer

/-- The runs of a number of steps, if the candidates of a step depend on the cursor alone. -/
def runsOf (next : Cursor → List (Candidate α)) (start : Cursor) : Nat → List (Candidate (List α))
  | 0 => [.still start []]
  | count + 1 => (runsOf next start count).flatMap fun run => (next run.stop).map run.followedBy

section Runs

variable {next : Cursor → List (Candidate α)} {start : Cursor} {count : Nat}

theorem start_of_mem_runsOf {run : Candidate (List α)} (hrun : run ∈ runsOf next start count) :
    run.start = start := by
  induction count generalizing run with
  | zero => rw [List.mem_singleton.1 hrun, Candidate.still]
  | succ count ih =>
      obtain ⟨before, hbefore, hrun⟩ := List.mem_flatMap.1 hrun
      obtain ⟨step, _, rfl⟩ := List.mem_map.1 hrun
      rw [Candidate.followedBy, ih hbefore]

theorem length_of_mem_runsOf {run : Candidate (List α)} (hrun : run ∈ runsOf next start count) :
    run.value.length = count := by
  induction count generalizing run with
  | zero => rw [List.mem_singleton.1 hrun, Candidate.still, List.length_nil]
  | succ count ih =>
      obtain ⟨before, hbefore, hrun⟩ := List.mem_flatMap.1 hrun
      obtain ⟨step, _, rfl⟩ := List.mem_map.1 hrun
      simp [Candidate.followedBy, ih hbefore]

/-- A level that is followed by others: each of its runs goes on by itself, by induction on the
number of further steps. -/
theorem runsOf_add (more : Nat) :
    runsOf next start (count + more)
      = (runsOf next start count).flatMap fun run =>
          (runsOf next run.stop more).map run.append := by
  induction more with
  | zero =>
      have hsame (run : Candidate (List α)) : (runsOf next run.stop 0).map run.append = [run] := by
        rw [runsOf, List.map_singleton, run.append_still]
      simp [hsame]
  | succ more ih =>
      rw [← Nat.add_assoc, runsOf, ih, List.flatMap_assoc]
      congr 1
      funext run
      rw [runsOf, List.flatMap_map, List.map_flatMap]
      congr 1
      funext later
      simp [Candidate.append, Candidate.followedBy]

theorem runsOf_eq_nil (hnil : runsOf next start count = []) (more : Nat) :
    runsOf next start (count + more) = [] := by
  rw [runsOf_add, hnil, List.flatMap_nil]

theorem flatMap_range_runsOf (hnil : runsOf next start count = []) (more : Nat) :
    (List.range (count + more)).flatMap (runsOf next start)
      = (List.range count).flatMap (runsOf next start) := by
  induction more with
  | zero => rfl
  | succ more ih =>
      rw [← Nat.add_assoc, List.range_succ, List.flatMap_append, ih, List.flatMap_singleton,
        runsOf_eq_nil hnil more, List.append_nil]

end Runs

/-! ### Steps -/

namespace Steps

/-- The steps from a level, as an answer has them. -/
def answered (answer : Answer α) (level : List (Candidate (List α))) : Steps α :=
  level.map fun run => (run, answer run.stop)

variable {answer : Answer α}

theorem eq_answered {level : List (Candidate (List α))} {later : List Diagnostic} {steps : Steps α}
    {given : Cursor → List Diagnostic → Outcome α → Prop}
    (hgiven : ∀ {start misses outcome}, given start misses outcome → outcome = answer start)
    (hsteps : Collected (Observation.StepOf given) level later steps) :
    steps = answered answer level := by
  apply hsteps.eq_map
  rintro _ misses ⟨run, outcome⟩ ⟨rfl, hstep⟩
  exact Prod.ext rfl (hgiven hstep)

theorem map_inOrder_extend (next : Cursor → List (Candidate α))
    (level : List (Candidate (List α))) :
    (level.flatMap fun run => (next run.stop).map run.extend).map (·.inOrder)
      = (level.map (·.inOrder)).flatMap fun run => (next run.stop).map run.followedBy := by
  rw [List.map_flatMap, List.flatMap_map]
  congr 1
  funext run
  rw [List.map_map]
  congr 1
  funext step
  exact run.inOrder_extend step

theorem map_inOrder_all (level : List (Candidate (List α))) :
    (answered answer level).all.map (·.inOrder)
      = (level.map (·.inOrder)).flatMap fun run => (answer.all run.stop).map run.followedBy := by
  rw [all, answered, List.flatMap_map]
  exact map_inOrder_extend answer.all level

theorem map_inOrder_advancing (level : List (Candidate (List α))) :
    (answered answer level).advancing.map (·.inOrder)
      = (level.map (·.inOrder)).flatMap fun run => (answer.moving run.stop).map run.followedBy := by
  rw [advancing, answered, List.flatMap_map]
  exact map_inOrder_extend answer.moving level

theorem diagnosticAfter_answered (runs level : List (Candidate (List α))) :
    (answered answer level).diagnosticAfter (answer.diagnosticAt runs)
      = answer.diagnosticAt (runs ++ level.map (·.inOrder)) := by
  rw [Answer.diagnosticAt_append, diagnosticAfter, answered, List.foldl_map, List.foldl_map]
  rfl

end Steps

/-! ### What repetitions yield -/

/-- That a list of runs is made of all levels, with the furthest diagnostic at their ends. -/
def Answer.Explores (answer : Answer α) (start : Cursor) (runs : List (Candidate (List α)))
    (seen : Option Diagnostic) : Prop :=
  ∃ count, runsOf answer.moving start count = [] ∧
    runs = (List.range count).flatMap (runsOf answer.moving start) ∧
    seen = answer.diagnosticAt runs

def Answer.counted (answer : Answer α) (chain : Chain) (count : Nat) : Answer (List α) :=
  fun start => .settle chain start (runsOf answer.all start count)
    (answer.diagnosticAt ((List.range count).flatMap (runsOf answer.all start)))

/-- What an answer has said of a step, and that the step has read forward. -/
def Answer.Given (answer : Answer α) (chain : Chain) (start : Cursor) (_ : List Diagnostic)
    (outcome : Outcome α) : Prop :=
  outcome = answer start ∧ ∀ candidate ∈ outcome.candidates, chain.Reaches start candidate.stop

/-- What is known while a repetition explores a level: its runs, and those of the levels before it,
and that each step has read a token. -/
structure Exploring (answer : Answer α) (chain : Chain) (start : Cursor) (count : Nat)
    (level explored : List (Candidate (List α))) (seen : Option Diagnostic) : Prop where
  level_eq : level.map (·.inOrder) = runsOf answer.moving start count
  explored_eq : explored.reverse.map (·.inOrder)
    = (List.range count).flatMap (runsOf answer.moving start)
  seen_eq : seen = answer.diagnosticAt ((List.range count).flatMap (runsOf answer.moving start))
  remaining_le : ∀ run ∈ level, chain.remaining run.stop + count ≤ chain.remaining start

namespace Exploring

variable {answer : Answer α} {chain : Chain} {start : Cursor} {count : Nat}
  {level explored : List (Candidate (List α))} {seen : Option Diagnostic}

theorem first (answer : Answer α) (chain : Chain) (start : Cursor) :
    Exploring answer chain start 0 [.still start []] [] none where
  level_eq := rfl
  explored_eq := rfl
  seen_eq := rfl
  remaining_le run hrun := by rw [List.mem_singleton.1 hrun, Candidate.still, Nat.add_zero]

theorem next {later : List Diagnostic} {steps : Steps α}
    (h : Exploring answer chain start count level explored seen)
    (hsteps : Collected (Observation.StepOf (answer.Given chain)) level later steps) :
    Exploring answer chain start (count + 1) steps.advancing (level.reverse ++ explored)
      (steps.diagnosticAfter seen) := by
  have hanswered := Steps.eq_answered (fun hgiven => hgiven.1) hsteps
  have hrange : (List.range (count + 1)).flatMap (runsOf answer.moving start)
      = (List.range count).flatMap (runsOf answer.moving start) ++ level.map (·.inOrder) := by
    rw [List.range_succ, List.flatMap_append, List.flatMap_singleton, h.level_eq]
  constructor
  · rw [hanswered, Steps.map_inOrder_advancing, h.level_eq, runsOf]
  · rw [List.reverse_append, List.reverse_reverse, List.map_append, h.explored_eq, hrange]
  · rw [hanswered, h.seen_eq, Steps.diagnosticAfter_answered, hrange]
  · intro run hrun
    obtain ⟨step, hstep, hrun⟩ := List.mem_flatMap.1 hrun
    obtain ⟨candidate, hcandidate, rfl⟩ := List.mem_map.1 hrun
    obtain ⟨hcandidate, hmoves⟩ := List.mem_filter.1 hcandidate
    obtain ⟨before, hbefore, _, rfl, _, hreaches⟩ := hsteps.exists_of_mem_right hstep
    have hlt := (hreaches candidate hcandidate).remaining_lt (bne_iff_ne.1 hmoves)
    have := h.remaining_le _ hbefore
    show chain.remaining candidate.stop + (count + 1) ≤ _
    omega

/-- The last level is empty. Where none was found, there was one for each token that was left. -/
theorem explores (h : Exploring answer chain start count level explored seen)
    (hend : level = [] ∨ count = chain.remaining start + 1) :
    level = [] ∧ answer.Explores start (explored.reverse.map (·.inOrder)) seen := by
  have hlevel : level = [] := by
    rcases hend with hempty | hcount
    · exact hempty
    · apply List.eq_nil_iff_forall_not_mem.2
      intro run hrun
      have := h.remaining_le run hrun
      omega
  refine ⟨hlevel, count, ?_, h.explored_eq, ?_⟩
  · rw [← h.level_eq, hlevel, List.map_nil]
  · rw [h.seen_eq, h.explored_eq]

end Exploring

/-- What is known while a number of steps is taken: the runs that have taken those done so far. -/
structure Counting (answer : Answer α) (start : Cursor) (count : Nat)
    (level : List (Candidate (List α))) (seen : Option Diagnostic) : Prop where
  ne_nil : level ≠ []
  level_eq : level.map (·.inOrder) = runsOf answer.all start count
  seen_eq : seen = answer.diagnosticAt ((List.range count).flatMap (runsOf answer.all start))

namespace Counting

variable {answer : Answer α} {chain : Chain} {start : Cursor} {count : Nat}
  {level : List (Candidate (List α))} {seen : Option Diagnostic} {later : List Diagnostic}
  {steps : Steps α}

theorem first (answer : Answer α) (start : Cursor) :
    Counting answer start 0 [.still start []] none where
  ne_nil := List.cons_ne_nil _ _
  level_eq := rfl
  seen_eq := rfl

theorem step (h : Counting answer start count level seen)
    (hsteps : Collected (Observation.StepOf (answer.Given chain)) level later steps) :
    steps.all.map (·.inOrder) = runsOf answer.all start (count + 1) ∧
      steps.diagnosticAfter seen
        = answer.diagnosticAt ((List.range (count + 1)).flatMap (runsOf answer.all start)) := by
  have hanswered := Steps.eq_answered (fun hgiven => hgiven.1) hsteps
  constructor
  · rw [hanswered, Steps.map_inOrder_all, h.level_eq, runsOf]
  · rw [hanswered, h.seen_eq, Steps.diagnosticAfter_answered, h.level_eq, List.range_succ,
      List.flatMap_append, List.flatMap_singleton]

end Counting

def Parser.Answered (observation : Observation m) (chain : Chain) (p : Parser m α)
    (answer : Answer α) : Prop :=
  ∀ start, observation.Yields (p chain start) (answer.Given chain start)

namespace Parser.Answered

variable {observation : Observation m} {chain : Chain} {p : Parser m α} {answer : Answer α}

theorem manyShortestFirst (hp : p.Answered observation chain answer) (start : Cursor) :
    observation.Yields (p.manyShortestFirst chain start) fun _ outcome =>
      ∃ runs seen, outcome = .success runs seen ∧ answer.Explores start runs seen := by
  have hexplore := observation.yields_explore hp
    (fun count level explored seen _ => Exploring answer chain start count level explored seen)
    (fun h hsteps => h.next hsteps) (chain.remaining start + 1) 0 [] (.first answer chain start)
  refine observation.map hexplore fun misses found hfound => ?_
  obtain ⟨count, level, explored, hexploring, hruns, hend⟩ := hfound
  obtain ⟨rfl, hexplores⟩ := hexploring.explores (by simpa using hend)
  refine ⟨_, _, rfl, ?_⟩
  rw [hruns]
  exact hexplores

theorem exactly (hp : p.Answered observation chain answer) (count : Nat) (start : Cursor) :
    observation.Yields (Parser.exactly count p chain start) fun _ outcome =>
      outcome = answer.counted chain count start := by
  refine observation.yields_exactlyFrom hp (fun left level seen _ =>
    ∃ done, done + left = count ∧ Counting answer start done level seen)
    (fun _ outcome => outcome = answer.counted chain count start) ?_ ?_ ?_ count [] ?_
  · rintro left level seen _ later steps ⟨done, hdone, h⟩ hsteps hmore
    obtain ⟨hlevel, hseen⟩ := h.step hsteps
    exact ⟨done + 1, by omega, hmore, hlevel, hseen⟩
  · rintro left level seen _ later steps ⟨done, hdone, h⟩ hsteps hempty
    obtain ⟨hlevel, hseen⟩ := h.step hsteps
    have hnil : runsOf answer.all start (done + 1) = [] := by rw [← hlevel, hempty, List.map_nil]
    have hcount : count = done + 1 + left := by omega
    rw [hseen, Answer.counted, hcount, runsOf_eq_nil hnil, flatMap_range_runsOf hnil]
  · rintro level seen _ ⟨done, hdone, h⟩
    obtain rfl : done = count := hdone
    rw [Answer.counted, ← h.level_eq, ← h.seen_eq, Outcome.settle, if_neg (by simpa using h.ne_nil)]
  · exact ⟨0, Nat.zero_add count, .first answer start⟩

end Parser.Answered

end TokenGrammar
