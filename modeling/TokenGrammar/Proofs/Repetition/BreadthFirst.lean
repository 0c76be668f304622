import TokenGrammar.Proofs.Indices
import TokenGrammar.Proofs.Repetition.Answering

/-!
# Repetitions go breadth first

A repetition of a parser that is a function of the cursor, as every steady grammar is, yields every
run of steps that move, once. The runs come by levels, so the shorter ones come first, and the
furthest diagnostic is that of the parser at the ends of the runs, in this order. The worklist that
grows while it is gone through comes to its end and yields the same. A repetition that puts the
longest runs first yields them in exactly the opposite order.
-/

namespace TokenGrammar

variable {α : Type}

/-! ### Runs of an answer -/

namespace Answer

/-- The readings of an answer, each known by its place among the candidates. -/
def readings (answer : Answer α) : Readings Nat α := fun cursor place value stop =>
  ∃ step, (answer cursor).candidates[place]? = some step ∧ step.value = value ∧ step.stop = stop

variable {answer : Answer α} {start : Cursor} {runs : List (Candidate (List α))}
  {seen : Option Diagnostic}

/-- That a step stands at a place among the candidates at a cursor, and ends elsewhere. -/
def Moves (answer : Answer α) (cursor : Cursor) (place : Nat) (step : Candidate α) : Prop :=
  (answer cursor).candidates[place]? = some step ∧ step.stop ≠ cursor

theorem enumerates_moving (answer : Answer α) (cursor : Cursor) :
    EnumeratesIn (fun _ _ => True) (answer.Moves cursor) (answer.moving cursor) := by
  have hplaces := EnumeratesIn.places (answer cursor).candidates
  have hmoving : EnumeratesIn _ (answer.Moves cursor) (answer.moving cursor) :=
    hplaces.filter (fun step => step.stop != cursor) fun place step => by simp [Moves]
  exact hmoving.imp fun _ _ _ _ _ _ _ => trivial

theorem gives_concat_iff {ways : List Nat} {place : Nat} {run : Candidate (List α)} :
    answer.readings.many.Gives start (ways ++ [place]) run ↔
      ∃ before, answer.readings.many.Gives start ways before ∧
        ∃ step, answer.Moves before.stop place step ∧ run = before.followedBy step := by
  constructor
  · rintro ⟨hstart, hmany⟩
    obtain ⟨between, values, value, hvalue, hways, ⟨step, hstep, rfl, hstop⟩, hmoves⟩ :=
      Readings.repeats_concat_iff.1 hmany
    refine ⟨⟨start, between, values⟩, ⟨rfl, hways⟩, step, ⟨hstep, ?_⟩, ?_⟩
    · rw [hstop]
      exact hmoves
    · obtain ⟨first, stop, value⟩ := run
      cases hstart
      cases hvalue
      cases hstop
      rfl
  · rintro ⟨before, ⟨hstart, hways⟩, step, ⟨hstep, hmoves⟩, rfl⟩
    refine ⟨hstart, Readings.repeats_concat_iff.2 ?_⟩
    exact ⟨before.stop, before.value, step.value, rfl, hways, ⟨step, hstep, rfl, rfl⟩, hmoves⟩

/-- The level of a number of steps has each run of that many steps once, by induction on their
number. -/
theorem enumerates_runsOf (answer : Answer α) (start : Cursor) (count : Nat) :
    EnumeratesIn (fun _ _ => True) (fun ways run =>
      ways.length = count ∧ answer.readings.many.Gives start ways run)
      (runsOf answer.moving start count) := by
  induction count with
  | zero =>
      refine .singleton [] _ fun ways run => ?_
      constructor
      · rintro ⟨hlength, hstart, hmany⟩
        obtain rfl := List.length_eq_zero_iff.1 hlength
        obtain ⟨hvalue, hstop⟩ := Readings.repeats_nil_iff.1 hmany
        obtain ⟨first, stop, value⟩ := run
        obtain rfl : first = start := hstart
        obtain rfl : value = [] := hvalue
        obtain rfl : stop = first := hstop
        exact ⟨rfl, rfl⟩
      · rintro ⟨rfl, rfl⟩
        exact ⟨rfl, rfl, .nil start⟩
  | succ count ih =>
      have hnext (run : Candidate (List α)) : EnumeratesIn (fun _ _ => True)
          (fun place run' => ∃ step, answer.Moves run.stop place step ∧ run' = run.followedBy step)
          ((answer.moving run.stop).map run.followedBy) :=
        (enumerates_moving answer run.stop).map Function.injective_id run.followedBy
          (fun _ _ h => h) fun place run' => by simp
      have hinjective : Function.Injective fun way : List Nat × Nat => way.1 ++ [way.2] := by
        rintro ⟨ways, place⟩ ⟨ways', place'⟩ heq
        simpa using heq
      rw [← List.map_id (runsOf answer.moving start (count + 1))]
      refine (ih.flatMap hnext).map hinjective id (fun _ _ _ => trivial) fun ways run => ?_
      constructor
      · rintro ⟨hlength, hgives⟩
        rcases ways.eq_nil_or_concat with rfl | ⟨ways, place, rfl⟩
        · cases hlength
        · rw [List.concat_eq_append] at hlength hgives ⊢
          obtain ⟨before, hbefore, hstep⟩ := gives_concat_iff.1 hgives
          exact ⟨(ways, place), run, ⟨before, ⟨by simpa using hlength, hbefore⟩, hstep⟩, rfl, rfl⟩
      · rintro ⟨⟨ways, place⟩, _, ⟨before, ⟨hlength, hbefore⟩, hstep⟩, rfl, rfl⟩
        exact ⟨by simpa using hlength, gives_concat_iff.2 ⟨before, hbefore, hstep⟩⟩

/-- The levels up to a number have each shorter run once, and put shorter ones first. -/
theorem enumerates_levels (answer : Answer α) (start : Cursor) (count : Nat) :
    EnumeratesIn (fun ways later => ways.length ≤ later.length) (fun ways run =>
      ways.length < count ∧ answer.readings.many.Gives start ways run)
      ((List.range count).flatMap (runsOf answer.moving start)) := by
  induction count with
  | zero => exact .nil fun ways run h => Nat.not_lt_zero _ h.1
  | succ count ih =>
      rw [List.range_succ, List.flatMap_append, List.flatMap_singleton]
      have hlevel : EnumeratesIn (fun ways later : List Nat => ways.length ≤ later.length)
          (fun ways run => ways.length = count ∧ answer.readings.many.Gives start ways run)
          (runsOf answer.moving start count) :=
        (enumerates_runsOf answer start count).imp fun _ _ _ _ h h' _ =>
          Nat.le_of_eq (h.1.trans h'.1.symm)
      refine ih.append hlevel ?_ fun ways run => ?_
      · rintro ways later _ _ ⟨hlt, _⟩ ⟨heq, _⟩
        refine ⟨?_, by omega⟩
        rintro rfl
        omega
      · rw [← or_and_right, Nat.lt_succ_iff_lt_or_eq]

theorem Explores.enumerates (h : Explores answer start runs seen) :
    EnumeratesIn (fun ways later => ways.length ≤ later.length)
      (answer.readings.many.Gives start) runs := by
  obtain ⟨count, hempty, rfl, _⟩ := h
  refine (enumerates_levels answer start count).congr fun ways run => ?_
  refine ⟨fun hgives => ⟨?_, hgives⟩, And.right⟩
  -- a run that is no shorter begins with one in the empty level
  by_contra hle
  obtain ⟨between, htake⟩ := hgives.2.take count
  have hlevel := Enumerates.of_order (enumerates_runsOf answer start count)
  refine hlevel.eq_nil_iff.1 hempty (ways.take count) ⟨start, between, run.value.take count⟩ ?_
  exact ⟨List.length_take_of_le (Nat.le_of_not_lt hle), rfl, htake⟩

/-- That a list of runs goes through all runs of steps that move breadth first, and which diagnostic
was the furthest meanwhile. -/
structure BreadthFirst (answer : Answer α) (start : Cursor) (runs : List (Candidate (List α)))
    (seen : Option Diagnostic) : Prop where
  /-- The levels stand one behind the other, up to one behind which there is nothing. -/
  levels : ∃ count, (∀ more, runsOf answer.moving start (count + more) = []) ∧
    runs = (List.range count).flatMap (runsOf answer.moving start)
  once : Enumerates (answer.readings.many.Gives start) runs
  shortestFirst : runs.Pairwise fun run later => run.value.length ≤ later.value.length
  longestFirst : runs.reverse.Pairwise fun run later => later.value.length ≤ run.value.length
  seen_eq : seen
    = runs.foldl (fun seen run => Diagnostic.furthest seen (answer run.stop).diagnostic?) none

theorem Explores.breadthFirst (h : Explores answer start runs seen) :
    BreadthFirst answer start runs seen := by
  have hshortest : runs.Pairwise fun run later => run.value.length ≤ later.value.length := by
    apply h.enumerates.pairwise
    intro ways ways' run later hrun hlater hle
    rwa [hrun.2.length_eq, hlater.2.length_eq]
  have honce := Enumerates.of_order h.enumerates
  obtain ⟨count, hempty, hruns, hseen⟩ := h
  exact ⟨⟨count, runsOf_eq_nil hempty, hruns⟩, honce, hshortest,
    List.pairwise_reverse.2 hshortest, hseen⟩

end Answer

namespace Parser

variable {p : Parser Run α} {chain : Chain} {holds : Workspace → Prop} {answer : Answer α}

/-- **A repetition goes breadth first.** The worklist that grows while it is gone through comes to
its end, with the runs of steps that move, level by level, unless the parser itself meets a fault. A
repetition that puts the longest runs first has the same runs in the opposite order. -/
theorem manyShortestFirst_breadthFirst (hp : p.ReadsAs chain holds answer) (start : Cursor)
    {before : Workspace} (hbefore : holds before) :
    (∃ steps, ∀ more, p.manyByIndex (steps + more) chain start before
      = p.manyShortestFirst chain start before) ∧
    Lands (p.manyShortestFirst chain start) before
      (fun outcome after => ∃ runs seen, outcome = .success runs seen ∧
        answer.BreadthFirst start runs seen ∧
        p.manyLongestFirst chain start before = .ok (.success runs.reverse seen) after)
      (fun fault after => p.Meets chain holds fault after ∧
        p.manyLongestFirst chain start before = .error fault after) := by
  constructor
  · apply manyByIndex_eq
    intro cursor between outcome after hrun
    exact ⟨[], hp.forward hrun⟩
  · have hlands := (hp.answered fun _ _ h => h).manyShortestFirst start before hbefore
    apply Lands.of_results
    · intro outcome after hrun
      obtain ⟨_, _, runs, seen, rfl, hexplores⟩ := hlands.of_ok hrun
      refine ⟨runs, seen, rfl, hexplores.breadthFirst, ?_⟩
      rw [manyLongestFirst, Run.bind_of_ok hrun]
      rfl
    · intro fault after hrun
      refine ⟨hlands.of_error hrun, ?_⟩
      rw [manyLongestFirst, Run.bind_of_error hrun]

/-- A letter, which is read in two ways, or nothing. -/
theorem manyShortestFirst_breadthFirst_letter :
    ∃ (workspace after : Workspace) (chain : Chain) (letter : Parser Run Value)
      (holds : Workspace → Prop) (answer : Answer Value) (runs : List (Candidate (List Value)))
      (seen : Option Diagnostic), letter.ReadsAs chain holds answer ∧ holds workspace ∧
        letter.manyShortestFirst chain 0 workspace = .ok (.success runs seen) after ∧
        letter.manyLongestFirst chain 0 workspace = .ok (.success runs.reverse seen) after ∧
        runs.map (fun run => (run.stop, run.value.length)) = [(0, 0), (1, 1), (1, 1)] ∧
        answer.BreadthFirst 0 runs seen := by
  let token (text : String) : Token := ⟨"letter", text, ⟨0, 1, 1, 1, 2⟩⟩
  let chain : Chain := #[token "a", token "b"]
  let pattern : Grammar := .binary .either (.leaf (.literal "a"))
    (.binary .either (.leaf (.literal "a")) (.leaf .nothing))
  let workspace : Workspace := { slots := #[some pattern] }
  let letter : Parser Run Value := (Grammar.linked (.rule 0)).parseWithin 4 []
  obtain ⟨holds, answer, hbefore, hletter, _⟩ := Grammar.readsAs_rule pattern rfl rfl chain 4
  have hrun : ∃ runs seen after, letter.manyShortestFirst chain 0 workspace
      = .ok (.success runs seen) after ∧
        runs.map (fun run => (run.stop, run.value.length)) = [(0, 0), (1, 1), (1, 1)] :=
    ⟨_, _, _, rfl, rfl⟩
  obtain ⟨runs, seen, after, hrun, hruns⟩ := hrun
  obtain ⟨_, hlands⟩ := manyShortestFirst_breadthFirst hletter 0 hbefore
  obtain ⟨_, _, heq, hbreadthFirst, hreversed⟩ := hlands.of_ok hrun
  obtain ⟨rfl, rfl⟩ := Outcome.success.inj heq
  exact ⟨workspace, after, chain, letter, holds, answer, runs, seen, hletter, hbefore, hrun,
    hreversed, hruns, hbreadthFirst⟩

end Parser

end TokenGrammar
