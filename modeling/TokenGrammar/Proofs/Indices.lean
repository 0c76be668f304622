import TokenGrammar.Proofs.Termination
import Mathlib.Data.List.Induction

/-!
# Working by index

A repetition may be explored with one list that grows while it is gone through by index, instead of
level by level, and groups may be found in a list by their places instead of by their ends. Both
keep indices apart from what they lead to, and meet a fault, or end, where an index leads nowhere.
This never happens: they yield what exploring by levels and grouping by ends yield.
-/

namespace TokenGrammar

/-! ### Repetitions -/

namespace Parser

variable {α : Type}

/-- Appends a run with one more step, unless the step ends where it began. The run is looked up
again each time, because the list has grown. -/
def append (place : Nat) (stop : Cursor) (runs : List (Candidate (List α))) (step : Candidate α) :
    Run (List (Candidate (List α))) :=
  if step.stop != stop then do
    let run ← Run.demand .unbuilt runs[place]?
    return runs ++ [run.extend step]
  else return runs

/-- Goes through a list of runs from a place on, at most a number of steps, while each run appends
those that extend it. -/
def traverse (p : Parser Run α) (chain : Chain) :
    Nat → Nat → List (Candidate (List α)) → Option Diagnostic →
      Run (List (Candidate (List α)) × Option Diagnostic)
  | 0, _, _, _ => throw .endless
  | steps + 1, place, runs, seen =>
      if place < runs.length then do
        let stop := (← Run.demand .unbuilt runs[place]?).stop
        let outcome ← p chain stop
        let runs ← outcome.candidates.foldlM (append place stop) runs
        traverse p chain steps (place + 1) runs (Diagnostic.furthest seen outcome.diagnostic?)
      else return (runs, seen)

/-- Every number of steps, the shortest runs first, in at most a number of steps. -/
def manyByIndex (p : Parser Run α) (steps : Nat) : Parser Run (List α) := fun chain start => do
  let (runs, seen) ← traverse p chain steps 0 [.still start []] none
  return .success (runs.map (·.inOrder)) seen

/-- The place of a run that was there before is never out of range. -/
theorem foldlM_append {place : Nat} {run : Candidate (List α)} (found : List (Candidate α)) :
    ∀ {runs : List (Candidate (List α))}, runs[place]? = some run →
      found.foldlM (append place run.stop) runs
        = pure (runs ++ (found.filter fun step => step.stop != run.stop).map run.extend) := by
  induction found with
  | nil => simp
  | cons step found ih =>
      intro runs hrun
      rw [List.foldlM_cons, append]
      by_cases hmoves : step.stop != run.stop
      · have hrun' : (runs ++ [run.extend step])[place]? = some run := by
          rw [List.getElem?_append_left (List.getElem?_eq_some_iff.1 hrun).1, hrun]
        rw [if_pos hmoves, hrun, Run.demand, pure_bind, pure_bind, ih hrun']
        simp [hmoves]
      · rw [if_neg hmoves, pure_bind, ih hrun]
        simp [hmoves]

variable {p : Parser Run α} {chain : Chain}

/-- Going through a level appends the next one, by induction on the level. -/
theorem traverse_level (level : List (Candidate (List α))) :
    ∀ (done next : List (Candidate (List α))) (steps : Nat) (seen : Option Diagnostic),
      traverse p chain (level.length + steps) done.length (done ++ level ++ next) seen
        = p.stepAll chain level >>= fun found =>
            traverse p chain steps (done ++ level).length (done ++ level ++ next ++ found.advancing)
              (found.diagnosticAfter seen) := by
  induction level with
  | nil =>
      intro done next steps seen
      simp [stepAll, Steps.advancing, Steps.diagnosticAfter]
  | cons run level ih =>
      intro done next steps seen
      have hrun : (done ++ run :: level ++ next)[done.length]? = some run := by simp
      have hsteps : (run :: level).length + steps = level.length + steps + 1 := by
        rw [List.length_cons, Nat.add_right_comm]
      have hplace : done.length < (done ++ run :: level ++ next).length :=
        (List.getElem?_eq_some_iff.1 hrun).1
      rw [hsteps, traverse, if_pos hplace, hrun, Run.demand, pure_bind, stepAll, List.mapM_cons]
      simp only [bind_assoc, pure_bind]
      refine congrArg (_ >>= ·) (funext fun outcome => ?_)
      rw [foldlM_append _ hrun, pure_bind]
      have hruns (new : List (Candidate (List α))) : done ++ run :: level ++ next ++ new
          = done ++ [run] ++ level ++ (next ++ new) := by simp
      have hplace' : done.length + 1 = (done ++ [run]).length := by simp
      rw [hruns, hplace', ih, stepAll]
      refine congrArg (_ >>= ·) (funext fun found => ?_)
      simp [Steps.advancing, Steps.diagnosticAfter]

theorem traverse_done (more : Nat) (runs : List (Candidate (List α))) (seen : Option Diagnostic) :
    traverse p chain (1 + more) runs.length runs seen = pure (runs, seen) := by
  rw [Nat.add_comm, traverse, if_neg (Nat.lt_irrefl _)]

variable (hp : ∀ start, Run.results.Yields (p chain start) fun _ outcome =>
  ∀ candidate ∈ outcome.candidates, chain.Reaches start candidate.stop)

include hp

/-- Going through all runs explores level after level, by induction on the levels. -/
theorem traverse_eq_explore (levels : Nat) :
    ∀ {level : List (Candidate (List α))} (done : List (Candidate (List α)))
      (seen : Option Diagnostic), LeavesWithin chain levels level → ∀ before, ∃ steps, ∀ more,
        traverse p chain (steps + more) done.length (done ++ level) seen before
          = (p.explore chain levels level done.reverse seen >>= fun explored =>
              pure (explored.1.reverse, explored.2)) before := by
  induction levels with
  | zero =>
      intro level done seen hlevel before
      obtain rfl := hlevel.eq_nil
      refine ⟨1, fun more => ?_⟩
      rw [List.append_nil, traverse_done, Parser.explore, pure_bind]
      simp
  | succ levels ih =>
      intro level done seen hlevel before
      rw [Parser.explore]
      split
      · rename_i hempty
        obtain rfl := List.isEmpty_iff.1 hempty
        refine ⟨1, fun more => ?_⟩
        rw [List.append_nil, traverse_done, pure_bind, List.reverse_reverse]
      · have htraverse (steps : Nat) := @traverse_level _ p chain level done [] steps seen
        simp only [List.append_nil, ← List.reverse_append, bind_assoc] at htraverse ⊢
        cases hfound : p.stepAll chain level before with
        | error fault after =>
            refine ⟨level.length, fun more => ?_⟩
            rw [htraverse, Run.bind_of_error hfound, Run.bind_of_error hfound]
        | ok found between =>
            obtain ⟨_, hsteps⟩ := stepAll_reaches hp level before found between hfound
            obtain ⟨steps, htraversed⟩ := ih (done ++ level)
              (found.diagnosticAfter seen) (leavesWithin_advancing hlevel hsteps) between
            refine ⟨level.length + steps, fun more => ?_⟩
            rw [Nat.add_assoc, htraverse, Run.bind_of_ok hfound, Run.bind_of_ok hfound, htraversed]

/-- **A repetition that is explored by index** yields the same, from some number of steps on, and
meets no other fault. -/
theorem manyByIndex_eq (start : Cursor) (before : Workspace) : ∃ steps, ∀ more,
    p.manyByIndex (steps + more) chain start before = p.manyShortestFirst chain start before := by
  obtain ⟨steps, htraverse⟩ :=
    traverse_eq_explore hp _ [] none (leavesWithin_still start) before
  refine ⟨steps, fun more => ?_⟩
  have hmany : p.manyShortestFirst chain start
      = (p.explore chain (chain.remaining start + 1) [.still start []] [] none >>= fun explored =>
          pure (explored.1.reverse, explored.2)) >>= fun (runs, seen) =>
            pure (.success (runs.map (·.inOrder)) seen) := by
    simp only [manyShortestFirst, bind_assoc, pure_bind]
  rw [hmany]
  exact Run.bind_congr_of_eq (htraverse more)

end Parser

/-- Every candidate of a grammar is further on, so repeating a grammar by index comes to its end. -/
theorem Grammar.manyByIndex_parseWithin (grammar : Grammar) (depth : Nat) (held : List Grammar)
    (chain : Chain) (start : Cursor) (before : Workspace) : ∃ steps, ∀ more,
      (grammar.parseWithin depth held).manyByIndex (steps + more) chain start before
        = (grammar.parseWithin depth held).manyShortestFirst chain start before := by
  refine Parser.manyByIndex_eq (fun start before outcome after hrun => ⟨[], ?_⟩) start before
  exact fun candidate hmem => (Grammar.reaches_of_parseWithin hrun candidate hmem).2

/-! ### Groups -/

section Groups

variable {α : Type}

/-- Groups in a list, with the place at which the group of an end stands. -/
structure IndexedGroups (α : Type) where
  groups : List (Candidate (List α)) := []
  place? : Cursor → Option Nat := fun _ => none

namespace IndexedGroups

/-- Adds a candidate to the group at the place of its end, or opens a new group. -/
def add? (indexed : IndexedGroups α) (candidate : Candidate α) : Option (IndexedGroups α) :=
  match indexed.place? candidate.stop with
  | some place => do
      let group ← indexed.groups[place]?
      let group := group.map (· ++ [candidate.value])
      return { indexed with groups := indexed.groups.set place group }
  | none => some
      { groups := indexed.groups ++ [candidate.map fun value => [value]]
        place? := fun stop =>
          if stop = candidate.stop then some indexed.groups.length else indexed.place? stop }

/-- One candidate for each end, if every index that is met is in range. -/
def ofCandidates? (candidates : List (Candidate α)) : Option (List (Candidate (List α))) :=
  (candidates.foldlM add? {}).map (·.groups)

/-- That the groups are those that are found by their ends, while they grow. -/
structure Mirrors (indexed : IndexedGroups α) (growing : List (Candidate (List α))) : Prop where
  groups : indexed.groups = growing.map (·.map List.reverse)
  place? : ∀ stop, indexed.place? stop = growing.findIdx? fun group => group.stop == stop

end IndexedGroups

theorem addToGroup_of_findIdx?_eq_none {groups : List (Candidate (List α))}
    {candidate : Candidate α}
    (h : groups.findIdx? (fun group => group.stop == candidate.stop) = none) :
    addToGroup candidate groups = groups ++ [candidate.map fun value => [value]] := by
  induction groups with
  | nil => rfl
  | cons group groups ih =>
      rw [List.findIdx?_cons] at h
      split at h
      · cases h
      · rename_i hne
        rw [addToGroup, if_neg (fun heq => hne (beq_iff_eq.2 heq)), ih (Option.map_eq_none_iff.1 h),
          List.cons_append]

theorem addToGroup_of_findIdx?_eq_some {groups : List (Candidate (List α))}
    {candidate : Candidate α} {place : Nat}
    (h : groups.findIdx? (fun group => group.stop == candidate.stop) = some place) :
    ∃ group, groups[place]? = some group ∧
      addToGroup candidate groups = groups.set place (group.map (candidate.value :: ·)) := by
  induction groups generalizing place with
  | nil => cases h
  | cons group groups ih =>
      rw [List.findIdx?_cons] at h
      split at h
      · rename_i heq
        cases h
        exact ⟨group, rfl, by rw [addToGroup, if_pos (beq_iff_eq.1 heq), List.set_cons_zero]⟩
      · rename_i hne
        obtain ⟨place, hplace, rfl⟩ := Option.map_eq_some_iff.1 h
        obtain ⟨found, hfound, hadd⟩ := ih hplace
        refine ⟨found, hfound, ?_⟩
        rw [addToGroup, if_neg (fun heq => hne (beq_iff_eq.2 heq)), hadd, List.set_cons_succ]

theorem findIdx?_addToGroup (groups : List (Candidate (List α))) (candidate : Candidate α)
    (stop : Cursor) :
    (addToGroup candidate groups).findIdx? (fun group => group.stop == stop) =
      (groups.findIdx? fun group => group.stop == stop).or
        (if candidate.stop = stop then some groups.length else none) := by
  induction groups with
  | nil => simp [addToGroup, List.findIdx?_cons, Candidate.map]
  | cons group groups ih =>
      rw [addToGroup]
      split
      · rename_i heq
        by_cases hstop : candidate.stop = stop
        · simp [List.findIdx?_cons, Candidate.map, heq, hstop]
        · simp [List.findIdx?_cons, Candidate.map, heq, hstop]
      · by_cases hgroup : group.stop = stop
        · simp [List.findIdx?_cons, hgroup]
        · by_cases hstop : candidate.stop = stop
          · simp [List.findIdx?_cons, hgroup, hstop, ih]
          · simp [List.findIdx?_cons, hgroup, hstop, ih]

namespace IndexedGroups

variable {indexed : IndexedGroups α} {growing : List (Candidate (List α))}

theorem Mirrors.add? (h : indexed.Mirrors growing) (candidate : Candidate α) :
    ∃ later, indexed.add? candidate = some later ∧
      later.Mirrors (addToGroup candidate growing) := by
  have hplace := h.place? candidate.stop
  unfold IndexedGroups.add?
  cases hfind : growing.findIdx? fun group => group.stop == candidate.stop with
  | none =>
      rw [hfind] at hplace
      rw [hplace]
      refine ⟨_, rfl, ?_, fun stop => ?_⟩
      · rw [addToGroup_of_findIdx?_eq_none hfind, List.map_append, ← h.groups]
        rfl
      · rw [findIdx?_addToGroup, ← h.place? stop]
        by_cases hstop : stop = candidate.stop
        · simp [hstop, hplace, h.groups]
        · simp [hstop, Ne.symm hstop]
  | some place =>
      obtain ⟨group, hgroup, hadd⟩ := addToGroup_of_findIdx?_eq_some hfind
      have hindexed : indexed.groups[place]? = some (group.map List.reverse) := by
        rw [h.groups, List.getElem?_map, hgroup, Option.map_some]
      rw [hfind] at hplace
      rw [hplace]
      dsimp only
      rw [hindexed]
      refine ⟨_, rfl, ?_, fun stop => ?_⟩
      · rw [hadd, List.map_set, ← h.groups]
        simp [Candidate.map]
      · rw [findIdx?_addToGroup, ← h.place? stop]
        by_cases hstop : candidate.stop = stop
        · simp [← hstop, hplace]
        · simp [hstop]

/-- **Grouping by index finds every group where its index says**, and yields the groups by end. -/
theorem ofCandidates?_eq (candidates : List (Candidate α)) :
    ofCandidates? candidates = some (groupByStop candidates) := by
  have hfold : ∃ indexed, candidates.foldlM IndexedGroups.add? {} = some indexed ∧
      indexed.Mirrors
        (candidates.foldl (fun groups candidate => addToGroup candidate groups) []) := by
    induction candidates using List.reverseRecOn with
    | nil => exact ⟨{}, rfl, rfl, fun _ => rfl⟩
    | append_singleton candidates candidate ih =>
        obtain ⟨indexed, hindexed, hmirrors⟩ := ih
        obtain ⟨later, hlater, hmirrors⟩ := hmirrors.add? candidate
        refine ⟨later, ?_, ?_⟩
        · rw [List.foldlM_append, hindexed]
          simp [hlater]
        · rw [List.foldl_append]
          exact hmirrors
  obtain ⟨indexed, hindexed, hmirrors⟩ := hfold
  rw [ofCandidates?, hindexed, Option.map_some, hmirrors.groups, groupByStop]

end IndexedGroups

end Groups

end TokenGrammar
