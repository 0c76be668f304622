import TokenGrammar.Proofs.Enumeration
import TokenGrammar.Proofs.Steps
import Mathlib.Data.Finset.Max
import Mathlib.Data.List.Perm.Subperm

/-!
# The longest runs

A greedy repetition climbs from level to level and keeps the last one that holds a run. Exploring
goes through the same levels and keeps all of them, so the greedy repetition has the longest of its
runs, in the same order, and has met the same diagnostics. A list with separators and a fold from
the left put a repetition behind each of their first parts. Their greedy forms keep, of what follows
each first part, the runs with the most steps.
-/

namespace TokenGrammar

variable {m : Type → Type} [Monad m] {α β γ : Type}

/-! ### The longest of a list of runs -/

def longestRuns (runs : List (Candidate (List α))) : List (Candidate (List α)) :=
  runs.filter fun run => runs.all fun other => decide (other.value.length ≤ run.value.length)

theorem mem_longestRuns {runs : List (Candidate (List α))} {run : Candidate (List α)} :
    run ∈ longestRuns runs ↔
      run ∈ runs ∧ ∀ other ∈ runs, other.value.length ≤ run.value.length := by
  simp [longestRuns]

/-- Where all runs of a last level have the same length, and all others are shorter. -/
theorem longestRuns_append {count : Nat} {shorter level : List (Candidate (List α))}
    (hshorter : ∀ run ∈ shorter, run.value.length < count)
    (hlevel : ∀ run ∈ level, run.value.length = count) (hne : level ≠ []) :
    longestRuns (shorter ++ level) = level := by
  obtain ⟨last, hlast⟩ := List.exists_mem_of_ne_nil level hne
  have hnone : shorter.filter (fun run => (shorter ++ level).all fun other =>
      decide (other.value.length ≤ run.value.length)) = [] := by
    refine List.filter_eq_nil_iff.2 fun run hrun hall => ?_
    have hle := of_decide_eq_true (List.all_eq_true.1 hall last (by simp [hlast]))
    have := hshorter run hrun
    have := hlevel last hlast
    omega
  have hall : level.filter (fun run => (shorter ++ level).all fun other =>
      decide (other.value.length ≤ run.value.length)) = level := by
    refine List.filter_eq_self.2 fun run hrun => List.all_eq_true.2 fun other hother => ?_
    rw [decide_eq_true_iff, hlevel run hrun]
    rcases List.mem_append.1 hother with hother | hother
    · exact Nat.le_of_lt (hshorter other hother)
    · exact Nat.le_of_eq (hlevel other hother)
  rw [longestRuns, List.filter_append, hnone, hall, List.nil_append]

theorem longestRuns_map_inOrder (runs : List (Candidate (List α))) :
    longestRuns (runs.map (·.inOrder)) = (longestRuns runs).map (·.inOrder) := by
  simp [longestRuns, List.filter_map, Function.comp_def, Candidate.inOrder, Candidate.map]

theorem longestRuns_eq_nil_iff {runs : List (Candidate (List α))} :
    longestRuns runs = [] ↔ runs = [] := by
  constructor
  · intro hnone
    by_contra hne
    have hne' : (runs : Multiset (Candidate (List α))) ≠ 0 := by simpa using hne
    obtain ⟨run, hrun, hlongest⟩ := Multiset.exists_max_image (·.value.length) hne'
    have hmem : run ∈ longestRuns runs := mem_longestRuns.2 ⟨hrun, hlongest⟩
    rw [hnone] at hmem
    exact List.not_mem_nil hmem
  · rintro rfl
    rfl

/-! ### Climbing and exploring -/

theorem Parser.explore_nil {p : Parser m α} {chain : Chain} (levels : Nat)
    (explored : List (Candidate (List α))) (seen : Option Diagnostic) :
    p.explore chain levels [] explored seen = pure (explored, seen) := by
  cases levels <;> rfl

variable [LawfulMonad m]

theorem mapM_map_zipWith (f : α → m β) (g : α → β → γ) (as : List α) :
    as.mapM (fun a => g a <$> f a) = (as.zipWith g ·) <$> as.mapM f := by
  induction as with
  | nil => simp
  | cons a as ih =>
      rw [List.mapM_cons, List.mapM_cons, ih]
      simp only [map_eq_pure_bind, bind_assoc, pure_bind, List.zipWith_cons_cons]

namespace Parser

variable {p : Parser m α} {chain : Chain}

theorem stepAll_eq_zip (runs : List (Candidate (List α))) :
    p.stepAll chain runs = runs.zip <$> runs.mapM fun run => p chain run.stop := by
  have hstep : p.stepAll chain runs = runs.mapM fun run => Prod.mk run <$> p chain run.stop := by
    simp only [stepAll, map_eq_pure_bind]
  rw [hstep, mapM_map_zipWith]
  rfl

theorem length_of_mem_advancing {count : Nat} {level : List (Candidate (List α))}
    (hlevel : ∀ run ∈ level, run.value.length = count) {outcomes : List (Outcome α)} :
    ∀ run ∈ Steps.advancing (level.zip outcomes), run.value.length = count + 1 := by
  intro run hrun
  obtain ⟨⟨before, outcome⟩, hstep, hrun⟩ := List.mem_flatMap.1 hrun
  obtain ⟨step, _, rfl⟩ := List.mem_map.1 hrun
  rw [Candidate.extend, List.length_cons, hlevel before (List.of_mem_zip hstep).1]

/-- Climbing from a level yields the longest of the runs that exploring from it yields. By induction
on the levels that are left: the next level takes the place of this one, or there is none, and this
one is the last of both. -/
theorem climb_eq_explore (levels : Nat) : ∀ {count : Nat}
    {level explored : List (Candidate (List α))} {seen : Option Diagnostic}, level ≠ [] →
    (∀ run ∈ level, run.value.length = count) → (∀ run ∈ explored, run.value.length < count) →
    p.climb chain levels level seen
      = (fun result => (longestRuns result.1.reverse, result.2)) <$>
          p.explore chain levels level explored seen := by
  induction levels with
  | zero =>
      intro count level explored seen hne hlevel hexplored
      rw [climb, explore, map_pure, List.reverse_append, List.reverse_reverse]
      rw [longestRuns_append (fun run hrun => hexplored run (by simpa using hrun)) hlevel hne]
  | succ levels ih =>
      intro count level explored seen hne hlevel hexplored
      rw [climb, explore, if_neg (by simpa using hne), stepAll_eq_zip]
      simp only [map_eq_pure_bind, bind_assoc, pure_bind]
      refine congrArg (_ >>= ·) (funext fun outcomes => ?_)
      have hexplored' : ∀ run ∈ level.reverse ++ explored, run.value.length < count + 1 := by
        intro run hrun
        rcases List.mem_append.1 hrun with hrun | hrun
        · have := hlevel run (List.mem_reverse.1 hrun)
          omega
        · exact Nat.lt_succ_of_lt (hexplored run hrun)
      split
      · rename_i hempty
        rw [List.isEmpty_iff.1 hempty, explore_nil, pure_bind]
        rw [List.reverse_append, List.reverse_reverse]
        rw [longestRuns_append (fun run hrun => hexplored run (by simpa using hrun)) hlevel hne]
      · rename_i hmore
        rw [ih (fun hempty => hmore (List.isEmpty_iff.2 hempty)) (length_of_mem_advancing hlevel)
          hexplored', map_eq_pure_bind]

theorem manyGreedy_eq (p : Parser m α) (chain : Chain) (start : Cursor) :
    p.manyGreedy chain start
      = (·.mapCandidates longestRuns) <$> p.manyShortestFirst chain start := by
  have hlevel : ∀ run ∈ [(.still start [] : Candidate (List α))], run.value.length = 0 := by
    simp [Candidate.still]
  have hexplored : ∀ run ∈ ([] : List (Candidate (List α))), run.value.length < 0 := by simp
  rw [manyGreedy, manyShortestFirst, climb_eq_explore _ (by simp) hlevel hexplored]
  simp only [map_eq_pure_bind, bind_assoc, pure_bind, Outcome.mapCandidates,
    longestRuns_map_inOrder]

theorem manyLongestFirst_eq (p : Parser m α) (chain : Chain) (start : Cursor) :
    p.manyLongestFirst chain start
      = (·.mapCandidates List.reverse) <$> p.manyShortestFirst chain start :=
  (map_eq_pure_bind _ _).symm

end Parser

/-! ### Runs behind a first part -/

theorem mapM_map (f : α → m β) (g : β → γ) (as : List α) :
    as.mapM (fun a => g <$> f a) = List.map g <$> as.mapM f := by
  induction as with
  | nil => simp
  | cons a as ih =>
      rw [List.mapM_cons, List.mapM_cons, ih]
      simp only [map_eq_pure_bind, bind_assoc, pure_bind, List.map_cons]

/-- A first part, and what was found behind it. -/
abbrev Part (α β : Type) := Candidate α × Outcome (List β)

/-- First parts joined with those of the runs behind them that are selected. -/
def continuations (join : α → List β → γ) (start : Cursor)
    (select : List (Candidate (List β)) → List (Candidate (List β))) (parts : List (Part α β)) :
    List (Candidate γ) :=
  parts.flatMap fun (first, rest) =>
    (select rest.candidates).map fun run => ⟨start, run.stop, join first.value run.value⟩

def joined (join : α → List β → γ) (chain : Chain) (start : Cursor)
    (select : List (Candidate (List β)) → List (Candidate (List β)))
    (found : Outcome α × List (Part α β)) : Outcome γ :=
  .settle chain start (continuations join start select found.2)
    (found.2.foldl (fun seen part => Diagnostic.furthest seen part.2.diagnostic?)
      found.1.diagnostic?)

namespace Parser

def partsOf (p : Parser m α) (q : Parser m (List β)) (chain : Chain) (start : Cursor) :
    m (Outcome α × List (Part α β)) := do
  let firsts ← p chain start
  let parts ← firsts.candidates.mapM fun first => Prod.mk first <$> q chain first.stop
  return (firsts, parts)

theorem seq_map_eq (p : Parser m α) {q repeated : Parser m (List β)}
    {select : List (Candidate (List β)) → List (Candidate (List β))} (hnil : select [] = [])
    (hrepeated : ∀ chain start,
      repeated chain start = (·.mapCandidates select) <$> q chain start)
    (join : α → List β → γ) (chain : Chain) (start : Cursor) :
    ((p.seq repeated).map fun (first, rest) => join first rest) chain start
      = joined join chain start select <$> p.partsOf q chain start := by
  have hpart (first : Candidate α) :
      (repeated chain first.stop >>= fun seconds =>
          pure (seconds.map fun value => (first.value, value)))
        = (fun part : Part α β =>
            (part.2.mapCandidates select).map fun value => (part.1.value, value)) <$>
              (Prod.mk first <$> q chain first.stop) := by
    simp only [hrepeated, map_eq_pure_bind, bind_assoc, pure_bind]
  have hjoin (firsts : Outcome α) (parts : List (Part α β)) :
      (Outcome.gather chain start firsts.diagnostic? (parts.map fun part =>
          (part.2.mapCandidates select).map fun value => (part.1.value, value))).map
            (fun (first, rest) => join first rest)
        = joined join chain start select (firsts, parts) := by
    rw [Outcome.gather, Outcome.map_settle, joined, continuations]
    simp [List.flatMap_map, List.map_flatMap, List.foldl_map, hnil, Function.comp_def,
      Candidate.map, Candidate.startingAt]
  simp only [Parser.map, seq, hpart, mapM_map]
  simp only [partsOf, map_eq_pure_bind, bind_assoc, pure_bind, ← hjoin]

theorem seq_manyLongestFirst_eq (p : Parser m α) (q : Parser m β) (join : α → List β → γ)
    (chain : Chain) (start : Cursor) :
    ((p.seq q.manyLongestFirst).map fun (first, rest) => join first rest) chain start
      = joined join chain start List.reverse <$> p.partsOf q.manyShortestFirst chain start :=
  seq_map_eq p rfl (manyLongestFirst_eq q) join chain start

theorem seq_manyGreedy_eq (p : Parser m α) (q : Parser m β) (join : α → List β → γ)
    (chain : Chain) (start : Cursor) :
    ((p.seq q.manyGreedy).map fun (first, rest) => join first rest) chain start
      = joined join chain start longestRuns <$> p.partsOf q.manyShortestFirst chain start :=
  seq_map_eq p rfl (manyGreedy_eq q) join chain start

end Parser

theorem isEmpty_continuations {join : α → List β → γ} {start : Cursor}
    {select : List (Candidate (List β)) → List (Candidate (List β))}
    (hselect : ∀ runs, select runs = [] ↔ runs = []) (parts : List (Part α β)) :
    (continuations join start select parts).isEmpty
      = parts.all fun part => part.2.candidates.isEmpty := by
  apply Bool.eq_iff_iff.2
  simp [continuations, hselect]

theorem continuations_subperm {join : α → List β → γ} {start : Cursor}
    {fewer more : List (Candidate (List β)) → List (Candidate (List β))}
    (hfewer : ∀ runs, (fewer runs).Subperm (more runs)) (parts : List (Part α β)) :
    (continuations join start fewer parts).Subperm (continuations join start more parts) := by
  induction parts with
  | nil => exact List.Subperm.refl []
  | cons part parts ih =>
      rw [continuations, continuations, List.flatMap_cons, List.flatMap_cons]
      obtain ⟨kept, hperm, hsublist⟩ := hfewer part.2.candidates
      exact List.Subperm.append ⟨_, hperm.map _, hsublist.map _⟩ ih

/-- That two outcomes were joined from the same parts, one with all runs behind each first part, the
longest first, and one with those alone that have the most steps. -/
structure KeepsLongest (join : α → List β → γ) (start : Cursor) (parts : List (Part α β))
    (every longest : Outcome γ) : Prop where
  isSuccess_eq : longest.isSuccess = every.isSuccess
  diagnostic?_eq : longest.diagnostic? = every.diagnostic?
  candidates_every : every.candidates = continuations join start List.reverse parts
  candidates_longest : longest.candidates = continuations join start longestRuns parts
  subperm : longest.candidates.Subperm every.candidates

theorem keepsLongest_joined (join : α → List β → γ) (chain : Chain) (start : Cursor)
    (found : Outcome α × List (Part α β)) :
    KeepsLongest join start found.2 (joined join chain start List.reverse found)
      (joined join chain start longestRuns found) where
  isSuccess_eq := by
    rw [joined, joined, Outcome.isSuccess_settle, Outcome.isSuccess_settle,
      isEmpty_continuations fun _ => longestRuns_eq_nil_iff,
      isEmpty_continuations fun _ => List.reverse_eq_nil_iff]
  diagnostic?_eq := by
    rw [joined, joined, Outcome.diagnostic?_settle, Outcome.diagnostic?_settle,
      isEmpty_continuations fun _ => longestRuns_eq_nil_iff,
      isEmpty_continuations fun _ => List.reverse_eq_nil_iff]
  candidates_every := Outcome.candidates_settle _ _ _ _
  candidates_longest := Outcome.candidates_settle _ _ _ _
  subperm := by
    simp only [joined, Outcome.candidates_settle]
    apply continuations_subperm
    intro runs
    exact List.filter_sublist.subperm.trans (List.reverse_perm runs).symm.subperm

/-! ### What greedy repetitions keep -/

/-- That two runs end alike from a workspace: with values that are related, in the same workspace,
or with the same fault. -/
inductive Run.EndAlike (related : α → β → Workspace → Prop) :
    EStateM.Result Fault Workspace α → EStateM.Result Fault Workspace β → Prop where
  | ok {a : α} {b : β} {after : Workspace} (h : related a b after) :
      EndAlike related (.ok a after) (.ok b after)
  | error (fault : Fault) (after : Workspace) :
      EndAlike related (.error fault after) (.error fault after)

theorem Run.endAlike_map (run : Run α) {f : α → β} {g : α → γ}
    {related : β → γ → Workspace → Prop} {before : Workspace}
    (h : ∀ a after, run before = .ok a after → related (f a) (g a) after) :
    Run.EndAlike related ((f <$> run) before) ((g <$> run) before) := by
  simp only [map_eq_pure_bind]
  cases hrun : run before with
  | ok a after =>
      rw [bind_of_ok hrun, bind_of_ok hrun]
      exact .ok (h a after hrun)
  | error fault after =>
      rw [bind_of_error hrun, bind_of_error hrun]
      exact .error fault after

/-- The runs of a repetition, and what its greedy form makes of them. -/
theorem Parser.manyGreedy_endAlike (p : Parser Run α) (chain : Chain) (start : Cursor)
    (before : Workspace) :
    Run.EndAlike (fun every longest _ => ∃ runs carried?, every = .success runs carried? ∧
        longest = .success (longestRuns runs) carried?)
      (p.manyShortestFirst chain start before) (p.manyGreedy chain start before) := by
  have hmany : p.manyShortestFirst chain start
      = (fun found => .success (found.1.reverse.map (·.inOrder)) found.2) <$>
          p.explore chain (chain.remaining start + 1) [.still start []] [] none :=
    (map_eq_pure_bind _ _).symm
  rw [manyGreedy_eq, hmany, ← comp_map]
  apply Run.endAlike_map
  intro found after _
  exact ⟨_, _, rfl, rfl⟩

/-- That two outcomes come from the first parts that are read from a workspace, and from every run
of steps behind each of them: one with all of these runs, and one with the longest. -/
def Parser.KeepLongest (p : Parser Run α) (q : Parser Run β) (join : α → List β → γ) (chain : Chain)
    (start : Cursor) (before : Workspace) (every longest : Outcome γ) (after : Workspace) : Prop :=
  ∃ firsts between parts, p chain start before = .ok firsts between ∧
    firsts.candidates.mapM (fun first => Prod.mk first <$> q.manyShortestFirst chain first.stop)
      between = .ok parts after ∧ KeepsLongest join start parts every longest

theorem Parser.seq_manyGreedy_endAlike (p : Parser Run α) (q : Parser Run β)
    (join : α → List β → γ) (chain : Chain) (start : Cursor) (before : Workspace) :
    Run.EndAlike (p.KeepLongest q join chain start before)
      (((p.seq q.manyLongestFirst).map fun (first, rest) => join first rest) chain start before)
      (((p.seq q.manyGreedy).map fun (first, rest) => join first rest) chain start before) := by
  rw [seq_manyLongestFirst_eq, seq_manyGreedy_eq]
  apply Run.endAlike_map
  intro found after hfound
  obtain ⟨firsts, between, hfirsts, hrest⟩ := Run.bind_eq_ok_iff.1 hfound
  obtain ⟨parts, after', hparts, hend⟩ := Run.bind_eq_ok_iff.1 hrest
  obtain ⟨rfl, rfl⟩ := Run.pure_eq_ok_iff.1 hend
  have hjoined := keepsLongest_joined join chain start (firsts, parts)
  exact ⟨firsts, between, parts, hfirsts, hparts, hjoined⟩

/-- **A greedy repetition has the longest of all runs.** Both end alike: they meet the same fault,
or both succeed with the same diagnostic, and the greedy one has the runs with the most steps, in
the same order. So it is with a list with separators and with a fold from the left, whose greedy
forms succeed or fail as they do, with the same diagnostic, and keep, behind each first part, the
runs with the most steps. -/
theorem Parser.greedy_keepsLongest (p : Parser Run α) (separator : Parser Run β)
    (q : Parser Run γ) (f : α → γ → α) (chain : Chain) (start : Cursor) (before : Workspace) :
    Run.EndAlike (fun every longest _ => ∃ runs carried?, every = .success runs carried? ∧
        longest = .success (longestRuns runs) carried?)
      (p.manyShortestFirst chain start before) (p.manyGreedy chain start before) ∧
    Run.EndAlike (p.KeepLongest (separator.seqRight p) List.cons chain start before)
      (p.separated separator chain start before) (p.separatedGreedy separator chain start before) ∧
    Run.EndAlike (p.KeepLongest q (List.foldl f) chain start before)
      (Parser.folded f p q chain start before) (Parser.foldedGreedy f p q chain start before) :=
  ⟨p.manyGreedy_endAlike chain start before,
    p.seq_manyGreedy_endAlike (separator.seqRight p) List.cons chain start before,
    p.seq_manyGreedy_endAlike q (List.foldl f) chain start before⟩

/-- Two readings of a letter, and nothing, as often as possible. -/
theorem Parser.greedy_keepsLongest_letter :
    ∃ (p : Parser Run String) (chain : Chain) (runs : List (Candidate (List String)))
      (carried? : Option Diagnostic) (after : Workspace),
      p.manyShortestFirst chain 0 {} = .ok (.success runs carried?) after ∧
        p.manyGreedy chain 0 {} = .ok (.success (longestRuns runs) carried?) after ∧
        longestRuns runs = [⟨0, 1, ["one"]⟩, ⟨0, 1, ["other"]⟩] := by
  let letter (text : String) : Token := ⟨"letter", text, ⟨0, 1, 1, 1, 2⟩⟩
  let chain : Chain := #[letter "a", letter "b"]
  let p : Parser Run String := ((Parser.literal "a").map fun _ => "one").either
    (((Parser.literal "a").map fun _ => "other").either (Parser.succeed "none"))
  have halike := (p.greedy_keepsLongest p p (fun first _ => first) chain 0 {}).1
  have hgreedy : ∃ carried? after, p.manyGreedy chain 0 {}
      = .ok (.success [⟨0, 1, ["one"]⟩, ⟨0, 1, ["other"]⟩] carried?) after := ⟨_, _, rfl⟩
  obtain ⟨seen, after, hgreedy⟩ := hgreedy
  rw [hgreedy] at halike
  generalize hevery : p.manyShortestFirst chain 0 {} = every at halike
  cases halike with
  | ok h =>
      obtain ⟨runs, carried?, rfl, hlongest⟩ := h
      obtain ⟨hruns, rfl⟩ := Outcome.success.inj hlongest
      exact ⟨p, chain, runs, seen, after, hevery, hruns ▸ hgreedy, hruns.symm⟩

end TokenGrammar
