import TokenGrammar.Proofs.Repetition.BreadthFirst
import TokenGrammar.Proofs.Repetition.Longest

/-!
# Folds from the left

A production that begins with itself grows at its end: a first part is a reading of it, and so is a
reading that is followed by one more step. A fold from the left reads a first part, then a run of
steps, and folds the values afterwards. It reads the same, and finds every reading once, those of
one first part together, the longest first. Its greedy form has the longest ones alone.
-/

namespace TokenGrammar

variable {ι κ α β γ : Type}

/-! ### Productions that begin with themselves -/

namespace Readings

/-- The readings of a production that begins with itself: those of a first part, and those that are
followed by a step that moves. They are known by the first part and the steps. -/
inductive Growing (f : α → β → α) (first : Readings ι α) (next : Readings κ β) :
    Readings (ι × List κ) α where
  | base {start stop : Cursor} {way : ι} {value : α} (hfirst : first start way value stop) :
      Growing f first next start (way, []) value stop
  | step {start between stop : Cursor} {way : ι} {ways : List κ} {last : κ} {value : α}
      {further : β} (hgrowing : Growing f first next start (way, ways) value between)
      (hnext : next.moving between last further stop) :
      Growing f first next start (way, ways ++ [last]) (f value further) stop

/-- Those readings that have the most steps behind their first part. -/
def longest (readings : Readings (ι × List κ) α) : Readings (ι × List κ) α :=
  fun start way value stop => readings start way value stop ∧
    ∀ ways value' stop', readings start (way.1, ways) value' stop' → ways.length ≤ way.2.length

/-- What grows at its end is a first part and a run of steps, folded from the left: one way by
induction on how it has grown, the other by induction on the steps, from the last one. -/
theorem growing_iff {f : α → β → α} {first : Readings ι α} {next : Readings κ β}
    {start stop : Cursor} {way : ι} {ways : List κ} {value : α} :
    Growing f first next start (way, ways) value stop ↔ ∃ part between values,
      first start way part between ∧ next.many between ways values stop ∧
        value = values.foldl f part := by
  constructor
  · generalize hboth : (way, ways) = both
    intro h
    induction h generalizing ways with
    | base hfirst =>
        cases hboth
        exact ⟨_, _, [], hfirst, .nil _, rfl⟩
    | @step _ between _ _ _ _ _ further _ hnext ih =>
        cases hboth
        obtain ⟨part, stop, values, hfirst, hmany, rfl⟩ := ih rfl
        have hmany' := repeats_concat_iff.2 ⟨between, values, further, rfl, hmany, hnext⟩
        exact ⟨part, stop, values ++ [further], hfirst, hmany', by simp⟩
  · rintro ⟨part, between, values, hfirst, hmany, rfl⟩
    induction ways using List.reverseRecOn generalizing values stop with
    | nil =>
        obtain ⟨rfl, rfl⟩ := repeats_nil_iff.1 hmany
        exact .base hfirst
    | append_singleton ways last ih =>
        obtain ⟨between', values, further, rfl, hmany, hnext⟩ := repeats_concat_iff.1 hmany
        rw [List.foldl_append]
        exact .step (ih values hmany) hnext

end Readings

/-! ### What is enumerated behind first parts -/

namespace Answer

variable {first : Answer α} {next : Answer β} {start : Cursor} {f : α → β → α}

/-- The runs of steps that move than which there is none with more steps. -/
def Longest (next : Answer β) (start : Cursor) (ways : List Nat) (run : Candidate (List β)) :
    Prop :=
  next.readings.many.Gives start ways run ∧
    ∀ others other, next.readings.many.Gives start others other → others.length ≤ ways.length

theorem Explores.enumerates_longest {runs : List (Candidate (List β))} {seen : Option Diagnostic}
    (h : next.Explores start runs seen) :
    EnumeratesIn (fun _ _ => True) (next.Longest start) (longestRuns runs) := by
  have honce := Enumerates.of_order h.enumerates
  apply (Enumerates.iff_inAnyOrder.1 honce).filter
  intro ways run
  apply and_congr_right
  intro hrun
  simp only [List.all_eq_true, decide_eq_true_iff]
  constructor
  · intro hlongest other hother
    obtain ⟨others, hothers⟩ := honce.exists_of_mem hother
    rw [hothers.2.length_eq, hrun.2.length_eq]
    exact hlongest others other hothers
  · intro hlongest others other hothers
    rw [← hothers.2.length_eq, ← hrun.2.length_eq]
    exact hlongest other (honce.mem_of_relation hothers)

/-- What is found behind a first part, if all runs of an answer are explored there. -/
def Behind (next : Answer β) (part : Candidate α) (_ : List Diagnostic) (found : Part α β) : Prop :=
  found.1 = part ∧ ∃ runs seen, found.2 = .success runs seen ∧ next.Explores part.stop runs seen

theorem enumerates_continuations {select : List (Candidate (List β)) → List (Candidate (List β))}
    {order : List Nat → List Nat → Prop}
    {selected : Cursor → List Nat → Candidate (List β) → Prop}
    (hselect : ∀ {start runs seen}, next.Explores start runs seen →
      EnumeratesIn order (selected start) (select runs))
    (join : α → List β → γ) (start : Cursor) {firsts : List (Candidate α)}
    {misses : List Diagnostic} {parts : List (Part α β)}
    (hparts : Collected next.Behind firsts misses parts) :
    EnumeratesIn (EnumeratesIn.Lexically (· < ·) order)
      (fun way : Nat × List Nat => fun candidate => ∃ part, firsts[way.1]? = some part ∧ ∃ run,
        selected part.stop way.2 run ∧ candidate = ⟨start, run.stop, join part.value run.value⟩)
      (continuations join start select parts) := by
  have hbehind (part : Candidate α) (misses : List Diagnostic) (found : Part α β)
      (hfound : next.Behind part misses found) :
      EnumeratesIn order (fun ways => fun candidate : Candidate γ => ∃ run,
        selected part.stop ways run ∧ candidate = ⟨start, run.stop, join part.value run.value⟩)
        ((select found.2.candidates).map fun run =>
          ⟨start, run.stop, join found.1.value run.value⟩) := by
    obtain ⟨_, _⟩ := found
    obtain ⟨rfl, runs, seen, rfl, hexplores⟩ := hfound
    apply (hselect hexplores).map Function.injective_id _ fun _ _ h => h
    intro ways candidate
    constructor
    · rintro ⟨run, hrun, rfl⟩
      exact ⟨ways, run, hrun, rfl, rfl⟩
    · rintro ⟨_, run, hrun, rfl, rfl⟩
      exact ⟨run, hrun, rfl⟩
  exact (EnumeratesIn.places firsts).collected hbehind hparts

theorem growing_gives_iff {way : Nat × List Nat} {candidate : Candidate α} :
    (Readings.Growing f first.readings next.readings).Gives start way candidate ↔
      ∃ part, (first start).candidates[way.1]? = some part ∧ ∃ run,
        next.readings.many.Gives part.stop way.2 run ∧
          candidate = ⟨start, run.stop, run.value.foldl f part.value⟩ := by
  obtain ⟨place, ways⟩ := way
  constructor
  · rintro ⟨rfl, hgrowing⟩
    obtain ⟨_, _, values, ⟨part, hpart, rfl, rfl⟩, hmany, hvalue⟩ := Readings.growing_iff.1 hgrowing
    refine ⟨part, hpart, ⟨part.stop, candidate.stop, values⟩, ⟨rfl, hmany⟩, ?_⟩
    rw [← hvalue]
  · rintro ⟨part, hpart, run, ⟨_, hmany⟩, rfl⟩
    refine ⟨rfl, Readings.growing_iff.2 ?_⟩
    exact ⟨part.value, part.stop, run.value, ⟨part, hpart, rfl, rfl⟩, hmany, rfl⟩

theorem longest_gives_iff {way : Nat × List Nat} {candidate : Candidate α} :
    (Readings.Growing f first.readings next.readings).longest.Gives start way candidate ↔
      ∃ part, (first start).candidates[way.1]? = some part ∧ ∃ run,
        next.Longest part.stop way.2 run ∧
          candidate = ⟨start, run.stop, run.value.foldl f part.value⟩ := by
  constructor
  · rintro ⟨hstart, hgrowing, hlongest⟩
    obtain ⟨part, hpart, run, hrun, heq⟩ := growing_gives_iff.1 ⟨hstart, hgrowing⟩
    refine ⟨part, hpart, run, ⟨hrun, fun others other hother => ?_⟩, heq⟩
    have hgives : (Readings.Growing f first.readings next.readings).Gives start (way.1, others)
        ⟨start, other.stop, other.value.foldl f part.value⟩ :=
      growing_gives_iff.2 ⟨part, hpart, other, hother, rfl⟩
    exact hlongest others _ _ hgives.2
  · rintro ⟨part, hpart, run, ⟨hrun, hlongest⟩, heq⟩
    obtain ⟨hstart, hgrowing⟩ := growing_gives_iff.2 ⟨part, hpart, run, hrun, heq⟩
    refine ⟨hstart, hgrowing, fun others value stop hother => ?_⟩
    have hgives : (Readings.Growing f first.readings next.readings).Gives start (way.1, others)
        ⟨start, stop, value⟩ := ⟨rfl, hother⟩
    obtain ⟨part', hpart', other, hother, _⟩ := growing_gives_iff.1 hgives
    obtain rfl := Option.some_inj.1 (hpart.symm.trans hpart')
    exact hlongest others other hother

end Answer

/-! ### Parsers -/

/-- An outcome that fails where it has no candidate fails nowhere else. -/
theorem Outcome.isSuccess_eq {outcome : Outcome α}
    (hfails : outcome.candidates = [] → outcome.isSuccess = false) :
    outcome.isSuccess = !outcome.candidates.isEmpty := by
  cases outcome with
  | failure => rfl
  | success candidates =>
      cases candidates with
      | nil => exact hfails rfl
      | cons => rfl

/-- That two outcomes are those of a fold from the left and of its greedy form: the readings that
have grown behind each candidate of the first part, in the order of these candidates, the longest
first, or the longest ones alone. -/
structure Answer.Folds (f : α → β → α) (first : Answer α) (next : Answer β) (start : Cursor)
    (every longest : Outcome α) : Prop where
  candidates_every : EnumeratesIn
    (EnumeratesIn.Lexically (· < ·) fun ways later => later.length ≤ ways.length)
    ((Readings.Growing f first.readings next.readings).Gives start) every.candidates
  candidates_longest : EnumeratesIn (EnumeratesIn.Lexically (· < ·) fun _ _ => True)
    ((Readings.Growing f first.readings next.readings).longest.Gives start) longest.candidates
  isSuccess_every : every.isSuccess = (first start).isSuccess
  isSuccess_longest : longest.isSuccess = (first start).isSuccess

namespace Answer

variable {first : Answer α} {next : Answer β} {start : Cursor}

theorem isEmpty_of_growing {f : α → β → α} {order : Nat × List Nat → Nat × List Nat → Prop}
    {candidates : List (Candidate α)} (h : EnumeratesIn order
      ((Readings.Growing f first.readings next.readings).Gives start) candidates) :
    candidates.isEmpty = (first start).candidates.isEmpty := by
  apply Bool.eq_iff_iff.2
  rw [List.isEmpty_iff, List.isEmpty_iff, (Enumerates.of_order h).eq_nil_iff]
  constructor
  · intro hnone
    apply List.eq_nil_iff_forall_not_mem.2
    intro part hpart
    -- a first part by itself is a reading
    obtain ⟨place, hplace⟩ := List.mem_iff_getElem?.1 hpart
    exact hnone (place, []) ⟨start, part.stop, part.value⟩ ⟨rfl, .base ⟨part, hplace, rfl, rfl⟩⟩
  · intro hnone way candidate hgives
    obtain ⟨part, hpart, _⟩ := growing_gives_iff.1 hgives
    rw [hnone] at hpart
    cases hpart

theorem folds_joined (f : α → β → α) (chain : Chain)
    (hfails : (first start).candidates = [] → (first start).isSuccess = false)
    {misses : List Diagnostic} {parts : List (Part α β)}
    (hparts : Collected next.Behind (first start).candidates misses parts) :
    Folds f first next start
      (joined (List.foldl f) chain start List.reverse (first start, parts))
      (joined (List.foldl f) chain start longestRuns (first start, parts)) := by
  have hkeeps := keepsLongest_joined (List.foldl f) chain start (first start, parts)
  have hevery : EnumeratesIn _ ((Readings.Growing f first.readings next.readings).Gives start)
      (continuations (List.foldl f) start List.reverse parts) :=
    (enumerates_continuations (fun h => h.enumerates.reverse) (List.foldl f) start hparts).congr
      fun _ _ => growing_gives_iff
  have hlongest := (enumerates_continuations (fun h => h.enumerates_longest) (List.foldl f) start
    hparts).congr fun _ _ => longest_gives_iff
  have hsuccess : (joined (List.foldl f) chain start List.reverse (first start, parts)).isSuccess
      = (first start).isSuccess := by
    rw [joined, Outcome.isSuccess_settle, isEmpty_of_growing hevery, Outcome.isSuccess_eq hfails]
  exact ⟨hkeeps.candidates_every ▸ hevery, hkeeps.candidates_longest ▸ hlongest, hsuccess,
    hkeeps.isSuccess_eq.trans hsuccess⟩

end Answer

namespace Parser

theorem yields_partsOf {m : Type → Type} [Monad m] [LawfulMonad m] {observation : Observation m}
    {chain : Chain} {p : Parser m α} {q : Parser m β} {first : Answer α} {next : Answer β}
    (hp : p.Answered observation chain first) (hq : q.Answered observation chain next)
    (start : Cursor) : observation.Yields (p.partsOf q.manyShortestFirst chain start) fun _ found =>
      ∃ misses parts, found = (first start, parts) ∧
        Collected next.Behind (first start).candidates misses parts := by
  have hpart (part : Candidate α) : observation.Yields
      (Prod.mk part <$> q.manyShortestFirst chain part.stop) (next.Behind part) := by
    rw [map_eq_pure_bind]
    exact observation.map (hq.manyShortestFirst part.stop) fun _ found hfound => ⟨rfl, hfound⟩
  refine observation.bind (hp start) fun _ firsts hfirsts => ?_
  obtain ⟨rfl, _⟩ := hfirsts
  refine observation.map (observation.mapM fun part _ => hpart part) fun misses parts hparts => ?_
  exact ⟨misses, parts, rfl, hparts⟩

variable {p : Parser Run α} {q : Parser Run β} {chain : Chain} {holds : Workspace → Prop}
  {first : Answer α} {next : Answer β}

/-- **A fold from the left is a production that begins with itself.** Unless one of its parts meets
a fault, it has each reading of the production once: behind each candidate of the first part, in
their order, the longest readings first. It fails where the first part fails. Its greedy form ends
alike, and has behind each candidate of the first part the readings with the most steps. -/
theorem folded_grows (f : α → β → α) (hp : p.ReadsAs chain holds first)
    (hq : q.ReadsAs chain holds next) {start : Cursor}
    (hfails : (first start).candidates = [] → (first start).isSuccess = false)
    {before : Workspace} (hbefore : holds before) :
    Lands (folded f p q chain start) before
      (fun every after => ∃ longest between, p chain start before = .ok (first start) between ∧
        foldedGreedy f p q chain start before = .ok longest after ∧
        first.Folds f next start every longest)
      (fun fault after => (p.Meets chain holds fault after ∨ q.Meets chain holds fault after) ∧
        foldedGreedy f p q chain start before = .error fault after) := by
  have hlands := yields_partsOf (hp.answered fun fault after => Or.inl)
    (hq.answered fun fault after => Or.inr) start before hbefore
  have hevery := seq_manyLongestFirst_eq p q (List.foldl f) chain start
  have hlongest := seq_manyGreedy_eq p q (List.foldl f) chain start
  rw [folded, foldedGreedy, hevery, hlongest, map_eq_pure_bind, map_eq_pure_bind]
  apply Lands.of_results
  · intro every after hrun
    obtain ⟨found, _, hparts, hend⟩ := Run.bind_eq_ok_iff.1 hrun
    obtain ⟨rfl, rfl⟩ := Run.pure_eq_ok_iff.1 hend
    obtain ⟨firsts, between, hfirsts, _⟩ := Run.bind_eq_ok_iff.1 hparts
    obtain rfl := (hp.eq_answer hbefore hfirsts).1
    obtain ⟨_, _, _, parts, rfl, hbehind⟩ := hlands.of_ok hparts
    refine ⟨_, between, hfirsts, ?_, Answer.folds_joined f chain hfails hbehind⟩
    rw [Run.bind_of_ok hparts]
    rfl
  · intro fault after hrun
    have hparts : p.partsOf q.manyShortestFirst chain start before = .error fault after := by
      apply Run.error_of_bind _ hrun
      rintro _ _ ⟨⟩
    refine ⟨hlands.of_error hparts, ?_⟩
    rw [Run.bind_of_error hparts]

/-- A letter that is read in two ways, and any number of further ones. -/
theorem folded_grows_letters :
    ∃ (workspace : Workspace) (chain : Chain) (letter : Parser Run Value)
      (holds : Workspace → Prop) (answer : Answer Value) (every longest : Outcome Value)
      (after : Workspace), letter.ReadsAs chain holds answer ∧
        ((answer 0).candidates = [] → (answer 0).isSuccess = false) ∧ holds workspace ∧
        folded .pair letter letter chain 0 workspace = .ok every after ∧
        foldedGreedy .pair letter letter chain 0 workspace = .ok longest after ∧
        every.candidates.map (·.stop) = [2, 2, 1, 2, 2, 1] ∧
        longest.candidates.map (·.stop) = [2, 2, 2, 2] ∧
        answer.Folds .pair answer 0 every longest := by
  let token (text : String) : Token := ⟨"letter", text, ⟨0, 1, 1, 1, 2⟩⟩
  let chain : Chain := #[token "a", token "a"]
  let pattern : Grammar := .binary .either (.leaf (.literal "a")) (.leaf (.literal "a"))
  let workspace : Workspace := { slots := #[some pattern] }
  let letter : Parser Run Value := (Grammar.linked (.rule 0)).parseWithin 4 []
  obtain ⟨holds, answer, hbefore, hletter, hfails⟩ := Grammar.readsAs_rule pattern rfl rfl chain 4
  have hlands := folded_grows Value.pair hletter hletter (hfails 0) hbefore
  have hevery : ∃ every after, folded Value.pair letter letter chain 0 workspace = .ok every after ∧
      every.candidates.map (·.stop) = [2, 2, 1, 2, 2, 1] := ⟨_, _, rfl, by decide +kernel⟩
  have hlongest : ∃ longest after,
      foldedGreedy Value.pair letter letter chain 0 workspace = .ok longest after ∧
        longest.candidates.map (·.stop) = [2, 2, 2, 2] := ⟨_, _, rfl, by decide +kernel⟩
  obtain ⟨every, after, hevery, hstops⟩ := hevery
  obtain ⟨_, _, hlongest, hlast⟩ := hlongest
  obtain ⟨longest, _, _, hgreedy, hfolds⟩ := hlands.of_ok hevery
  rw [hgreedy] at hlongest
  obtain ⟨rfl, rfl⟩ := EStateM.Result.ok.inj hlongest
  exact ⟨workspace, chain, letter, holds, answer, every, longest, after, hletter, hfails 0, hbefore,
    hevery, hgreedy, hstops, hlast, hfolds⟩

end Parser

end TokenGrammar
