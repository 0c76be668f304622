import TokenGrammar.Proofs.Repetition.Answering

/-!
# A number of steps

A number of steps goes level by level and gives up at the first level without runs. If the parser is
a function of the cursor, as every steady grammar is, it comes to the same to take the first of the
steps and then the others behind each run of them, although this meets the diagnostics in another
order: the candidates are the same, and a diagnostic lies as far. Where no step stands still, they
are also the runs of that length among all runs.
-/

namespace TokenGrammar

variable {α β : Type}

/-! ### Steps behind steps -/

namespace Answer

def seq (first : Answer α) (second : Answer β) (chain : Chain) : Answer (α × β) := fun start =>
  .gather chain start (first start).diagnostic? ((first start).candidates.map fun part =>
    (second part.stop).map fun value => (part.value, value))

variable {answer : Answer α} {chain : Chain}

theorem candidates_counted (count : Nat) (start : Cursor) :
    (answer.counted chain count start).candidates = runsOf answer.all start count :=
  Outcome.candidates_settle _ _ _ _

theorem isSuccess_counted (count : Nat) (start : Cursor) :
    (answer.counted chain count start).isSuccess = !(runsOf answer.all start count).isEmpty :=
  Outcome.isSuccess_settle _ _ _ _

theorem reach_diagnosticAt_le_iff {count : Nat} {start : Cursor} {bound : WithBot ℕ∞} :
    Diagnostic.reach (answer.diagnosticAt ((List.range count).flatMap (runsOf answer.all start)))
        ≤ bound ↔
      ∀ done < count, ∀ run ∈ runsOf answer.all start done,
        Diagnostic.reach (answer run.stop).diagnostic? ≤ bound := by
  rw [diagnosticAt, Diagnostic.furthestOf, Diagnostic.reach_foldl_le_iff]
  simp only [Diagnostic.reach_none, bot_le, true_and, List.mem_flatMap, List.mem_range]
  constructor
  · exact fun h done hdone run hrun => h run ⟨done, hdone, hrun⟩
  · rintro h run ⟨done, hdone, hrun⟩
    exact h done hdone run hrun

/-- What some steps and some more behind each of their runs yield. -/
def composed (answer : Answer α) (chain : Chain) (count more : Nat) : Answer (List α) :=
  fun start => ((answer.counted chain count).seq (answer.counted chain more) chain start).map
    fun (values, later) => values ++ later

theorem composed_eq_settle (chain : Chain) (count more : Nat) (start : Cursor) :
    answer.composed chain count more start
      = .settle chain start (runsOf answer.all start (count + more))
          ((runsOf answer.all start count).foldl (fun seen run => Diagnostic.furthest seen
            (answer.counted chain more run.stop).diagnostic?)
            (answer.counted chain count start).diagnostic?) := by
  rw [composed, seq, Outcome.gather, Outcome.map_settle, candidates_counted, List.foldl_map]
  simp only [Outcome.diagnostic?_map]
  congr 1
  rw [List.map_flatMap, List.flatMap_map, runsOf_add]
  apply List.flatMap_congr
  intro run hrun
  rw [Outcome.candidates_map, candidates_counted, List.map_map, List.map_map]
  apply List.map_congr_left
  intro later _
  rw [Candidate.append, start_of_mem_runsOf hrun]
  rfl

/-! ### Answers that fail where they have no candidate -/

section Failing

variable (hfails : ∀ cursor, (answer cursor).candidates = [] → (answer cursor).isSuccess = false)

include hfails

/-- Where a number of steps fails, a step has failed, with a diagnostic. -/
theorem diagnosticAt_ne_none {count : Nat} {start : Cursor}
    (hempty : runsOf answer.all start count = []) :
    answer.diagnosticAt ((List.range count).flatMap (runsOf answer.all start)) ≠ none := by
  induction count with
  | zero => cases hempty
  | succ count ih =>
      rw [List.range_succ, List.flatMap_append, List.flatMap_singleton, diagnosticAt_append]
      rcases hlevel : runsOf answer.all start count with _ | ⟨run, level⟩
      · exact ih hlevel
      · -- the last level that has a run: every step from there fails
        have hrun : run ∈ runsOf answer.all start count := hlevel ▸ List.mem_cons_self
        have hnone : answer.all run.stop = [] :=
          List.map_eq_nil_iff.1 (List.flatMap_eq_nil_iff.1 hempty run hrun)
        apply Diagnostic.foldl_furthest_ne_none_of_mem _ List.mem_cons_self
        have hfailure := hfails run.stop hnone
        cases hanswer : answer run.stop with
        | success => simp [hanswer, Outcome.isSuccess] at hfailure
        | failure => simp

theorem diagnostic?_counted (chain : Chain) (count : Nat) (start : Cursor) :
    (answer.counted chain count start).diagnostic?
      = answer.diagnosticAt ((List.range count).flatMap (runsOf answer.all start)) := by
  rw [counted, Outcome.diagnostic?_settle]
  split
  · rename_i hempty
    obtain ⟨diagnostic, hdiagnostic⟩ :=
      Option.ne_none_iff_exists'.1 (diagnosticAt_ne_none hfails (List.isEmpty_iff.1 hempty))
    rw [hdiagnostic, Option.getD_some]
  · rfl

/-- Steps behind steps meet diagnostics that lie as far as those of all of them at once. -/
theorem reach_composed (chain : Chain) (count more : Nat) (start : Cursor) :
    Diagnostic.reach ((runsOf answer.all start count).foldl (fun seen run =>
        Diagnostic.furthest seen (answer.counted chain more run.stop).diagnostic?)
        (answer.counted chain count start).diagnostic?)
      = Diagnostic.reach (answer.counted chain (count + more) start).diagnostic? := by
  apply eq_of_forall_ge_iff
  intro bound
  simp only [Diagnostic.reach_foldl_le_iff, diagnostic?_counted hfails, reach_diagnosticAt_le_iff]
  constructor
  · rintro ⟨hfirst, hlater⟩ done hdone run hrun
    rcases Nat.lt_or_ge done count with hlt | hge
    · exact hfirst done hlt run hrun
    · obtain ⟨left, rfl⟩ := Nat.exists_eq_add_of_le hge
      rw [runsOf_add] at hrun
      obtain ⟨before, hbefore, hrun⟩ := List.mem_flatMap.1 hrun
      obtain ⟨later, hmem, rfl⟩ := List.mem_map.1 hrun
      exact hlater before hbefore left (by omega) later hmem
  · intro h
    refine ⟨fun done hdone => h done (by omega), fun run hrun done hdone later hlater => ?_⟩
    refine h (count + done) (by omega) (run.append later) ?_
    rw [runsOf_add]
    exact List.mem_flatMap.2 ⟨run, hrun, List.mem_map_of_mem hlater⟩

theorem composed_alike (chain : Chain) (count more : Nat) (start : Cursor) :
    (answer.composed chain count more start).diagnostic?.map Diagnostic.progress
      = (answer.counted chain (count + more) start).diagnostic?.map Diagnostic.progress := by
  have hreach := reach_composed hfails chain count more start
  rw [composed_eq_settle, Outcome.diagnostic?_settle]
  split
  · rename_i hempty
    -- nothing is left, so a step has failed, and there is a diagnostic on either side
    have hsome := diagnosticAt_ne_none hfails (List.isEmpty_iff.1 hempty)
    rw [← diagnostic?_counted hfails chain] at hsome
    generalize List.foldl _ _ _ = seen at hreach ⊢
    cases seen with
    | none =>
        have hnone := Option.map_eq_none_iff.1 hreach.symm
        exact absurd hnone hsome
    | some diagnostic => exact hreach
  · exact hreach

end Failing

/-! ### Runs of one length -/

theorem filter_levels (next : Cursor → List (Candidate α)) (start : Cursor) (length count : Nat) :
    ((List.range count).flatMap (runsOf next start)).filter (·.value.length == length)
      = if length < count then runsOf next start length else [] := by
  induction count with
  | zero => rfl
  | succ count ih =>
      rw [List.range_succ, List.flatMap_append, List.flatMap_singleton, List.filter_append, ih]
      by_cases heq : length = count
      · subst heq
        have hlevel : (runsOf next start length).filter (·.value.length == length)
            = runsOf next start length :=
          List.filter_eq_self.2 fun run hrun => beq_iff_eq.2 (length_of_mem_runsOf hrun)
        simp [hlevel]
      · have hlevel : (runsOf next start count).filter (·.value.length == length) = [] := by
          refine List.filter_eq_nil_iff.2 fun run hrun hlength => heq ?_
          rw [← beq_iff_eq.1 hlength, length_of_mem_runsOf hrun]
        have hiff : length < count + 1 ↔ length < count := by omega
        simp [hlevel, hiff]

theorem Explores.filter_eq {start : Cursor} {runs : List (Candidate (List α))}
    {seen : Option Diagnostic} (h : answer.Explores start runs seen)
    (hmoves : ∀ cursor, ∀ step ∈ (answer cursor).candidates, step.stop ≠ cursor) (count : Nat) :
    runs.filter (·.value.length == count) = runsOf answer.all start count := by
  have hsame : answer.moving = answer.all := by
    funext cursor
    exact List.filter_eq_self.2 fun step hstep => bne_iff_ne.2 (hmoves cursor step hstep)
  obtain ⟨levels, hempty, rfl, _⟩ := h
  rw [filter_levels, hsame]
  split
  · rfl
  · rename_i hge
    obtain ⟨more, rfl⟩ := Nat.exists_eq_add_of_le (Nat.le_of_not_lt hge)
    rw [hsame] at hempty
    exact (runsOf_eq_nil hempty more).symm

end Answer

/-! ### Parsers -/

namespace Parser

section Answered

variable {m : Type → Type} [Monad m] [LawfulMonad m] {observation : Observation m} {chain : Chain}

theorem yields_seq_answer {p : Parser m α} {q : Parser m β} {first : Answer α} {second : Answer β}
    (hp : ∀ start, observation.Yields (p chain start) fun _ outcome => outcome = first start)
    (hq : ∀ start, observation.Yields (q chain start) fun _ outcome => outcome = second start)
    (start : Cursor) : observation.Yields (p.seq q chain start) fun _ outcome =>
      outcome = first.seq second chain start := by
  apply observation.yields_seq (hp start) hq
  rintro _ _ later parts rfl hparts
  rw [Answer.seq, hparts.eq_map]
  rintro part _ _ ⟨_, rfl, rfl⟩
  rfl

theorem Answered.composed {p : Parser m α} {answer : Answer α}
    (hp : p.Answered observation chain answer) (count more : Nat) (start : Cursor) :
    observation.Yields ((((Parser.exactly count p).seq (Parser.exactly more p)).map
        fun (values, later) => values ++ later) chain start) fun _ outcome =>
      outcome = answer.composed chain count more start := by
  apply observation.yields_map
    (yields_seq_answer (fun start => hp.exactly count start) (fun start => hp.exactly more start)
      start)
  rintro _ _ rfl
  rfl

end Answered

variable {p : Parser Run α} {chain : Chain} {holds : Workspace → Prop} {answer : Answer α}

/-- **A number of steps is a sequence of steps, and a slice of all runs.** Unless the parser itself
meets a fault, to take some steps and some more behind each of their runs has the same candidates,
in the same order, as to take all of them at once: it fails where that fails, and its diagnostic, if
there is one, lies as far. And if no step stands still, a number of steps has the runs of that
length among all runs, and fails where there are none. -/
theorem exactly_composes (hp : p.ReadsAs chain holds answer)
    (hfails : ∀ cursor, (answer cursor).candidates = [] → (answer cursor).isSuccess = false)
    (count more : Nat) (start : Cursor) {before : Workspace} (hbefore : holds before) :
    (∃ whole composed : Outcome (List α),
      Lands (exactly (count + more) p chain start) before (fun outcome _ => outcome = whole)
        (p.Meets chain holds) ∧
      Lands (((exactly count p).seq (exactly more p)).map
          (fun (values, later) => values ++ later) chain start) before
        (fun outcome _ => outcome = composed) (p.Meets chain holds) ∧
      composed.isSuccess = whole.isSuccess ∧ composed.candidates = whole.candidates ∧
      (∀ candidate ∈ whole.candidates, candidate.value.length = count + more) ∧
      composed.diagnostic?.map Diagnostic.progress
        = whole.diagnostic?.map Diagnostic.progress) ∧
    ((∀ cursor, ∀ step ∈ (answer cursor).candidates, step.stop ≠ cursor) →
      ∃ counted : Outcome (List α),
        Lands (exactly count p chain start) before (fun outcome _ => outcome = counted)
          (p.Meets chain holds) ∧
        Lands (p.manyShortestFirst chain start) before
          (fun every _ =>
            counted.candidates = every.candidates.filter (·.value.length == count) ∧
            (counted.isSuccess = false ↔
              every.candidates.filter (·.value.length == count) = []))
          (p.Meets chain holds)) := by
  have hanswered : p.Answered (Run.landing holds (p.Meets chain holds)) chain answer :=
    hp.answered fun _ _ h => h
  have hexactly (steps : Nat) : Lands (exactly steps p chain start) before
      (fun outcome _ => outcome = answer.counted chain steps start) (p.Meets chain holds) :=
    (hanswered.exactly steps start before hbefore).imp (fun _ _ h => h.2.choose_spec)
      fun _ _ h => h
  constructor
  · refine ⟨answer.counted chain (count + more) start, answer.composed chain count more start,
      hexactly (count + more), ?_, ?_, ?_, ?_, ?_⟩
    · exact (hanswered.composed count more start before hbefore).imp
        (fun _ _ h => h.2.choose_spec) fun _ _ h => h
    · rw [Answer.composed_eq_settle, Answer.isSuccess_counted, Outcome.isSuccess_settle]
    · rw [Answer.composed_eq_settle, Answer.candidates_counted, Outcome.candidates_settle]
    · rw [Answer.candidates_counted]
      exact fun candidate => length_of_mem_runsOf
    · exact Answer.composed_alike hfails chain count more start
  · intro hmoves
    refine ⟨answer.counted chain count start, hexactly count, ?_⟩
    apply (hanswered.manyShortestFirst start before hbefore).imp
    · rintro _ _ ⟨_, _, runs, seen, rfl, hexplores⟩
      have hlevel := hexplores.filter_eq hmoves count
      rw [Answer.candidates_counted, Answer.isSuccess_counted, Outcome.candidates, hlevel]
      simp
    · exact fun _ _ h => h

/-- A letter that is read in two ways, twice, and once behind once, and once among all its runs. -/
theorem exactly_composes_letters :
    ∃ (workspace : Workspace) (chain : Chain) (letter : Parser Run Value)
      (holds : Workspace → Prop) (answer : Answer Value), letter.ReadsAs chain holds answer ∧
        holds workspace ∧
        (∀ cursor, (answer cursor).candidates = [] → (answer cursor).isSuccess = false) ∧
        (∀ cursor, ∀ step ∈ (answer cursor).candidates, step.stop ≠ cursor) ∧
        ∃ (twice composed once every : Outcome (List Value)) (after later : Workspace),
          exactly 2 letter chain 0 workspace = .ok twice after ∧
          (((exactly 1 letter).seq (exactly 1 letter)).map fun (values, later) => values ++ later)
            chain 0 workspace = .ok composed after ∧
          exactly 1 letter chain 0 workspace = .ok once after ∧
          letter.manyShortestFirst chain 0 workspace = .ok every later ∧
          composed.candidates = twice.candidates ∧ twice.candidates.length = 4 ∧
          once.candidates = every.candidates.filter (·.value.length == 1) ∧
          once.candidates.length = 2 := by
  let token (text : String) : Token := ⟨"letter", text, ⟨0, 1, 1, 1, 2⟩⟩
  let chain : Chain := #[token "a", token "a"]
  let pattern : Grammar := .binary .either (.leaf (.literal "a")) (.leaf (.literal "a"))
  let workspace : Workspace := { slots := #[some pattern] }
  let letter : Parser Run Value := (Grammar.linked (.rule 0)).parseWithin 4 []
  obtain ⟨holds, answer, hbefore, hletter, hfails⟩ := Grammar.readsAs_rule pattern rfl rfl chain 4
  have hmoves (cursor : Cursor) : ∀ step ∈ (answer cursor).candidates, step.stop ≠ cursor := by
    have hrun (cursor : Nat) : ∃ outcome after, letter chain cursor workspace = .ok outcome after ∧
        ∀ step ∈ outcome.candidates, step.stop ≠ cursor := by
      match cursor with
      | 0 => exact ⟨_, _, rfl, by decide⟩
      | 1 => exact ⟨_, _, rfl, by decide⟩
      | cursor + 2 => exact ⟨_, _, rfl, nofun⟩
    obtain ⟨outcome, after, hrun, hsteps⟩ := hrun cursor
    rwa [← (hletter.eq_answer hbefore hrun).1]
  have hruns : ∃ (twice composed once every : Outcome (List Value)) (after later : Workspace),
      exactly 2 letter chain 0 workspace = .ok twice after ∧
      (((exactly 1 letter).seq (exactly 1 letter)).map fun (values, later) => values ++ later)
        chain 0 workspace = .ok composed after ∧
      exactly 1 letter chain 0 workspace = .ok once after ∧
      letter.manyShortestFirst chain 0 workspace = .ok every later ∧
      twice.candidates.length = 4 ∧ once.candidates.length = 2 :=
    ⟨_, _, _, _, _, _, rfl, rfl, rfl, rfl, rfl, rfl⟩
  obtain ⟨twice, composed, once, every, after, later, htwice, hcomposed, honce, hevery, hfour,
    htwo⟩ := hruns
  obtain ⟨⟨_, _, hwhole, hbehind, _, hsame, _⟩, hslice⟩ :=
    exactly_composes hletter hfails 1 1 0 hbefore
  obtain ⟨_, hcounted, hlands⟩ := hslice hmoves
  obtain rfl := hwhole.of_ok htwice
  obtain rfl := hbehind.of_ok hcomposed
  obtain rfl := hcounted.of_ok honce
  exact ⟨workspace, chain, letter, holds, answer, hletter, hbefore, hfails, hmoves, twice, composed,
    once, every, after, later, htwice, hcomposed, honce, hevery, hsame, hfour,
    (hlands.of_ok hevery).1, htwo⟩

end Parser

end TokenGrammar
