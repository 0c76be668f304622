import TokenGrammar.Proofs.Repetition.Counting
import TokenGrammar.Proofs.Termination
import TokenGrammar.Proofs.WellFormed

/-!
# Answers of wholes

Two parsers that ask the same parts in different orders cannot be compared step by step, because a
part may leave another workspace behind than it found. But if the parts are functions of the cursor,
then so are sequences and choices of them, whatever the order, and two functions can be compared
instead. The candidates of a whole are those of its parts; its diagnostic lies as far as the
furthest of theirs.
-/

namespace TokenGrammar

variable {α β : Type}

/-! ### Outcomes that begin at a cursor -/

namespace Outcome

/-- That all candidates begin at a cursor, and that there are some if there is a success. -/
abbrev Proper (start : Cursor) (outcome : Outcome α) : Prop := outcome.Reports (fun _ => True) start

/-- That two outcomes both succeed or both fail, with the same candidates in the same order, and
with diagnostics that lie equally far. -/
structure Agrees (left right : Outcome α) : Prop where
  isSuccess_eq : left.isSuccess = right.isSuccess
  candidates_eq : left.candidates = right.candidates
  reach_eq : Diagnostic.reach left.diagnostic? = Diagnostic.reach right.diagnostic?

variable {start : Cursor} {outcome : Outcome α}

theorem Proper.settle_eq (h : outcome.Proper start) (chain : Chain) :
    settle chain start outcome.candidates outcome.diagnostic? = outcome := by
  cases outcome with
  | success candidates carried? =>
      have hnonempty : candidates ≠ [] := h.nonempty rfl
      rw [settle, if_neg (by simpa using hnonempty)]
      rfl
  | failure diagnostic => rfl

theorem Proper.map_startingAt (h : outcome.Proper start) :
    outcome.candidates.map (·.startingAt start) = outcome.candidates := by
  apply List.map_congr_left _ |>.trans (List.map_id _)
  intro candidate hcandidate
  rw [Candidate.startingAt, ← h.starts candidate hcandidate]
  rfl

theorem Proper.diagnostic?_ne_none (h : outcome.Proper start) (hnone : outcome.candidates = []) :
    outcome.diagnostic? ≠ none := by
  cases outcome with
  | success candidates carried? => exact absurd hnone (h.nonempty rfl)
  | failure diagnostic => exact Option.some_ne_none diagnostic

theorem Proper.map (h : outcome.Proper start) (f : α → β) : (outcome.map f).Proper start where
  nonempty hsuccess hnone := by
    rw [candidates_map] at hnone
    refine h.nonempty ?_ (List.map_eq_nil_iff.1 hnone)
    cases outcome with
    | success candidates carried? => rfl
    | failure diagnostic => cases hsuccess
  starts image himage := by
    rw [candidates_map] at himage
    obtain ⟨candidate, hcandidate, rfl⟩ := List.mem_map.1 himage
    exact h.starts candidate hcandidate
  reports _ _ := trivial

theorem diagnostic?_settle_of_found (chain : Chain) (start : Cursor)
    {candidates : List (Candidate α)} {diagnostic? : Option Diagnostic}
    (hfound : candidates = [] → diagnostic? ≠ none) :
    (settle chain start candidates diagnostic?).diagnostic? = diagnostic? := by
  rw [diagnostic?_settle]
  split
  · rename_i hempty
    obtain ⟨diagnostic, rfl⟩ :=
      Option.ne_none_iff_exists'.1 (hfound (List.isEmpty_iff.1 hempty))
    rw [Option.getD_some]
  · rfl

def merge (chain : Chain) (start : Cursor) (first second : Outcome α) : Outcome α :=
  .settle chain start (first.candidates ++ second.candidates)
    (Diagnostic.furthest first.diagnostic? second.diagnostic?)

theorem candidates_merge (chain : Chain) (start : Cursor) (first second : Outcome α) :
    (first.merge chain start second).candidates = first.candidates ++ second.candidates :=
  candidates_settle _ _ _ _

theorem Proper.diagnostic?_merge {first : Outcome α} (hfirst : first.Proper start) (chain : Chain)
    (second : Outcome α) : (first.merge chain start second).diagnostic?
      = Diagnostic.furthest first.diagnostic? second.diagnostic? := by
  apply diagnostic?_settle_of_found
  intro hempty hnone
  exact hfirst.diagnostic?_ne_none (List.append_eq_nil_iff.1 hempty).1
    (Diagnostic.furthest_eq_none_iff.1 hnone).1

/-- Where nothing is left, the token at the start is to blame for want of a diagnostic only, so how
far the diagnostic lies is settled before. -/
theorem agrees_settle (chain : Chain) (start : Cursor) (candidates : List (Candidate α))
    {a b : Option Diagnostic} (hreach : Diagnostic.reach a = Diagnostic.reach b) :
    (settle chain start candidates a).Agrees (settle chain start candidates b) where
  isSuccess_eq := by rw [isSuccess_settle, isSuccess_settle]
  candidates_eq := by rw [candidates_settle, candidates_settle]
  reach_eq := by
    rw [diagnostic?_settle, diagnostic?_settle]
    split
    · match a, b with
      | none, none => rfl
      | some a, some b => exact hreach
      | none, some b => simp at hreach
      | some a, none => simp at hreach
    · exact hreach

end Outcome

/-! ### Answers -/

namespace Answer

abbrev Proper (answer : Answer α) : Prop := ∀ cursor, (answer cursor).Proper cursor

def bind (first : Answer α) (next : α → Answer β) (chain : Chain) : Answer β := fun start =>
  .gather chain start (first start).diagnostic?
    ((first start).candidates.map fun part => next part.value part.stop)

theorem seq_eq_bind (first : Answer α) (second : Answer β) (chain : Chain) :
    first.seq second chain
      = first.bind (fun value cursor => (second cursor).map (Prod.mk value)) chain := by
  funext start
  rw [seq, bind]

def either (first second : Answer α) (chain : Chain) : Answer α := fun start =>
  (first start).merge chain start (second start)

/-- The first of the furthest diagnostics that a first part and the parts behind it met. -/
def met (first : Answer α) (next : α → Answer β) (start : Cursor) : Option Diagnostic :=
  (first start).candidates.foldl
    (fun seen part => Diagnostic.furthest seen (next part.value part.stop).diagnostic?)
    (first start).diagnostic?

variable {first : Answer α} {next : α → Answer β}

theorem candidates_bind (first : Answer α) (next : α → Answer β) (chain : Chain) (start : Cursor) :
    (first.bind next chain start).candidates = (first start).candidates.flatMap fun part =>
      (next part.value part.stop).candidates.map (·.startingAt start) := by
  rw [bind, Outcome.gather, Outcome.candidates_settle, List.flatMap_map]

theorem bind_eq_settle (first : Answer α) (next : α → Answer β) (chain : Chain) (start : Cursor) :
    first.bind next chain start
      = .settle chain start (first.bind next chain start).candidates (first.met next start) := by
  rw [candidates_bind, bind, Outcome.gather, List.flatMap_map, List.foldl_map]
  rfl

theorem diagnostic?_bind (hfirst : first.Proper) (hnext : ∀ value, (next value).Proper)
    (chain : Chain) (start : Cursor) :
    (first.bind next chain start).diagnostic? = first.met next start := by
  rw [bind_eq_settle]
  apply Outcome.diagnostic?_settle_of_found
  intro hempty
  rw [candidates_bind] at hempty
  rcases hparts : (first start).candidates with _ | ⟨part, parts⟩
  · -- the first part has failed
    exact Diagnostic.foldl_furthest_ne_none _ ((hfirst start).diagnostic?_ne_none hparts)
  · -- what is behind the first candidate has failed
    have hmem : part ∈ (first start).candidates := hparts ▸ List.mem_cons_self
    have hnone := List.map_eq_nil_iff.1 (List.flatMap_eq_nil_iff.1 hempty part hmem)
    exact Diagnostic.foldl_furthest_ne_none_of_mem _ hmem
      ((hnext part.value part.stop).diagnostic?_ne_none hnone) _

theorem reach_met_le_iff {start : Cursor} {bound : WithBot ℕ∞} :
    Diagnostic.reach (first.met next start) ≤ bound ↔
      Diagnostic.reach (first start).diagnostic? ≤ bound ∧
        ∀ part ∈ (first start).candidates,
          Diagnostic.reach (next part.value part.stop).diagnostic? ≤ bound :=
  Diagnostic.reach_foldl_le_iff _

end Answer

/-! ### Parsers -/

namespace Parser

section Answers

variable {m : Type → Type} [Monad m] {observation : Observation m} {chain : Chain}

theorem yields_either_answer {p q : Parser m α} {first second : Answer α}
    (hp : ∀ start, observation.Yields (p chain start) fun _ outcome => outcome = first start)
    (hq : ∀ start, observation.Yields (q chain start) fun _ outcome => outcome = second start)
    (start : Cursor) : observation.Yields (p.either q chain start) fun _ outcome =>
      outcome = first.either second chain start := by
  apply observation.yields_either (hp start) (hq start)
  rintro _ _ _ _ rfl rfl
  rfl

variable [LawfulMonad m]

theorem yields_bind_answer {p : Parser m α} {next : α → Parser m β} {first : Answer α}
    {later : α → Answer β}
    (hp : ∀ start, observation.Yields (p chain start) fun _ outcome => outcome = first start)
    (hnext : ∀ value start, observation.Yields (next value chain start) fun _ outcome =>
      outcome = later value start) (start : Cursor) :
    observation.Yields (p.bind next chain start) fun _ outcome =>
      outcome = first.bind later chain start := by
  apply observation.yields_bind (hp start) hnext
  rintro _ _ _ parts rfl hparts
  rw [Answer.bind, hparts.eq_map]
  rintro part _ _ rfl
  rfl

end Answers

variable {p : Parser Run α} {chain : Chain} {holds : Workspace → Prop}

/-- That whatever a parser yields begins at the cursor. -/
abbrev Proper (chain : Chain) (p : Parser Run α) : Prop := p.Reports chain fun _ => True

/-- That a parser is a function of the cursor, as long as the workspace holds. -/
def Reads (chain : Chain) (holds : Workspace → Prop) (p : Parser Run α) : Prop :=
  ∃ answer, p.ReadsAs chain holds answer

theorem Proper.yields (hp : p.Proper chain) (start : Cursor) :
    Run.results.Yields (p chain start) fun _ outcome => outcome.Proper start :=
  fun before outcome after hrun => ⟨[], hp start before outcome after hrun⟩

/-- Where the parser never yields anything, its answer does not matter. -/
theorem Reads.exists_answer (hreads : p.Reads chain holds) (hproper : p.Proper chain) :
    ∃ answer, p.ReadsAs chain holds answer ∧ answer.Proper := by
  classical
  obtain ⟨answer, hp⟩ := hreads
  refine ⟨fun cursor => if (answer cursor).Proper cursor then answer cursor
    else .failure (.unconsumed chain cursor), ⟨?_, hp.forward⟩, ?_⟩
  · intro cursor before outcome after hbefore hrun
    obtain ⟨rfl, hafter⟩ := hp.eq_answer hbefore hrun
    rw [if_pos (hproper cursor before _ after hrun)]
    exact ⟨rfl, hafter⟩
  · intro cursor
    dsimp only
    split
    · assumption
    · exact ⟨nofun, nofun, fun _ _ => trivial⟩

theorem ReadsAs.yields {answer : Answer α} (hp : p.ReadsAs chain holds answer)
    {admissible : Fault → Workspace → Prop}
    (hmeets : ∀ fault after, p.Meets chain holds fault after → admissible fault after)
    (start : Cursor) :
    (Run.landing holds admissible).Yields (p chain start) fun _ outcome =>
      outcome = answer start :=
  (Run.landing holds admissible).weaken (hp.answered hmeets start) fun _ _ houtcome => houtcome.1

end Parser

def Run.YieldAlike (admissible : Fault → Workspace → Prop) (related : Outcome α → Outcome α → Prop)
    (left right : Run (Outcome α)) (before : Workspace) : Prop :=
  ∃ first second : Outcome α,
    Lands left before (fun outcome _ => outcome = first) admissible ∧
    Lands right before (fun outcome _ => outcome = second) admissible ∧ related first second

theorem Run.yieldAlike_of_yields {holds : Workspace → Prop}
    {admissible : Fault → Workspace → Prop} {related : Outcome α → Outcome α → Prop}
    {left right : Run (Outcome α)} {first second : Outcome α} {before : Workspace}
    (hleft : (Run.landing holds admissible).Yields left fun _ outcome => outcome = first)
    (hright : (Run.landing holds admissible).Yields right fun _ outcome => outcome = second)
    (hbefore : holds before) (hrelated : related first second) :
    Run.YieldAlike admissible related left right before := by
  refine ⟨first, second, ?_, ?_, hrelated⟩
  · exact (hleft before hbefore).imp (fun _ _ h => h.2.choose_spec) fun _ _ h => h
  · exact (hright before hbefore).imp (fun _ _ h => h.2.choose_spec) fun _ _ h => h

/-! ### Grammars -/

theorem Grammar.proper_parseWithin (root : Grammar) (depth : Nat) (held : List Grammar)
    (chain : Chain) : (root.parseWithin depth held).Proper chain := by
  intro start before outcome after hrun
  constructor
  case nonempty =>
    intro hsuccess hnone
    obtain ⟨diagnostic, rfl⟩ := (candidates_eq_nil_iff hrun).1 hnone
    cases hsuccess
  case starts =>
    intro candidate hcandidate
    exact (reaches_of_parseWithin hrun candidate hcandidate).1
  case reports => exact fun _ _ => trivial

/-- What a steady grammar comprises is a function of the cursor besides, on the way from the
workspace in which the grammar is parsed. -/
theorem Grammar.reads_of_steady {workspace : Workspace} {root : Grammar}
    (hsteady : workspace.Steady root) (chain : Chain) :
    ∃ holds : Workspace → Prop, holds workspace ∧
      ∀ {part : Grammar}, workspace.Comprises root none part → ∀ depth held,
        (part.parseWithin depth held).Proper chain ∧
        (part.parseWithin depth held).Reads chain holds := by
  obtain ⟨holds, hholds, hanswers⟩ := readsAs_of_steady hsteady chain
  refine ⟨holds, hholds, fun hpart depth held => ⟨proper_parseWithin _ depth held chain, ?_⟩⟩
  obtain ⟨answer, hreads, _⟩ := hanswers hpart depth held
  exact ⟨answer, hreads⟩

end TokenGrammar
