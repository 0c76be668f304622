import TokenGrammar.Proofs.Combinators
import TokenGrammar.Proofs.Induction
import TokenGrammar.Proofs.Merging

/-!
# What every combinator keeps

Whatever the values are, a combinator does three things with the outcomes of its parts: it joins
readings end to end, it keeps the furthest of the diagnostics, and it does not turn failures of all
its parts into a success without candidates. A ledger says which stretches a reading may go over and
which diagnostic accounts for the leaves that failed. If both are closed under joining, then every
parse keeps the ledger (`Ledger.carried`); operators that put a message of their own in place of a
diagnostic ask in addition that the new diagnostic accounts for as much as the old one.
-/

namespace TokenGrammar

/-- Whether an operator puts a message of its own in place of a diagnostic. -/
def UnaryOperator.relabels : UnaryOperator → Bool
  | .relabelled _ | .recovered _ _ => true
  | _ => false

/-! ### Groups and steps -/

variable {α : Type}

theorem exists_of_mem_addToGroup {candidate : Candidate α} {groups : List (Candidate (List α))}
    {image : Candidate (List α)} (himage : image ∈ addToGroup candidate groups) :
    (image.start = candidate.start ∧ image.stop = candidate.stop) ∨
      ∃ group ∈ groups, image.start = group.start ∧ image.stop = group.stop := by
  induction groups with
  | nil =>
      rw [List.mem_singleton.1 himage]
      exact .inl ⟨rfl, rfl⟩
  | cons group groups ih =>
      rw [addToGroup] at himage
      split at himage
      · rcases List.mem_cons.1 himage with rfl | hothers
        · exact .inr ⟨group, List.mem_cons_self, rfl, rfl⟩
        · exact .inr ⟨image, List.mem_cons_of_mem _ hothers, rfl, rfl⟩
      · rcases List.mem_cons.1 himage with rfl | hothers
        · exact .inr ⟨image, List.mem_cons_self, rfl, rfl⟩
        · refine (ih hothers).imp_right fun ⟨group', hgroup', hspan⟩ => ?_
          exact ⟨group', List.mem_cons_of_mem _ hgroup', hspan⟩

theorem exists_of_mem_foldl_addToGroup {candidates : List (Candidate α)}
    {groups : List (Candidate (List α))} {image : Candidate (List α)}
    (himage : image ∈
      candidates.foldl (fun groups candidate => addToGroup candidate groups) groups) :
    (∃ candidate ∈ candidates, image.start = candidate.start ∧ image.stop = candidate.stop) ∨
      ∃ group ∈ groups, image.start = group.start ∧ image.stop = group.stop := by
  induction candidates generalizing groups with
  | nil => exact .inr ⟨image, himage, rfl, rfl⟩
  | cons candidate candidates ih =>
      rcases ih himage with ⟨candidate', hcandidate', hspan⟩ | ⟨group, hgroup, hstart, hstop⟩
      · exact .inl ⟨candidate', List.mem_cons_of_mem _ hcandidate', hspan⟩
      · rcases exists_of_mem_addToGroup hgroup with ⟨hstart', hstop'⟩ | ⟨group', hgroup', hspan⟩
        · exact .inl ⟨candidate, List.mem_cons_self, hstart.trans hstart', hstop.trans hstop'⟩
        · exact .inr ⟨group', hgroup', hstart.trans hspan.1, hstop.trans hspan.2⟩

theorem exists_of_mem_groupByStop {candidates : List (Candidate α)} {image : Candidate (List α)}
    (himage : image ∈ groupByStop candidates) :
    ∃ candidate ∈ candidates, image.start = candidate.start ∧ image.stop = candidate.stop := by
  obtain ⟨group, hgroup, rfl⟩ := List.mem_map.1 himage
  exact (exists_of_mem_foldl_addToGroup hgroup).resolve_right fun ⟨_, hnone, _⟩ => nomatch hnone

theorem addToGroup_ne_nil (candidate : Candidate α) (groups : List (Candidate (List α))) :
    addToGroup candidate groups ≠ [] := by
  cases groups with
  | nil => exact List.cons_ne_nil _ _
  | cons group groups =>
      rw [addToGroup]
      split <;> exact List.cons_ne_nil _ _

theorem groupByStop_ne_nil {candidates : List (Candidate α)} (hnonempty : candidates ≠ []) :
    groupByStop candidates ≠ [] := by
  have hgroups : ∀ (candidates : List (Candidate α)) (groups : List (Candidate (List α))),
      groups ≠ [] →
        candidates.foldl (fun groups candidate => addToGroup candidate groups) groups ≠ [] := by
    intro candidates
    induction candidates with
    | nil => exact fun groups hne => hne
    | cons candidate candidates ih =>
        exact fun groups _ => ih _ (addToGroup_ne_nil candidate groups)
  cases candidates with
  | nil => exact absurd rfl hnonempty
  | cons candidate candidates =>
      intro hempty
      exact hgroups candidates _ (addToGroup_ne_nil candidate []) (List.map_eq_nil_iff.1 hempty)

theorem Steps.mem_all_of_mem_advancing {steps : Steps α} {run : Candidate (List α)}
    (hrun : run ∈ steps.advancing) : run ∈ steps.all := by
  obtain ⟨step, hstep, hrun⟩ := List.mem_flatMap.1 hrun
  obtain ⟨candidate, hcandidate, rfl⟩ := List.mem_map.1 hrun
  refine List.mem_flatMap.2 ⟨step, hstep, List.mem_map.2 ⟨candidate, ?_, rfl⟩⟩
  exact (List.mem_filter.1 hcandidate).1

/-- An account of readings and diagnostics that is closed under joining them. -/
structure Ledger (chain : Chain) where
  /-- Whether a reading may go from one cursor to another. -/
  Passes : Cursor → Cursor → Prop
  /-- Whether a diagnostic accounts for the leaves that failed in a reading from a cursor. -/
  Accounts : Cursor → List Diagnostic → Option Diagnostic → Prop
  here : ∀ cursor, Passes cursor cursor
  token : ∀ cursor, cursor < chain.size → Passes cursor (cursor + 1)
  onward : ∀ {start between stop}, Passes start between → Passes between stop → Passes start stop
  clear : ∀ start, Accounts start [] none
  join : ∀ {start stop misses later seen next}, Accounts start misses seen → Passes start stop →
    Accounts stop later next → Accounts start (misses ++ later) (Diagnostic.furthest seen next)

namespace Ledger

variable {chain : Chain} (ledger : Ledger chain) {β : Type} {start : Cursor}

/-- A reading from a cursor over a stretch that the ledger allows. -/
def Reads (start : Cursor) (candidate : Candidate α) : Prop :=
  candidate.start = start ∧ ledger.Passes start candidate.stop

/-- An outcome of reading from a cursor, while some leaves failed, keeps the ledger if a success has
candidates, all of them are readings from there, and the diagnostic accounts for the failures. -/
structure Keeps (start : Cursor) (misses : List Diagnostic) (outcome : Outcome α) : Prop where
  nonempty : outcome.isSuccess → outcome.candidates ≠ []
  reads : ∀ candidate ∈ outcome.candidates, ledger.Reads start candidate
  accounts : ledger.Accounts start misses outcome.diagnostic?

def Relabels : Prop :=
  ∀ {start misses diagnostic} (message : String), ledger.Accounts start misses (some diagnostic) →
    ledger.Accounts start misses (some (diagnostic.relabelled message))

variable {ledger} {misses later : List Diagnostic}

theorem Reads.still (value : α) : ledger.Reads start (.still start value) :=
  ⟨rfl, ledger.here start⟩

theorem Reads.startingAt {first : Candidate α} {second : Candidate β}
    (hfirst : ledger.Reads start first) (hsecond : ledger.Reads first.stop second) :
    ledger.Reads start (second.startingAt start) :=
  ⟨rfl, ledger.onward hfirst.2 hsecond.2⟩

theorem Reads.extend {run : Candidate (List α)} {step : Candidate α}
    (hrun : ledger.Reads start run) (hstep : ledger.Reads run.stop step) :
    ledger.Reads start (run.extend step) :=
  ⟨hrun.1, ledger.onward hrun.2 hstep.2⟩

theorem Keeps.diagnostic_ne_none {outcome : Outcome α} (h : ledger.Keeps start misses outcome)
    (hempty : outcome.candidates = []) : outcome.diagnostic? ≠ none := by
  cases outcome with
  | success candidates carried? => exact absurd hempty (h.nonempty rfl)
  | failure diagnostic => exact Option.some_ne_none diagnostic

/-! ### Changing and choosing candidates -/

theorem Keeps.success {candidates : List (Candidate α)} {seen : Option Diagnostic}
    (hnonempty : candidates ≠ []) (hreads : ∀ candidate ∈ candidates, ledger.Reads start candidate)
    (haccounts : ledger.Accounts start misses seen) :
    ledger.Keeps start misses (.success candidates seen) :=
  ⟨fun _ => hnonempty, hreads, haccounts⟩

theorem Keeps.mapCandidates {outcome : Outcome α} (h : ledger.Keeps start misses outcome)
    {f : List (Candidate α) → List (Candidate β)}
    (hnonempty : ∀ candidates, candidates ≠ [] → f candidates ≠ [])
    (hspan : ∀ candidates, ∀ image ∈ f candidates, ∃ candidate ∈ candidates,
      image.start = candidate.start ∧ image.stop = candidate.stop) :
    ledger.Keeps start misses (outcome.mapCandidates f) := by
  cases outcome with
  | failure diagnostic => exact ⟨(nomatch ·), fun _ himage => (nomatch himage), h.accounts⟩
  | success candidates carried? =>
      refine .success (hnonempty _ (h.nonempty rfl)) (fun image himage => ?_) h.accounts
      obtain ⟨candidate, hcandidate, hstart, hstop⟩ := hspan candidates image himage
      obtain ⟨hreads, hpasses⟩ := h.reads candidate hcandidate
      exact ⟨hstart.trans hreads, hstop ▸ hpasses⟩

theorem Keeps.map {outcome : Outcome α} (h : ledger.Keeps start misses outcome) (f : α → β) :
    ledger.Keeps start misses (outcome.map f) := by
  refine h.mapCandidates (fun candidates hnonempty => by simpa using hnonempty) ?_
  intro candidates image himage
  obtain ⟨candidate, hcandidate, rfl⟩ := List.mem_map.1 himage
  exact ⟨candidate, hcandidate, rfl, rfl⟩

/-- The token at the start is never blamed for want of a diagnostic. -/
theorem Keeps.settle {candidates : List (Candidate α)} {seen : Option Diagnostic}
    (hreads : ∀ candidate ∈ candidates, ledger.Reads start candidate)
    (haccounts : ledger.Accounts start misses seen) (hblame : candidates = [] → seen ≠ none) :
    ledger.Keeps start misses (.settle chain start candidates seen) := by
  cases candidates with
  | cons candidate candidates => exact .success (List.cons_ne_nil _ _) hreads haccounts
  | nil =>
      obtain ⟨diagnostic, rfl⟩ := Option.ne_none_iff_exists'.1 (hblame rfl)
      exact ⟨(nomatch ·), hreads, haccounts⟩

theorem Keeps.either {first second : Outcome α} (hfirst : ledger.Keeps start misses first)
    (hsecond : ledger.Keeps start later second) :
    ledger.Keeps start (misses ++ later)
      (.settle chain start (first.candidates ++ second.candidates)
        (Diagnostic.furthest first.diagnostic? second.diagnostic?)) := by
  refine .settle (fun candidate hcandidate => ?_)
    (ledger.join hfirst.accounts (ledger.here start) hsecond.accounts) fun hempty => ?_
  · exact (List.mem_append.1 hcandidate).elim (hfirst.reads _) (hsecond.reads _)
  · have hblame := hfirst.diagnostic_ne_none (List.append_eq_nil_iff.1 hempty).1
    exact fun hnone => hblame (Diagnostic.furthest_eq_none_iff.1 hnone).1

/-! ### Joining parts -/

theorem accounts_foldl {cursor : α → Cursor} {outcome : β → Option Diagnostic} {as : List α}
    {bs : List β} (hpasses : ∀ a ∈ as, ledger.Passes start (cursor a))
    (hparts : Collected (fun a misses b => ledger.Accounts (cursor a) misses (outcome b))
      as later bs) :
    ∀ {misses seen}, ledger.Accounts start misses seen → ledger.Accounts start (misses ++ later)
      (bs.foldl (fun seen b => Diagnostic.furthest seen (outcome b)) seen) := by
  induction hparts with
  | nil =>
      intro misses seen haccounts
      rwa [List.append_nil]
  | cons hpart _ ih =>
      intro misses seen haccounts
      rw [← List.append_assoc]
      refine ih (fun a ha => hpasses a (List.mem_cons_of_mem _ ha)) ?_
      exact ledger.join haccounts (hpasses _ List.mem_cons_self) hpart

theorem Keeps.gather {firsts : Outcome α} {parts : List (Outcome β)}
    (hfirsts : ledger.Keeps start misses firsts)
    (hparts : Collected (fun first misses part => ledger.Keeps first.stop misses part)
      firsts.candidates later parts) :
    ledger.Keeps start (misses ++ later) (.gather chain start firsts.diagnostic? parts) := by
  refine .settle (fun candidate hcandidate => ?_) ?_ fun hempty => ?_
  · obtain ⟨part, hpartmem, hcandidate⟩ := List.mem_flatMap.1 hcandidate
    obtain ⟨second, hsecond, rfl⟩ := List.mem_map.1 hcandidate
    obtain ⟨first, hfirst, _, hkeeps⟩ := hparts.exists_of_mem_right hpartmem
    exact (hfirsts.reads first hfirst).startingAt (hkeeps.reads second hsecond)
  · refine accounts_foldl (fun first hfirst => (hfirsts.reads first hfirst).2) ?_ hfirsts.accounts
    exact hparts.imp fun _ _ _ h => h.accounts
  · cases hfirst : firsts.candidates with
    | nil => exact Diagnostic.foldl_furthest_ne_none _ (hfirsts.diagnostic_ne_none hfirst)
    | cons first others =>
        obtain ⟨_, part, hpart, hkeeps⟩ := hparts.exists_of_mem_left (hfirst ▸ List.mem_cons_self)
        refine Diagnostic.foldl_furthest_ne_none_of_mem _ hpart (hkeeps.diagnostic_ne_none ?_) _
        exact List.map_eq_nil_iff.1 (List.flatMap_eq_nil_iff.1 hempty part hpart)

/-! ### Levels of repetitions -/

/-- A level of runs from a cursor, with the diagnostic so far. -/
structure Level (ledger : Ledger chain) (start : Cursor) (runs : List (Candidate (List α)))
    (seen : Option Diagnostic) (misses : List Diagnostic) : Prop where
  reads : ∀ run ∈ runs, ledger.Reads start run
  accounts : ledger.Accounts start misses seen

theorem Level.first (start : Cursor) :
    ledger.Level start [(.still start [] : Candidate (List α))] none [] :=
  ⟨fun _ hrun => List.mem_singleton.1 hrun ▸ .still [], ledger.clear start⟩

theorem Level.all {runs : List (Candidate (List α))} {seen : Option Diagnostic} {steps : Steps α}
    (h : ledger.Level start runs seen misses)
    (hsteps : Collected (Observation.StepOf ledger.Keeps) runs later steps) :
    ledger.Level start steps.all (steps.diagnosticAfter seen) (misses ++ later) := by
  constructor
  · intro run hrun
    obtain ⟨step, hstep, hrun⟩ := List.mem_flatMap.1 hrun
    obtain ⟨candidate, hcandidate, rfl⟩ := List.mem_map.1 hrun
    obtain ⟨run, hrun, _, hfirst, hkeeps⟩ := hsteps.exists_of_mem_right hstep
    rw [hfirst]
    exact (h.reads run hrun).extend (hkeeps.reads candidate hcandidate)
  · refine accounts_foldl (fun run hrun => (h.reads run hrun).2) ?_ h.accounts
    exact hsteps.imp fun _ _ _ hstep => hstep.2.accounts

theorem Level.advancing {runs : List (Candidate (List α))} {seen : Option Diagnostic}
    {steps : Steps α} (h : ledger.Level start runs seen misses)
    (hsteps : Collected (Observation.StepOf ledger.Keeps) runs later steps) :
    ledger.Level start steps.advancing (steps.diagnosticAfter seen) (misses ++ later) :=
  ⟨fun run hrun => (h.all hsteps).reads run (Steps.mem_all_of_mem_advancing hrun),
    (h.all hsteps).accounts⟩

/-- Where a level has no next one, some step found a diagnostic. -/
theorem Level.diagnosticAfter_ne_none {runs : List (Candidate (List α))} {seen : Option Diagnostic}
    {steps : Steps α} (hsteps : Collected (Observation.StepOf ledger.Keeps) runs later steps)
    (hruns : runs ≠ []) (hempty : steps.all = []) : steps.diagnosticAfter seen ≠ none := by
  obtain ⟨run, hrun⟩ := List.exists_mem_of_ne_nil runs hruns
  obtain ⟨_, step, hstep, _, hkeeps⟩ := hsteps.exists_of_mem_left hrun
  apply Diagnostic.foldl_furthest_ne_none_of_mem (·.2.diagnostic?) hstep
  apply hkeeps.diagnostic_ne_none
  exact List.map_eq_nil_iff.1 (List.flatMap_eq_nil_iff.1 hempty step hstep)

theorem Level.success {runs : List (Candidate (List α))} {seen : Option Diagnostic}
    (h : ledger.Level start runs seen misses) (hruns : runs ≠ []) :
    ledger.Keeps start misses (.success (runs.map (·.inOrder)) seen) := by
  refine .success (by simpa using hruns) (fun candidate hcandidate => ?_) h.accounts
  obtain ⟨run, hrun, rfl⟩ := List.mem_map.1 hcandidate
  exact h.reads run hrun

/-! ### The combinators -/

section Combinators

variable {m : Type → Type} [Monad m] {observation : Observation m} {p : Parser m α}
  {q : Parser m β}

def KeptBy (ledger : Ledger chain) (observation : Observation m) (p : Parser m α) : Prop :=
  ∀ start, observation.Yields (p chain start) (ledger.Keeps start)

theorem KeptBy.succeed (value : α) : ledger.KeptBy observation (Parser.succeed value) := by
  intro start
  refine observation.pure (.success (List.cons_ne_nil _ _) ?_ (ledger.clear start))
  exact fun candidate hcandidate => List.mem_singleton.1 hcandidate ▸ .still value

theorem KeptBy.map (hp : ledger.KeptBy observation p) (f : α → β) :
    ledger.KeptBy observation (p.map f) :=
  fun start => observation.yields_map (hp start) fun _ _ hkeeps => hkeeps.map f

theorem KeptBy.mapCandidate (hp : ledger.KeptBy observation p) (f : Chain → Candidate α → β) :
    ledger.KeptBy observation (p.mapCandidate f) := by
  refine fun start => observation.yields_mapCandidate (hp start) fun _ _ hkeeps => ?_
  refine hkeeps.mapCandidates (fun candidates hnonempty => by simpa using hnonempty) ?_
  intro candidates image himage
  obtain ⟨candidate, hcandidate, rfl⟩ := List.mem_map.1 himage
  exact ⟨candidate, hcandidate, rfl, rfl⟩

theorem KeptBy.either {q : Parser m α} (hp : ledger.KeptBy observation p)
    (hq : ledger.KeptBy observation q) : ledger.KeptBy observation (p.either q) :=
  fun start => observation.yields_either (hp start) (hq start)
    fun _ _ _ _ hfirst hsecond => hfirst.either hsecond

theorem KeptBy.orElse {q : Parser m α} (hp : ledger.KeptBy observation p)
    (hq : ledger.KeptBy observation q) : ledger.KeptBy observation (p.orElse q) := by
  refine fun start => observation.yields_orElse (hp start) (hq start) ?_ ?_ ?_
  · exact fun misses candidates carried? hkeeps => hkeeps
  · intro misses diagnostic later candidates carried? hfirst hsecond
    exact ⟨hsecond.nonempty, hsecond.reads,
      ledger.join hfirst.accounts (ledger.here start) hsecond.accounts⟩
  · intro misses diagnostic later diagnostic' hfirst hsecond
    exact ⟨hsecond.nonempty, hsecond.reads,
      ledger.join hfirst.accounts (ledger.here start) hsecond.accounts⟩

theorem KeptBy.optional (hp : ledger.KeptBy observation p) :
    ledger.KeptBy observation p.optional := by
  refine fun start => observation.yields_optional (hp start) fun misses outcome hkeeps => ?_
  refine .success (by simp) (fun candidate hcandidate => ?_) hkeeps.accounts
  rcases List.mem_append.1 hcandidate with hpresent | habsent
  · obtain ⟨present, hmem, rfl⟩ := List.mem_map.1 hpresent
    exact hkeeps.reads present hmem
  · exact List.mem_singleton.1 habsent ▸ .still none

theorem KeptBy.optionalGreedy (hp : ledger.KeptBy observation p) :
    ledger.KeptBy observation p.optionalGreedy := by
  refine fun start => observation.yields_optionalGreedy (hp start) ?_ ?_
  · exact fun misses candidates carried? hkeeps => hkeeps.map some
  · intro misses diagnostic hkeeps
    refine .success (List.cons_ne_nil _ _) (fun candidate hcandidate => ?_) hkeeps.accounts
    exact List.mem_singleton.1 hcandidate ▸ .still none

theorem KeptBy.relabel (hp : ledger.KeptBy observation p) (hrelabels : ledger.Relabels)
    (message : String) : ledger.KeptBy observation (p.relabel message) := by
  refine fun start => observation.yields_relabel (hp start) ?_ ?_
  · exact fun misses candidates carried? hkeeps => hkeeps
  · exact fun misses diagnostic hkeeps =>
      ⟨hkeeps.nonempty, hkeeps.reads, hrelabels message hkeeps.accounts⟩

theorem KeptBy.recover (hp : ledger.KeptBy observation p) (hrelabels : ledger.Relabels)
    (message : String) (value : α) : ledger.KeptBy observation (p.recover message value) := by
  refine fun start => observation.yields_recover (hp start) ?_ ?_
  · exact fun misses candidates carried? hkeeps => hkeeps
  · intro misses diagnostic hkeeps
    refine .success (List.cons_ne_nil _ _) (fun candidate hcandidate => ?_)
      (hrelabels message hkeeps.accounts)
    exact List.mem_singleton.1 hcandidate ▸ .still value

theorem KeptBy.grouped (hp : ledger.KeptBy observation p) :
    ledger.KeptBy observation p.grouped := by
  refine fun start => observation.yields_grouped (hp start) fun _ _ hkeeps => ?_
  exact hkeeps.mapCandidates (fun _ => groupByStop_ne_nil) fun _ _ => exists_of_mem_groupByStop

variable [LawfulMonad m]

theorem KeptBy.bind {next : α → Parser m β} (hp : ledger.KeptBy observation p)
    (hnext : ∀ value, ledger.KeptBy observation (next value)) :
    ledger.KeptBy observation (p.bind next) :=
  fun start => observation.yields_bind (hp start) hnext
    fun _ _ _ _ hfirsts hparts => hfirsts.gather hparts

theorem KeptBy.seq (hp : ledger.KeptBy observation p) (hq : ledger.KeptBy observation q) :
    ledger.KeptBy observation (p.seq q) := by
  refine fun start => observation.yields_seq (hp start) hq fun _ _ _ _ hfirsts hparts => ?_
  refine hfirsts.gather (hparts.imp fun first misses part hpart => ?_)
  obtain ⟨seconds, hkeeps, rfl⟩ := hpart
  exact hkeeps.map _

/-- The run without steps is never lost. -/
theorem KeptBy.manyShortestFirst (hp : ledger.KeptBy observation p) :
    ledger.KeptBy observation p.manyShortestFirst := by
  intro start
  refine observation.map (observation.yields_explore hp (fun _ level explored seen misses =>
    (∀ run ∈ explored, ledger.Reads start run) ∧ ledger.Level start level seen misses ∧
      level.reverse ++ explored ≠ []) ?_ _ 0 [] ⟨by simp, .first start, by simp⟩) ?_
  · rintro count level explored seen misses later steps ⟨hexplored, hlevel, hnonempty⟩ hsteps
    refine ⟨fun run hrun => ?_, hlevel.advancing hsteps,
      fun hempty => hnonempty (List.append_eq_nil_iff.1 hempty).2⟩
    rcases List.mem_append.1 hrun with hrun | hrun
    · exact hlevel.reads run (List.mem_reverse.1 hrun)
    · exact hexplored run hrun
  · rintro misses ⟨runs, seen⟩ ⟨_, level, explored, ⟨hexplored, hlevel, hnonempty⟩, hruns, _⟩
    refine Level.success ⟨fun run hrun => ?_, hlevel.accounts⟩ ?_
    · rw [List.mem_reverse, hruns] at hrun
      rcases List.mem_append.1 hrun with hrun | hrun
      · exact hlevel.reads run (List.mem_reverse.1 hrun)
      · exact hexplored run hrun
    · rwa [hruns, ne_eq, List.reverse_eq_nil_iff]

theorem KeptBy.manyLongestFirst (hp : ledger.KeptBy observation p) :
    ledger.KeptBy observation p.manyLongestFirst := by
  refine fun start => observation.map (hp.manyShortestFirst start) fun misses outcome hkeeps => ?_
  refine hkeeps.mapCandidates (fun candidates hnonempty => by simpa using hnonempty) ?_
  exact fun candidates image himage => ⟨image, List.mem_reverse.1 himage, rfl, rfl⟩

/-- A level without a next one is kept, and it is not empty. -/
theorem KeptBy.manyGreedy (hp : ledger.KeptBy observation p) :
    ledger.KeptBy observation p.manyGreedy := by
  intro start
  refine observation.map (observation.yields_climb hp (fun level seen misses =>
    ledger.Level start level seen misses ∧ level ≠ []) ?_ ?_ _ [] ⟨.first start, by simp⟩) ?_
  · rintro level seen misses later steps ⟨hlevel, _⟩ hsteps hmore
    exact ⟨hlevel.advancing hsteps, hmore⟩
  · rintro level seen misses later steps ⟨hlevel, hnonempty⟩ hsteps _
    exact ⟨⟨hlevel.reads, (hlevel.advancing hsteps).accounts⟩, hnonempty⟩
  · rintro misses ⟨runs, seen⟩ ⟨hlevel, hnonempty⟩
    exact hlevel.success hnonempty

theorem KeptBy.exactly (hp : ledger.KeptBy observation p) (count : Nat) :
    ledger.KeptBy observation (Parser.exactly count p) := by
  intro start
  refine observation.yields_exactlyFrom hp (fun _ level seen misses =>
    ledger.Level start level seen misses ∧ level ≠ []) (ledger.Keeps start) ?_ ?_ ?_ count []
    ⟨.first start, by simp⟩
  · rintro count level seen misses later steps ⟨hlevel, _⟩ hsteps hmore
    exact ⟨hlevel.all hsteps, hmore⟩
  · rintro count level seen misses later steps ⟨hlevel, hnonempty⟩ hsteps hempty
    exact .settle (by simp) (hlevel.all hsteps).accounts
      fun _ => Level.diagnosticAfter_ne_none hsteps hnonempty hempty
  · rintro level seen misses ⟨hlevel, hnonempty⟩
    exact hlevel.success hnonempty

theorem KeptBy.separatedExactly (hp : ledger.KeptBy observation p)
    (hq : ledger.KeptBy observation q) (count : Nat) :
    ledger.KeptBy observation (Parser.separatedExactly count p q) := by
  match count with
  | 0 => exact .succeed []
  | 1 => exact hp.map _
  | count + 2 => exact (hp.seq (((hq.seq hp).map Prod.snd).exactly (count + 1))).map _

end Combinators

/-! ### Operators and parses -/

section Operators

variable {m : Type → Type} [Monad m] [LawfulMonad m] {observation : Observation m}
  {p q : Parser m Value}

theorem KeptBy.unary (hp : ledger.KeptBy observation p) (operator : UnaryOperator)
    (hrelabels : operator.relabels → ledger.Relabels) :
    ledger.KeptBy observation (operator.parser p) := by
  cases operator with
  | mapped transform => exact hp.map _
  | spanned view => exact hp.mapCandidate _
  | optional => exact hp.optional.map _
  | optionalGreedy => exact hp.optionalGreedy.map _
  | manyShortestFirst => exact hp.manyShortestFirst.map _
  | manyLongestFirst => exact hp.manyLongestFirst.map _
  | manyGreedy => exact hp.manyGreedy.map _
  | exactly count => exact (hp.exactly count).map _
  | grouped => exact hp.grouped.map _
  | relabelled message => exact hp.relabel (hrelabels rfl) message
  | recovered message value => exact hp.recover (hrelabels rfl) message value

theorem KeptBy.binary (hp : ledger.KeptBy observation p) (hq : ledger.KeptBy observation q)
    (operator : BinaryOperator) : ledger.KeptBy observation (operator.parser p q) := by
  cases operator with
  | seq => exact (hp.seq hq).map _
  | seqLeft => exact (hp.seq hq).map _
  | seqRight => exact (hp.seq hq).map _
  | either => exact hp.either hq
  | orElse => exact hp.orElse hq
  | separated => exact ((hp.seq ((hq.seq hp).map _).manyLongestFirst).map _).map _
  | separatedGreedy => exact ((hp.seq ((hq.seq hp).map _).manyGreedy).map _).map _
  | separatedExactly count => exact (hp.separatedExactly hq count).map _
  | folded fold => exact (hp.seq hq.manyLongestFirst).map _
  | foldedGreedy fold => exact (hp.seq hq.manyGreedy).map _

end Operators

theorem Keeps.leaf {matcher : Leaf} {outcome : Outcome Value}
    (hreads : Leaf.Reads chain start matcher outcome)
    (hmissed : ∀ diagnostic, Leaf.Blames chain start matcher diagnostic →
      ledger.Accounts start [diagnostic] (some diagnostic)) :
    ledger.Keeps start outcome.missed outcome := by
  cases hreads with
  | matched hmatch =>
      refine .success (List.cons_ne_nil _ _) (fun candidate hcandidate => ?_) (ledger.clear start)
      rw [List.mem_singleton.1 hcandidate]
      refine ⟨rfl, ?_⟩
      rcases hmatch.stop_cases with rfl | ⟨hlt, rfl⟩
      · exact ledger.here _
      · exact ledger.token start hlt
  | missed _ hblames =>
      exact ⟨(nomatch ·), fun _ hcandidate => (nomatch hcandidate), hmissed _ hblames⟩

/-- **Every parse keeps a ledger** that accounts for each leaf that fails with its own
diagnostic. -/
theorem carried {workspace : Workspace} {root : Grammar}
    (hleaf : ∀ {home? matcher start diagnostic}, workspace.Comprises root home? (.leaf matcher) →
      Leaf.Blames chain start matcher diagnostic →
      ledger.Accounts start [diagnostic] (some diagnostic))
    (hrelabels : ∀ {home? operator part}, workspace.Comprises root home? (.unary operator part) →
      operator.relabels → ledger.Relabels) :
    Carried workspace root chain fun _ _ start misses outcome =>
      ledger.Keeps start misses outcome where
  leaf start hcomprises := .leaf (Leaf.reads_outcome _ chain start) fun _ => hleaf hcomprises
  unary _ _ _ _ _ hcomprises hp := KeptBy.unary hp _ (hrelabels hcomprises)
  binary _ _ _ _ _ _ _ _ hp hq := KeptBy.binary hp hq _
  bind _ _ _ _ _ _ _ hp hq := KeptBy.bind hp hq
  stands _ _ hkeeps := hkeeps

end Ledger

def Ledger.blank (chain : Chain) : Ledger chain where
  Passes _ _ := True
  Accounts _ _ _ := True
  here _ := trivial
  token _ _ := trivial
  onward _ _ := trivial
  clear _ := trivial
  join _ _ _ := trivial

theorem Grammar.candidates_eq_nil_iff {root : Grammar} {depth : Nat} {held : List Grammar}
    {chain : Chain} {start : Cursor} {workspace after : Workspace} {outcome : Outcome Value}
    (hrun : root.parseWithin depth held chain start workspace = .ok outcome after) :
    outcome.candidates = [] ↔ ∃ diagnostic, outcome = .failure diagnostic := by
  have hcarried : Carried workspace root chain fun _ _ start misses outcome =>
      (Ledger.blank chain).Keeps start misses outcome :=
    Ledger.carried (fun _ _ => trivial) fun _ _ _ _ _ _ _ => trivial
  obtain ⟨misses, _, hkeeps⟩ := hcarried.of_parseWithin hrun
  cases outcome with
  | failure diagnostic => exact ⟨fun _ => ⟨diagnostic, rfl⟩, fun _ => rfl⟩
  | success candidates carried? =>
      exact ⟨fun hempty => absurd hempty (hkeeps.nonempty rfl), fun ⟨_, h⟩ => nomatch h⟩

end TokenGrammar
