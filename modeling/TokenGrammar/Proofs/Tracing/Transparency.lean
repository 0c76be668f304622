import TokenGrammar.Proofs.Renaming.Commands
import TokenGrammar.Proofs.Tracing.Nesting

/-!
# Tracing is transparent

Leaving out that parts are traced is a translation, so a session and the one in which nothing is
traced are in step. The one thing that tracing may change is that a parse ends where a traced part
is entered that cannot be printed, so this must not happen. Then all replies are the same: the
outcomes and the faults of parses, the number of parts that were built, and the representations.

In the build without the feature `trace-stderr` traced parts pass through. There every parse is in
step with that of the untraced grammar, whatever can be printed, so what is said elsewhere about all
grammars and workspaces holds of that build at the untraced ones.
-/

namespace TokenGrammar

/-- The translation that leaves out that parts are traced, and nothing else. -/
def Translation.untracing : Translation where
  traces := false
  cell_of_le := Translation.id_of_le

open Translation (untracing)

def Grammar.untraced (grammar : Grammar) : Grammar := grammar.translate untracing

def Command.untraced (command : Command) : Command := command.translate untracing

/-- A workspace with nothing traced in any of its grammars, and nothing traced so far. -/
def Workspace.untraced (workspace : Workspace) : Workspace :=
  { workspace.mapGrammars Grammar.untraced with journal := untracing.journal workspace.journal }

def Session.untraced (session : Session) : Session :=
  { session with workspace := session.workspace.untraced }

theorem Workspace.productions?_mapGrammars (f : Grammar → Grammar) (workspace : Workspace)
    (module : Nat) : (workspace.mapGrammars f).productions? module
      = (workspace.productions? module).map (·.map fun production =>
        (production.1, f production.2)) := by
  rw [productions?, modules_mapGrammars, productions?]
  cases workspace.modules[module]? <;> rfl

theorem Workspace.cacheSize?_mapGrammars (f : Grammar → Grammar) (workspace : Workspace)
    (module : Nat) : (workspace.mapGrammars f).cacheSize? module = workspace.cacheSize? module := by
  rw [cacheSize?, modules_mapGrammars, cacheSize?]
  cases hfound : workspace.modules[module]? with
  | none => rfl
  | some found => cases hcache : found.cache? <;> simp [Module.mapGrammars, hcache]

theorem Workspace.carries_untraced (workspace : Workspace) :
    untracing.Carries workspace workspace.untraced where
  slots_size := Array.size_map
  patterns slot := workspace.pattern?_mapGrammars _ slot
  first_le := Nat.zero_le _
  cells_size := Array.size_map
  cells place := workspace.cells_mapGrammars _ place
  unused {place _} _ := ⟨place, rfl⟩
  modules_size := Array.size_map
  fresh _ _ := rfl
  productions module index := by
    show ((workspace.mapGrammars _).productions? module).bind _ = _
    rw [productions?_mapGrammars, production?]
    cases workspace.productions? module with
    | none => rfl
    | some productions => exact List.getElem?_map
  indices module label :=
    (workspace.productionIndex?_mapGrammars _ module label).trans (Option.map_id' ..).symm
  rooms module index := by
    show ((workspace.mapGrammars _).cacheSize? module).any _ = _
    rw [cacheSize?_mapGrammars]
    rfl
  contents module index := workspace.productionContent?_mapGrammars _ module index
  rules := rfl
  moduleNames := rfl
  parsers := rfl
  journal := rfl

theorem Session.carries_untraced (session : Session) :
    untracing.CarriesSession session session.untraced :=
  ⟨session.workspace.carries_untraced, rfl⟩

/-! ### The build that does not trace -/

theorem Translation.tracesInStep_passed (excused : Fault → Prop) :
    untracing.TracesInStep excused Run.passed :=
  fun _ _ _ _ _ hp => hp

/-- **Where traced parts pass through, a parse is in step with that of the untraced grammar**, and
no fault is excused. -/
theorem Grammar.parsePassing_untraced (grammar : Grammar) (depth : Nat) (held : List Grammar) :
    (untracing.correspondence fun _ => False).Parsers
      (grammar.parseTracingWithin Run.passed depth held)
      (grammar.untraced.parseWithin depth (held.map Grammar.untraced)) :=
  Translation.parseWithin_enters (Translation.tracesInStep_passed _) depth held grammar

/-! ### Parses that can be printed -/

theorem Parse.exists_overflows {parse : Parse} {after : Workspace}
    (h : parse.result = .error .unprintable after) : ∃ visit ∈ parse.visits, visit.overflows := by
  have htraces := parse.grammar.parseWithin_traces Grammar.depthLimit [parse.grammar] parse.chain
    parse.start parse.before
  obtain ⟨events, -, hcut⟩ := htraces.of_error h
  obtain ⟨visit, hvisit, hoverflows⟩ := hcut.exists_overflows
  exact ⟨visit, List.mem_of_mem_filter hvisit, hoverflows⟩

/-- That every traced part which is executed by a command can be printed. -/
def Session.PrintsTraced (session : Session) (command : Command) : Prop :=
  ∀ visit ∈ session.visits command, ¬ visit.overflows

namespace Translation

variable {session image : Session} {command : Command}

theorem parse?_of_link {grammar : Grammar} {wrap : Grammar → Grammar} {start : Nat}
    (hcommand : command.parsed? = some (grammar, wrap, start)) {built : Grammar} {between : Session}
    (hlink : Step.ofRun (grammar.link none) session.cleared = .ok built between) :
    session.parse? command = some ⟨wrap built, between.chain, between.chain.cursor start,
      between.workspace⟩ := by
  unfold Step.ofRun Session.cleared at hlink
  cases hrun : grammar.link none session.workspace.clearJournal with
  | error fault after => simp [hrun] at hlink
  | ok built' after =>
      simp only [hrun] at hlink
      cases hlink
      exact Session.parse?_eq_some_iff.2 ⟨grammar, wrap, start, built, after, hcommand, hrun, rfl⟩

theorem result_of_parseWith {grammar : Grammar} {start : Nat} {before after : Session}
    {fault : Fault} (h : Step.parseWith grammar start before = .error (.fault fault) after) :
    Parse.result ⟨grammar, before.chain, before.chain.cursor start, before.workspace⟩
      = .error fault after.workspace := by
  have hrun : Step.parseWith grammar start before
      = Step.ofRun (grammar.parse before.chain (before.chain.cursor start)) before := rfl
  rw [hrun] at h
  unfold Step.ofRun at h
  cases hresult : grammar.parse before.chain (before.chain.cursor start) before.workspace with
  | ok outcome later => simp [hresult] at h
  | error fault' later =>
      simp only [hresult] at h
      cases h
      exact hresult

theorem parse_untraced (grammar : Grammar) :
    (untracing.correspondence (· = .unprintable)).Parsers grammar.parse grammar.untraced.parse :=
  parse_translate (t := untracing) (by exact fun _ => rfl) grammar

/-- A parse where traced parts are left out, if every one that is executed can be printed. -/
theorem CarriesSession.parsed (h : untracing.CarriesSession session image)
    (hprints : session.PrintsTraced command) {grammar : Grammar} {wrap wrap' : Grammar → Grammar}
    {start : Nat} (hcommand : command.parsed? = some (grammar, wrap, start))
    {rest rest' : Grammar → Outcome Value → Step Reply}
    (hwrap : ∀ built, (untracing.correspondence (· = .unprintable)).Parsers (wrap built).parse
      (wrap' built.untraced).parse)
    (hrest : ∀ built outcome, untracing.Performs (fun _ => False) (rest built outcome)
      (rest' built.untraced outcome) id) :
    InStepFrom untracing.CarriesSession (Refuses fun _ => False)
      (fun reply reply' => reply' = reply)
      (Step.ofRun (grammar.link none) >>= fun built =>
        Step.parseWith (wrap built) start >>= rest built)
      (Step.ofRun (grammar.untraced.link none) >>= fun built =>
        Step.parseWith (wrap' built) start >>= rest' built) session.cleared image.cleared := by
  refine (performs_link grammar _ _ h.cleared).bind ?_
  rintro built _ between between' hlink rfl hbetween
  have hparse := parse?_of_link hcommand hlink
  have hsteps := performs_parseWith (hwrap built) start between between' hbetween
  refine (hsteps.excuse ?_).bind ?_
  · rintro _ after hrun ⟨_, rfl, rfl⟩
    obtain ⟨visit, hvisit, hoverflows⟩ := Parse.exists_overflows (result_of_parseWith hrun)
    refine absurd hoverflows (hprints visit ?_)
    rw [Session.visits, hparse]
    exact hvisit
  · rintro outcome _ later later' - hsame hlater
    rw [hsame]
    exact hrest built outcome later later' hlater

/-- **A command replies the same where nothing is traced**, if every traced part that it executes
can be printed. -/
theorem CarriesSession.agrees_untraced (h : untracing.CarriesSession session image)
    (hprints : session.PrintsTraced command) : untracing.Agrees session image command := by
  cases command with
  | parse grammar start represented =>
      exact attempt_of_inStepFrom (h.parsed hprints rfl parse_untraced
        fun built outcome => performs_represented built outcome represented)
  | trace label grammar start =>
      have hwrap (built : Grammar) : (untracing.correspondence (· = .unprintable)).Parsers
          (Grammar.traced label built).parse (id built.untraced).parse :=
        parse_untraced (.traced label built)
      exact attempt_of_inStepFrom (h.parsed hprints rfl hwrap
        fun built outcome => performs_parsed outcome none)
  | _ => exact h.agrees fun _ => rfl

end Translation

/-! ### What commands trace -/

namespace Session

def executions (session : Session) (command : Command) : List Visit :=
  (session.visits command).filter (·.isTraced)

/-- That a parse by a command wrote the blocks of what it executed, cut off if it met a fault. -/
def TracesBlocks (session : Session) (command : Command) : Prop :=
  ∀ parse, session.parse? command = some parse → ∃ events : List TraceEvent,
    (session.perform command).2.traceText
      = String.join (events.map (·.text session.chain)) ∧
    match parse.result with
    | .ok _ _ => Blocks (session.executions command) events
    | .error fault after => CutOff fault after (session.executions command) events

theorem tracesBlocks (session : Session) (command : Command) : session.TracesBlocks command := by
  intro parse hparse
  obtain ⟨grammar, wrap, start, built, before, -, hlink, rfl⟩ := parse?_eq_some_iff.1 hparse
  have hvisits : session.executions command = Grammar.executions Grammar.depthLimit [wrap built]
      (wrap built) session.chain (session.chain.cursor start) before := by
    rw [executions, visits, hparse]
    rfl
  have hbefore : before.journal.events = [] :=
    (Run.quiet_composes.link none grammar session.workspace.clearJournal).of_ok hlink
  have htraces := (wrap built).parseWithin_traces Grammar.depthLimit [wrap built] session.chain
    (session.chain.cursor start) before
  have htext {after : Workspace} {events : List TraceEvent} (hafter : before.Reports after events)
      (hperform : (session.perform command).2 = { session with workspace := after }) :
      (session.perform command).2.traceText = String.join (events.map (·.text session.chain)) := by
    rw [hperform, traceText, Journal.traceText, hafter, hbefore, List.append_nil,
      List.reverse_reverse]
  cases hresult : (wrap built).parse session.chain (session.chain.cursor start) before with
  | ok outcome after =>
      obtain ⟨events, hevents, hblocks⟩ := htraces.of_ok hresult
      refine ⟨events, htext hevents (perform_of_parse_ok hparse hresult).1, ?_⟩
      rw [hvisits, Parse.result, hresult]
      exact hblocks
  | error fault after =>
      obtain ⟨events, hevents, hcut⟩ := htraces.of_error hresult
      refine ⟨events, htext hevents (congrArg Prod.snd (perform_of_parse_error hparse hresult)), ?_⟩
      rw [hvisits, Parse.result, hresult]
      exact hcut

/-- **Tracing changes nothing but what is traced, and traces are nested.** If every traced part that
is executed can be printed, then all commands reply the same in a session in which nothing is
traced, and as much is built. What a parse traced consists of nested blocks, one for each execution
of a traced part in the order of the executions, and breaks off within the blocks of those that met
the fault of the parse. Where traced parts pass through, nothing need be printed: every parse yields
what the untraced grammar yields, or meets the same fault. -/
theorem tracing_transparent_and_nested (session : Session) (commands : List Command) :
    (session.Each PrintsTraced commands →
      List.Forall₂ (fun done done' => done'.1 = done.1 ∧
          done'.2.workspace.journal.builds.length = done.2.workspace.journal.builds.length)
        (session.performEach commands)
        (session.untraced.performEach (commands.map Command.untraced))) ∧
      session.Each TracesBlocks commands ∧
      ∀ (grammar : Grammar) (depth : Nat) (held : List Grammar) (chain : Chain) (start : Cursor),
        InStepFrom untracing.Carries (fun _ => False) (fun outcome outcome' => outcome' = outcome)
          (grammar.parseTracingWithin Run.passed depth held chain start)
          (grammar.untraced.parseWithin depth (held.map Grammar.untraced) chain start)
          session.workspace session.workspace.untraced := by
  refine ⟨fun hprints => ?_, .of_forall tracesBlocks session commands,
    fun grammar depth held chain start => grammar.parsePassing_untraced depth held chain start _ _
      session.workspace.carries_untraced⟩
  refine (Translation.CarriesSession.performEach
    (fun _ _ _ hnow hcommand => hnow.agrees_untraced hcommand) session.carries_untraced
    hprints).imp ?_
  rintro done done' ⟨hreply, hcarries⟩
  refine ⟨hreply, ?_⟩
  rw [hcarries.workspace.journal]
  exact List.length_map _

/-- A rule whose pattern is traced, and a traced part with two ways to read it. -/
private def letterHistory : List Command :=
  let letter := Grammar.named (.rule "letter")
  [.read (.listed #[⟨"letter", "a", ⟨0, 1, 1, 1, 2⟩⟩]), .openRule "letter",
    .setRule "letter" (.traced "letter" (.leaf (.literal "a"))),
    .parse (.traced "both" (.binary .either letter letter)) 0 true]

/-- The traced part and the pattern, which is executed twice, are entered and left. -/
theorem tracing_transparent_and_nested_letters :
    ({} : Session).Each PrintsTraced letterHistory ∧
      (({} : Session).performEach letterHistory).map (·.2.workspace.journal.events.length)
        = [0, 0, 0, 6] ∧
      List.Forall₂ (fun done done' => done'.1 = done.1 ∧
          done'.2.workspace.journal.builds.length = done.2.workspace.journal.builds.length)
        (({} : Session).performEach letterHistory)
        (({} : Session).untraced.performEach (letterHistory.map Command.untraced)) := by
  have hprints (session : Session) (command : Command)
      (h : (session.visits command).all fun visit => !visit.overflows) :
      session.PrintsTraced command := fun visit hvisit hoverflows => by
    simpa [hoverflows] using List.all_eq_true.1 h visit hvisit
  have heach : ({} : Session).Each PrintsTraced letterHistory :=
    ⟨hprints _ _ rfl, hprints _ _ rfl, hprints _ _ rfl, hprints _ _ rfl, trivial⟩
  exact ⟨heach, rfl, (tracing_transparent_and_nested {} letterHistory).1 heach⟩

end Session

end TokenGrammar
