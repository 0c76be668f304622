import TokenGrammar.Proofs.Composition
import TokenGrammar.Proofs.Matching
import TokenGrammar.Proofs.Watching

/-!
# Traces are nested

A trace is written while a parse goes on, and what it says about a traced part is split in two: one
event as the part is entered and another one as it is left. All that is traced between the two was
traced on the way through the part. So the trace of a parse consists of blocks within blocks, one
for each execution of a traced part, and if the parse met a fault, it breaks off within the blocks
of the parts that were not left.

The diary of a watched parse says what was executed, and the journal says what was traced. Both are
kept side by side here.
-/

namespace TokenGrammar

/-! ### Executions of traced parts -/

namespace Visit

/-- The label of a traced part that is visited, and the representation with which it is entered. -/
def traced? (visit : Visit) : Option (String × Option String) :=
  match visit.subject with
  | .built (.traced label part) => some (label, visit.before.textOf? visit.held part)
  | _ => none

def isTraced (visit : Visit) : Bool := visit.traced?.isSome

def overflows (visit : Visit) : Bool := visit.traced?.any (·.2.isNone)

end Visit

def Diary.executions (diary : Diary) : List Visit := diary.visits.reverse.filter (·.isTraced)

def Visit.executions (visit : Visit) : List Visit :=
  match visit.subject.watchedParser visit.depth visit.held visit.chain visit.start
      { workspace := visit.before } with
  | .ok _ after | .error _ after => after.executions

/-! ### Blocks -/

/-- The events of some executions that all ended well. Each has a block of its own, in which there
is a block for each execution in its course, and which says at the end what its outcome was. -/
inductive Blocks : List Visit → List TraceEvent → Prop where
  | nil : Blocks [] []
  | block {visit : Visit} {label text : String} {outcome : Outcome Value} {after : Workspace}
      {inner rest : List Visit} {events later : List TraceEvent}
      (htraced : visit.traced? = some (label, some text))
      (hresult : visit.result = .ok outcome after)
      (hcourse : visit.executions = visit :: inner) (hinner : Blocks inner events)
      (hrest : Blocks rest later) :
      Blocks (visit :: (inner ++ rest))
        (.entered label text visit.start :: (events ++ .ofOutcome label outcome :: later))

/-- The events of some executions that were cut off by a fault. After some blocks there is the
beginning of one that was entered and not left, because its execution met the fault, and so on to
the innermost one. A part that cannot be printed is not even entered. -/
inductive CutOff (fault : Fault) (after : Workspace) : List Visit → List TraceEvent → Prop where
  | between {visits : List Visit} {events : List TraceEvent} (hfault : fault ≠ .unprintable)
      (hbefore : Blocks visits events) : CutOff fault after visits events
  | unprinted {visits : List Visit} {events : List TraceEvent} {visit : Visit}
      (hfault : fault = .unprintable) (hbefore : Blocks visits events)
      (hoverflows : visit.overflows) : CutOff fault after (visits ++ [visit]) events
  | within {visits inner : List Visit} {events later : List TraceEvent} {visit : Visit}
      {label text : String} (hbefore : Blocks visits events)
      (htraced : visit.traced? = some (label, some text))
      (hresult : visit.result = .error fault after) (hcourse : visit.executions = visit :: inner)
      (hinner : CutOff fault after inner later) :
      CutOff fault after (visits ++ visit :: inner)
        (events ++ .entered label text visit.start :: later)

theorem Blocks.append {visits visits' : List Visit} {events events' : List TraceEvent}
    (h : Blocks visits events) (h' : Blocks visits' events') :
    Blocks (visits ++ visits') (events ++ events') := by
  induction h with
  | nil => exact h'
  | block htraced hresult hcourse hinner _ _ ih =>
      simpa using Blocks.block htraced hresult hcourse hinner ih

theorem CutOff.prepend {fault : Fault} {after : Workspace} {visits visits' : List Visit}
    {events events' : List TraceEvent} (h' : CutOff fault after visits' events')
    (h : Blocks visits events) : CutOff fault after (visits ++ visits') (events ++ events') := by
  cases h' with
  | between hfault hbefore => exact .between hfault (h.append hbefore)
  | unprinted hfault hbefore hoverflows =>
      rw [← List.append_assoc]
      exact .unprinted hfault (h.append hbefore) hoverflows
  | within hbefore htraced hresult hcourse hinner =>
      rw [← List.append_assoc, ← List.append_assoc]
      exact .within (h.append hbefore) htraced hresult hcourse hinner

theorem CutOff.exists_overflows {after : Workspace} {visits : List Visit}
    {events : List TraceEvent} (h : CutOff .unprintable after visits events) :
    ∃ visit ∈ visits, visit.overflows := by
  induction h with
  | between hfault => exact absurd rfl hfault
  | @unprinted visits _ visit _ _ hoverflows =>
      exact ⟨visit, List.mem_append_right visits List.mem_cons_self, hoverflows⟩
  | within _ _ _ _ _ ih =>
      obtain ⟨visit, hvisit, hoverflows⟩ := ih
      exact ⟨visit, List.mem_append_right _ (List.mem_cons_of_mem _ hvisit), hoverflows⟩

/-! ### Runs that trace nothing -/

/-- That a run traces nothing, and meets no fault for what it could not print. -/
def Run.Quiet {α : Type} (run : Run α) : Prop :=
  ∀ before, Lands run before (fun _ after => after.journal.events = before.journal.events)
    fun fault after => fault ≠ .unprintable ∧ after.journal.events = before.journal.events

theorem Run.quiet_composes : Run.Composes Run.Quiet where
  pure _ _ := rfl
  bind h hnext before := by
    refine Lands.bind (h before) fun a between hbetween => ?_
    refine (hnext a between).imp (fun _ _ hafter => hafter.trans hbetween) fun _ _ hafter => ?_
    exact ⟨hafter.1, hafter.2.trans hbetween⟩
  get _ := rfl
  throw hfault _ := ⟨hfault, rfl⟩
  openCell _ _ := rfl
  storeParser _ _ _ := rfl
  fillCell _ _ _ := rfl
  noteEntry _ _ := rfl
  noteBuild _ _ := rfl
  noteMiss _ _ := rfl

theorem Run.opened_quiet (held : List Grammar) (target : Link) : (target.opened held).Quiet :=
  Run.quiet_composes.opened
    (Run.quiet_composes.productionContent fun _ _ _ _ => rfl) held target

/-! ### What was noted before -/

def Diary.behind (diary : Diary) (earlier : List Visit) : Diary :=
  { diary with visits := diary.visits ++ earlier }

theorem Diary.executions_behind (diary : Diary) (earlier : List Visit) :
    (diary.behind earlier).executions
      = earlier.reverse.filter (·.isTraced) ++ diary.executions := by
  simp [Diary.executions, Diary.behind]

namespace Watched

variable {α β : Type}

/-- That a watched run goes on in the same way whatever was noted before. -/
def Framed (run : Watched α) : Prop :=
  ∀ earlier, InStep (fun diary diary' => diary' = diary.behind earlier) (fun _ => False) Eq run run

theorem Framed.bind {run : Watched α} {next : α → Watched β} (h : run.Framed)
    (hnext : ∀ a, (next a).Framed) : (run >>= next).Framed :=
  fun earlier => InStep.bind (h earlier) fun _ _ heq => heq ▸ hnext _ earlier

theorem framed_ofRun (run : Run α) : (ofRun run).Framed := by
  rintro earlier before _ rfl
  unfold InStepFrom Lands ofRun
  have hsame : (before.behind earlier).workspace = before.workspace := rfl
  rw [hsame]
  cases hrun : run before.workspace with
  | ok value after => exact ⟨value, _, rfl, rfl, rfl⟩
  | error fault after => exact .inr ⟨_, rfl, rfl⟩

theorem framed_visit {subject : Subject} {depth : Nat} {held : List Grammar}
    {p : Parser Watched Value} {chain : Chain} {start : Cursor} (h : (p chain start).Framed) :
    (visit subject depth held p chain start).Framed :=
  fun earlier => InStep.bind (InStep.modify fun _ _ heq => by rw [heq]; rfl) fun _ _ _ => h earlier

theorem Framed.lands {run : Watched α} (h : run.Framed) {before : Workspace}
    {good : α → Diary → Prop} {admissible : Fault → Diary → Prop}
    (hlands : Lands run { workspace := before } good admissible) (earlier : List Visit) :
    Lands run ⟨before, earlier⟩
      (fun value after => ∃ own, after = own.behind earlier ∧ good value own)
      fun fault after => ∃ own, after = own.behind earlier ∧ admissible fault own := by
  have hframe := h earlier { workspace := before } ⟨before, earlier⟩ rfl
  unfold InStepFrom at hframe
  unfold Lands at hlands hframe
  cases hrun : run { workspace := before } with
  | ok value own =>
      rw [hrun] at hlands hframe
      obtain ⟨_, _, hrun', rfl, rfl⟩ := hframe
      unfold Lands
      rw [hrun']
      exact ⟨own, rfl, hlands⟩
  | error fault own =>
      rw [hrun] at hlands hframe
      obtain ⟨_, hrun', rfl⟩ := hframe.resolve_left id
      unfold Lands
      rw [hrun']
      exact ⟨own, rfl, hlands⟩

end Watched

/-! ### What is traced -/

def Workspace.Reports (before after : Workspace) (events : List TraceEvent) : Prop :=
  after.journal.events = events.reverse ++ before.journal.events

theorem Workspace.Reports.trans {before between after : Workspace} {events later : List TraceEvent}
    (h : before.Reports between events) (h' : between.Reports after later) :
    before.Reports after (events ++ later) := by
  rw [Reports, h', h, List.reverse_append, List.append_assoc]

namespace Watched

variable {α β : Type}

/-- That what a watched run traces are the blocks of what it executes, cut off by the fault if it
meets one. -/
structure Traces (run : Watched α) : Prop where
  framed : run.Framed
  lands : ∀ before : Workspace, Lands run { workspace := before }
    (fun _ after => ∃ events, before.Reports after.workspace events ∧
      Blocks after.executions events)
    fun fault after => ∃ events, before.Reports after.workspace events ∧
      CutOff fault after.workspace after.executions events

theorem Traces.bind {run : Watched α} {next : α → Watched β} (h : run.Traces)
    (hnext : ∀ a, (next a).Traces) : (run >>= next).Traces where
  framed := h.framed.bind fun a => (hnext a).framed
  lands before := by
    refine Lands.bind (h.lands before) fun a between ⟨events, hevents, hblocks⟩ => ?_
    refine ((hnext a).framed.lands ((hnext a).lands between.workspace) between.visits).imp ?_ ?_
    · rintro b _ ⟨own, rfl, later, hlater, hown⟩
      refine ⟨events ++ later, hevents.trans hlater, ?_⟩
      rw [Diary.executions_behind]
      exact hblocks.append hown
    · rintro fault _ ⟨own, rfl, later, hlater, hown⟩
      refine ⟨events ++ later, hevents.trans hlater, ?_⟩
      rw [Diary.executions_behind]
      exact hown.prepend hblocks

theorem traces_ofRun {run : Run α} (h : run.Quiet) : (ofRun run).Traces where
  framed := framed_ofRun run
  lands before := by
    refine lands_ofRun ((h before).imp (fun _ after hsame => ⟨[], ?_, .nil⟩) ?_)
    · exact hsame
    · rintro fault after ⟨hfault, hsame⟩
      exact ⟨[], hsame, .between hfault .nil⟩

/-- A visit of anything but a traced part has no block. -/
theorem Traces.visit {subject : Subject} {depth : Nat} {held : List Grammar}
    {p : Parser Watched Value} {chain : Chain} {start : Cursor} (h : (p chain start).Traces)
    (hsubject : ∀ before, Visit.isTraced ⟨subject, depth, held, chain, start, before⟩ = false) :
    (visit subject depth held p chain start).Traces where
  framed := framed_visit h.framed
  lands before := by
    have hnone (own : Diary) :
        (own.behind [⟨subject, depth, held, chain, start, before⟩]).executions
          = own.executions := by
      rw [Diary.executions_behind]
      simp [hsubject]
    refine lands_visit ((h.framed.lands (h.lands before) [_]).imp ?_ ?_)
    · rintro outcome _ ⟨own, rfl, events, hevents, hblocks⟩
      refine ⟨events, hevents, ?_⟩
      rw [hnone own]
      exact hblocks
    · rintro fault _ ⟨own, rfl, events, hevents, hcut⟩
      refine ⟨events, hevents, ?_⟩
      rw [hnone own]
      exact hcut

def tracing : Correspondence Watched Watched where
  Relates run _ := run.Traces
  pure _ := traces_ofRun (Run.quiet_composes.pure _)
  bind h hnext := h.bind hnext

end Watched

def Workspace.noting (workspace : Workspace) (event : TraceEvent) : Workspace :=
  workspace.modifyJournal fun journal => { journal with events := event :: journal.events }

namespace Grammar

open Watched (Framed Traces tracing ofRun visit)

section Traced

variable {depth : Nat} {held : List Grammar} {label : String} {part : Grammar} {chain : Chain}
  {start : Cursor}

theorem watchedParser_traced (before : Workspace) :
    (traced label part).watchedParser depth (watchWithin depth) held chain start
        { workspace := before }
      = match before.textOf? held part with
        | none => .error .unprintable
            ⟨before, [⟨.built (traced label part), depth, held, chain, start, before⟩]⟩
        | some text =>
            match part.watchedParser depth (watchWithin depth) held chain start
              ⟨before.noting (.entered label text start),
                [⟨.built (traced label part), depth, held, chain, start, before⟩]⟩ with
            | .error fault after => .error fault after
            | .ok outcome after => .ok outcome
                { after with workspace := after.workspace.noting (.ofOutcome label outcome) } := by
  show EStateM.bind (ofRun _) _ ⟨before, [_]⟩ = _
  simp only [EStateM.bind, ofRun, Run.get_bind]
  cases before.textOf? held part with
  | none => rfl
  | some text =>
      show EStateM.bind (part.watchedParser depth (watchWithin depth) held chain start) _
        ⟨before.noting (.entered label text start), [_]⟩ = _
      simp only [EStateM.bind]
      cases part.watchedParser depth (watchWithin depth) held chain start
        ⟨before.noting (.entered label text start), [_]⟩ <;> rfl

theorem watchedParser_traced_framed
    (hpart : (part.watchedParser depth (watchWithin depth) held chain start).Framed) :
    ((traced label part).watchedParser depth (watchWithin depth) held chain start).Framed := by
  refine Watched.framed_visit ((Watched.framed_ofRun _).bind fun _ => hpart.bind fun outcome => ?_)
  exact (Watched.framed_ofRun _).bind fun _ => Watched.framed_ofRun (pure outcome)

/-- A traced part is a block, with what is traced on the way through it inside. -/
theorem watchedParser_traced_traces
    (hpart : (part.watchedParser depth (watchWithin depth) held chain start).Traces) :
    ((traced label part).watchedParser depth (watchWithin depth) held chain start).Traces := by
  refine ⟨watchedParser_traced_framed hpart.framed, fun before => ?_⟩
  have hreflects := (traced label part).watchedParser_reflects (watchWithin_reflects depth) held
    chain start { workspace := before }
  have hsteps := @watchedParser_traced depth held label part chain start before
  -- the visit is made a variable, so that rewriting with the steps leaves it alone
  obtain ⟨now, hnow⟩ :
      ∃ now : Visit, now = ⟨.built (traced label part), depth, held, chain, start, before⟩ :=
    ⟨_, rfl⟩
  have hcourse : now.executions = match (traced label part).watchedParser depth (watchWithin depth)
      held chain start { workspace := before } with
    | .ok _ after | .error _ after => after.executions := by rw [hnow]; rfl
  have hresult : now.result
      = (traced label part).parser (parseWithin depth) held chain start before := by
    rw [hnow]
    rfl
  have hstart : now.start = start := by rw [hnow]
  have hnew (own : Diary) (workspace : Workspace) :
      Diary.executions ⟨workspace, own.visits ++ [now]⟩ = now :: own.executions := by
    rw [hnow]
    exact own.executions_behind [_]
  rw [← hnow] at hsteps
  cases htext : before.textOf? held part with
  | none =>
      -- the part is not even entered
      rw [htext] at hsteps
      unfold Lands
      rw [hsteps]
      refine ⟨[], rfl, ?_⟩
      have hoverflows : now.overflows := by
        rw [hnow]
        simp [Visit.overflows, Visit.traced?, htext]
      rw [← List.nil_append (Diary.executions _), show Diary.executions ⟨before, [now]⟩ = [now] from
        hnew ⟨before, []⟩ before]
      exact .unprinted rfl .nil hoverflows
  | some text =>
      have htraced : now.traced? = some (label, some text) := by
        rw [hnow]
        simp [Visit.traced?, htext]
      have hinner := hpart.framed.lands (hpart.lands (before.noting (.entered label text start)))
        [now]
      rw [htext] at hsteps
      unfold Lands at hinner ⊢
      cases hrun : part.watchedParser depth (watchWithin depth) held chain start
          ⟨before.noting (.entered label text start), [now]⟩ with
      | ok outcome between =>
          rw [hrun] at hinner
          simp only [hrun] at hsteps
          obtain ⟨own, rfl, events, hevents, hblocks⟩ := hinner
          have hok := hresult.trans (hreflects.of_ok hsteps).1
          rw [hsteps] at hcourse ⊢
          refine ⟨.entered label text start :: (events ++ [.ofOutcome label outcome]), ?_, ?_⟩
          · show TraceEvent.ofOutcome label outcome :: own.workspace.journal.events = _
            rw [hevents]
            simp [Workspace.noting, Workspace.modifyJournal]
          · have hblock := Blocks.block htraced hok (hcourse.trans (hnew own _)) hblocks
              .nil
            rw [hstart, List.append_nil] at hblock
            exact (hnew own _).symm ▸ hblock
      | error fault between =>
          rw [hrun] at hinner
          simp only [hrun] at hsteps
          obtain ⟨own, rfl, events, hevents, hcut⟩ := hinner
          have herror := hresult.trans (hreflects.of_error hsteps).1
          rw [hsteps] at hcourse ⊢
          refine ⟨.entered label text start :: events, ?_, ?_⟩
          · show own.workspace.journal.events = _
            rw [hevents]
            simp [Workspace.noting, Workspace.modifyJournal]
          · have hopen := CutOff.within .nil htraced herror (hcourse.trans (hnew own _)) hcut
            rw [hstart] at hopen
            exact (hnew own _).symm ▸ hopen

end Traced

/-- By induction on the grammar: only traced parts are blocks. -/
theorem watchedParser_traces {depth : Nat} (henter : ∀ held grammar,
      tracing.Parsers (watchWithin depth held grammar) (watchWithin depth held grammar))
    (held : List Grammar) : ∀ grammar : Grammar,
      tracing.Parsers (grammar.watchedParser depth (watchWithin depth) held)
        (grammar.watchedParser depth (watchWithin depth) held)
  | leaf matcher => fun chain start =>
      Traces.visit (Watched.traces_ofRun (Run.quiet_composes.parseNoting matcher chain start))
        fun _ => rfl
  | unary operator part => fun chain start =>
      Traces.visit ((watchedParser_traces henter held part).unary operator chain start) fun _ => rfl
  | binary operator first second => fun chain start =>
      Traces.visit ((watchedParser_traces henter held first).binary operator
        (watchedParser_traces henter held second) chain start) fun _ => rfl
  | bind part next => by
      have hselected (value : Value) : tracing.Parsers
          ((Subject.selected (next.select value)).watchedParser depth held)
          ((Subject.selected (next.select value)).watchedParser depth held) := by
        intro chain start
        rw [Subject.watchedParser]
        have hlink := Run.quiet_composes.link none (next.select value)
        exact Traces.visit ((Watched.traces_ofRun hlink).bind fun selected =>
          henter _ _ chain start) fun _ => rfl
      exact fun chain start => Traces.visit
        ((watchedParser_traces henter held part).bind hselected chain start) fun _ => rfl
  | traced _ part => fun chain start =>
      watchedParser_traced_traces (watchedParser_traces henter held part chain start)
  | deferred part => fun chain start => Traces.visit
      ((Watched.traces_ofRun (Run.quiet_composes.partContent part)).bind fun _ =>
        henter _ _ chain start) fun _ => rfl
  | linked target => fun chain start => Traces.visit
      ((Watched.traces_ofRun (Run.opened_quiet held target)).bind fun _ =>
        henter _ _ chain start) fun _ => rfl
  | named _ | siblingOr _ _ | shared _ _ | deferredOnce _ => fun _ _ =>
      Traces.visit (Watched.traces_ofRun (Run.quiet_composes.throw Fault.noConfusion)) fun _ => rfl

theorem watchWithin_traces (depth : Nat) : ∀ (held : List Grammar) (grammar : Grammar),
    tracing.Parsers (grammar.watchWithin depth held) (grammar.watchWithin depth held) := by
  induction depth with
  | zero => exact fun _ _ _ _ => Watched.traces_ofRun (Run.quiet_composes.throw Fault.noConfusion)
  | succ depth ih => exact fun held grammar => watchedParser_traces ih held grammar

def executions (depth : Nat) (held : List Grammar) (grammar : Grammar) (chain : Chain)
    (start : Cursor) (workspace : Workspace) : List Visit :=
  (grammar.visits depth held chain start workspace).reverse.filter (·.isTraced)

/-- **The trace of a parse consists of the blocks of what it executed**, cut off by the fault if it
met one. -/
theorem parseWithin_traces (depth : Nat) (held : List Grammar) (grammar : Grammar) (chain : Chain)
    (start : Cursor) (workspace : Workspace) :
    Lands (grammar.parseWithin depth held chain start) workspace
      (fun _ after => ∃ events, workspace.Reports after events ∧
        Blocks (grammar.executions depth held chain start workspace) events)
      fun fault after => ∃ events, workspace.Reports after events ∧
        CutOff fault after (grammar.executions depth held chain start workspace) events := by
  have hreflects := grammar.watchWithin_reflects depth held chain start { workspace }
  have htraces := (grammar.watchWithin_traces depth held chain start).lands workspace
  unfold executions visits Lands
  cases hwatched : grammar.watchWithin depth held chain start { workspace } with
  | ok outcome after =>
      rw [(hreflects.of_ok hwatched).1]
      exact htraces.of_ok hwatched
  | error fault after =>
      rw [(hreflects.of_error hwatched).1]
      exact htraces.of_error hwatched

end Grammar

end TokenGrammar
