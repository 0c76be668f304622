import TokenGrammar.Proofs.Caching.Parsing
import TokenGrammar.Proofs.Caching.Setup

/-!
# Histories

After a session was set up, it parses and prints, and takes other chains to be parsed. Each of these
commands is one run in the workspace, and names are left as they are. If what is kept in one session
is kept in another one too, both are in lockstep over a whole history: they reply the same after
each command, unless the second one cannot print what it keeps.
-/

namespace TokenGrammar

/-- What a reply tells, but for how much was built and what was printed. -/
def Reply.output : Reply → Reply
  | parsed outcome _ _ => parsed outcome 0 none
  | representation _ => representation ""
  | reply => reply

namespace Session

def performEach (session : Session) : List Command → List (Except Refusal Reply × Session)
  | [] => []
  | command :: commands =>
      session.perform command :: performEach (session.perform command).2 commands

def after (session : Session) (commands : List Command) : Session :=
  commands.foldl (fun session command => (session.perform command).2) session

def outputs (session : Session) (commands : List Command) : List (Except Refusal Reply) :=
  (session.performEach commands).map fun done => done.1.map Reply.output

/-- That no grammar was to be printed that has no representation. -/
def Prints (session : Session) (commands : List Command) : Prop :=
  .error (.fault .unprintable) ∉ session.outputs commands

/-- That no fault was met. -/
def Faultless (session : Session) (commands : List Command) : Prop :=
  ∀ fault, .error (.fault fault) ∉ session.outputs commands

theorem outputs_cons (session : Session) (command : Command) (commands : List Command) :
    session.outputs (command :: commands) = (session.perform command).1.map Reply.output ::
      (session.perform command).2.outputs commands := rfl

theorem outputs_append (session : Session) (commands later : List Command) :
    session.outputs (commands ++ later)
      = session.outputs commands ++ (session.after commands).outputs later := by
  induction commands generalizing session with
  | nil => rfl
  | cons command commands ih =>
      rw [List.cons_append, outputs_cons, outputs_cons, ih, List.cons_append]
      rfl

theorem not_mem_outputs_cons {session : Session} {command : Command} {commands : List Command}
    {refusal : Refusal} (h : .error refusal ∉ session.outputs (command :: commands)) :
    (session.perform command).1 ≠ .error refusal ∧
      .error refusal ∉ (session.perform command).2.outputs commands := by
  rw [outputs_cons, List.mem_cons, not_or] at h
  obtain ⟨hne, hrest⟩ := h
  refine ⟨fun heq => hne ?_, hrest⟩
  rw [heq]
  rfl

/-- What was written into the journal before a command tells nothing about its output. -/
theorem outputs_clearJournal (session : Session) (commands : List Command) :
    Session.outputs { session with workspace := session.workspace.clearJournal } commands
      = session.outputs commands := by
  cases commands <;> rfl

end Session

/-! ### Commands as runs -/

namespace Command

def reading (chain : Chain) : Command → Run Reply
  | parse grammar start represented => do
      let built ← grammar.link none
      let outcome ← built.parse chain (chain.cursor start)
      let text? ← if represented then
          some <$> (do Run.demand .unprintable ((← get).textOf? [built] built))
        else pure none
      return .parsed outcome (← get).journal.builds.length text?
  | trace label grammar start => do
      let built ← grammar.link none
      let outcome ← (Grammar.traced label built).parse chain (chain.cursor start)
      return .parsed outcome (← get).journal.builds.length none
  | represent grammar => do
      let built ← grammar.link none
      return .representation (← Run.demand .unprintable ((← get).textOf? [built] built))
  | _ => return .done

end Command

theorem Step.bind_eq_ofRun {α β : Type} {step : Step α} {run : Run α} {next : α → Step β}
    {next' : α → Run β} {session : Session} (hstep : step session = ofRun run session)
    (hnext : ∀ a workspace, next a { session with workspace }
      = ofRun (next' a) { session with workspace }) :
    (step >>= next) session = ofRun (run >>= next') session := by
  show EStateM.bind step next session = _
  unfold EStateM.bind
  rw [hstep]
  cases hrun : run session.workspace with
  | ok a workspace =>
      simp only [ofRun, hrun, Run.bind_of_ok hrun]
      exact hnext a workspace
  | error fault workspace => simp only [ofRun, hrun, Run.bind_of_error hrun]

namespace Command

theorem perform_eq_ofRun {command : Command} (hreads : command.reads)
    (hread : ∀ source, command ≠ .read source) (session : Session) :
    command.perform session = Step.ofRun (command.reading session.chain) session := by
  cases command with
  | read source => exact absurd rfl (hread source)
  | parse grammar start represented =>
      refine Step.bind_eq_ofRun rfl fun built workspace => ?_
      refine Step.bind_eq_ofRun rfl fun outcome workspace => ?_
      cases represented with
      | false => rfl
      | true =>
          refine Step.bind_eq_ofRun ?_ fun text? workspace => rfl
          rw [← bind_pure_comp, ← bind_pure_comp]
          exact Step.bind_eq_ofRun rfl fun text workspace => rfl
  | trace label grammar start =>
      refine Step.bind_eq_ofRun rfl fun built workspace => ?_
      exact Step.bind_eq_ofRun rfl fun outcome workspace => rfl
  | represent grammar =>
      refine Step.bind_eq_ofRun rfl fun built workspace => ?_
      exact Step.bind_eq_ofRun rfl fun text workspace => rfl
  | _ => cases hreads

end Command

theorem Session.perform_eq {command : Command} (hreads : command.reads)
    (hread : ∀ source, command ≠ .read source) (session : Session) :
    session.perform command =
      match command.reading session.chain session.workspace.clearJournal with
      | .ok reply workspace => (.ok reply, { session with workspace })
      | .error fault workspace => (.error (.fault fault), { session with workspace }) := by
  rw [Session.perform, Command.perform_eq_ofRun hreads hread]
  unfold Step.ofRun
  dsimp only
  cases command.reading session.chain session.workspace.clearJournal <;> rfl

theorem Session.perform_read (session : Session) (source : Source) :
    session.perform (.read source) =
      match source.chain with
      | .ok chain => (.ok (.count chain.size), ⟨session.workspace.clearJournal, chain⟩)
      | .error refusal =>
          (.error refusal, { session with workspace := session.workspace.clearJournal }) := by
  rw [Session.perform, Command.perform]
  cases source.chain <;> rfl

/-! ### Lockstep -/

namespace World

variable {before : World}

theorem parse_agrees (hvalid : before.Valid) {grammar grammar' : Grammar}
    (hmirrors : before.Mirrors grammar grammar') (chain : Chain) (cursor : Cursor) :
    before.Agrees (grammar.parse chain cursor) (grammar'.parse chain cursor)
      fun _ a b => a = b := by
  have henters : before.Enters ([grammar], grammar) ([grammar'], grammar') :=
    ⟨(Workspace.SameRoots.refl before.cached []).cons hmirrors, hmirrors⟩
  exact parseWithin_agrees Grammar.depthLimit hvalid henters chain cursor

/-- **Commands that parse or print reply alike** if those of one session keep less than those of the
other. -/
theorem reading_agrees (hvalid : before.Valid) {command command' : Command}
    (hless : command.LessCached command') (chain : Chain) :
    before.Agrees (command.reading chain) (command'.reading chain) fun _ reply reply' =>
      reply.output = reply'.output := by
  cases hless with
  | @parse grammar grammar' start represented hless =>
      refine (link_agrees hvalid hless none).bind ?_
      rintro linked built built' - hlinked ⟨hmirrors, -, -⟩
      refine (parse_agrees hlinked hmirrors chain _).bind ?_
      rintro parsed outcome _ hleads hparsed rfl
      cases represented with
      | false => exact .get (.pure hparsed rfl)
      | true =>
          simp only [if_true, ← bind_pure_comp, bind_assoc, pure_bind]
          refine .get ((printed_agrees hparsed (hleads.mirrors hmirrors)).bind ?_)
          rintro printed text text' - hprinted rfl
          exact .get (.pure hprinted rfl)
  | @trace label grammar grammar' start hless =>
      refine (link_agrees hvalid hless none).bind ?_
      rintro linked built built' - hlinked ⟨hmirrors, -, -⟩
      refine (parse_agrees hlinked (.traced hmirrors) chain _).bind ?_
      rintro parsed outcome _ hleads hparsed rfl
      exact .get (.pure hparsed rfl)
  | represent hless =>
      refine (link_agrees hvalid hless none).bind ?_
      rintro linked built built' - hlinked ⟨hmirrors, -, -⟩
      refine .get ((printed_agrees hlinked hmirrors).bind ?_)
      rintro printed text text' - hprinted rfl
      exact .pure hprinted rfl
  | _ => exact .pure hvalid rfl

end World

namespace Stage

variable {stage : Stage} {command command' : Command}

/-- Two sessions that read one chain, in workspaces that mirror each other. -/
structure Mirrors (stage : Stage) : Prop where
  chain : stage.plain.chain = stage.cached.chain
  world : stage.world.Valid

def fresh (stage : Stage) : World :=
  ⟨stage.image?, stage.plain.workspace.clearJournal, stage.cached.workspace.clearJournal⟩

theorem Mirrors.fresh (h : stage.Mirrors) : stage.fresh.Valid :=
  h.world.modifyJournal (fun _ => {}) (fun _ => {}) (Nat.le_refl _)

theorem leads_fresh (stage : Stage) : stage.world.Leads stage.fresh :=
  ⟨fun _ _ himage => himage, Workspace.continues_modifyJournal _ fun _ => {}⟩

/-- What two sessions have in common after they performed a command each: what was replied, and that
they mirror each other. -/
structure Performs (stage : Stage) (command command' : Command) (after : Stage) : Prop where
  plain : after.plain = (stage.plain.perform command).2
  cached : after.cached = (stage.cached.perform command').2
  output : (stage.plain.perform command).1.map Reply.output
    = (stage.cached.perform command').1.map Reply.output
  leads : stage.world.Leads after.world
  mirrors : after.Mirrors

theorem Mirrors.performs_read (h : stage.Mirrors) (source : Source) :
    ∃ after, stage.Performs (.read source) (.read source) after := by
  cases hsource : source.chain with
  | ok chain =>
      refine ⟨⟨stage.image?, ⟨stage.fresh.plain, chain⟩, ⟨stage.fresh.cached, chain⟩⟩, ?_⟩
      refine ⟨?_, ?_, ?_, stage.leads_fresh, rfl, h.fresh⟩ <;>
        simp only [Session.perform_read, hsource] <;> rfl
  | error refusal =>
      refine ⟨⟨stage.image?, ⟨stage.fresh.plain, stage.plain.chain⟩,
        ⟨stage.fresh.cached, stage.cached.chain⟩⟩, ?_⟩
      refine ⟨?_, ?_, ?_, stage.leads_fresh, h.chain, h.fresh⟩ <;>
        simp only [Session.perform_read, hsource] <;> rfl

/-- **After a command that parses or prints, two sessions replied the same and mirror each other**,
unless the second one could not print. -/
theorem Mirrors.performs (h : stage.Mirrors) (hless : command.LessCached command')
    (hreads : command.reads)
    (hprints : (stage.cached.perform command').1 ≠ .error (.fault .unprintable)) :
    ∃ after, stage.Performs command command' after := by
  by_cases hread : ∃ source, command = .read source
  · obtain ⟨source, rfl⟩ := hread
    cases hless
    exact h.performs_read source
  · have hread : ∀ source, command ≠ .read source := fun source heq => hread ⟨source, heq⟩
    have hread' : ∀ source, command' ≠ .read source := by
      rintro source rfl
      cases hless
      exact hread source rfl
    have hreads' : command'.reads := hless.reads_eq ▸ hreads
    have hplain := Session.perform_eq hreads hread stage.plain
    have hcached := Session.perform_eq hreads' hread' stage.cached
    rw [← h.chain] at hcached
    have hagrees := World.reading_agrees h.fresh hless stage.plain.chain
    unfold World.Agrees Stage.fresh at hagrees
    dsimp only at hagrees
    cases hrun : command.reading stage.plain.chain stage.plain.workspace.clearJournal with
    | ok reply plain =>
        rw [hrun] at hplain hagrees
        cases hrun' : command'.reading stage.plain.chain stage.cached.workspace.clearJournal with
        | ok reply' cached =>
            rw [hrun'] at hcached hagrees
            obtain ⟨after, rfl, rfl, hleads, hvalid, houtput⟩ := hagrees
            refine ⟨⟨after.image?, _, _⟩, (congrArg Prod.snd hplain).symm,
              (congrArg Prod.snd hcached).symm, ?_, stage.leads_fresh.trans hleads, rfl, hvalid⟩
            rw [hplain, hcached]
            exact congrArg Except.ok houtput
        | error fault' cached =>
            rw [hrun'] at hcached hagrees
            rw [hcached, hagrees] at hprints
            exact absurd rfl hprints
    | error fault plain =>
        rw [hrun] at hplain hagrees
        cases hrun' : command'.reading stage.plain.chain stage.cached.workspace.clearJournal with
        | ok reply' cached =>
            rw [hrun'] at hagrees
            exact hagrees.elim
        | error fault' cached =>
            rw [hrun'] at hcached hagrees
            rcases hagrees with rfl | ⟨rfl, after, rfl, rfl, hleads, hvalid⟩
            · rw [hcached] at hprints
              exact absurd rfl hprints
            · refine ⟨⟨after.image?, _, _⟩, (congrArg Prod.snd hplain).symm,
                (congrArg Prod.snd hcached).symm, ?_, stage.leads_fresh.trans hleads, rfl, hvalid⟩
              rw [hplain, hcached]

/-- **Two sessions reply the same over a whole history**, unless the second one cannot print, and of
what the second one has built after each command there is no more than of what the first one has. -/
theorem Mirrors.performsEach (h : stage.Mirrors) {history history' : List Command}
    (hless : List.Forall₂ Command.LessCached history history')
    (hreads : ∀ command ∈ history, command.reads) (hprints : stage.cached.Prints history') :
    stage.plain.outputs history = stage.cached.outputs history' ∧
      List.Forall₂ (fun done done' => done'.2.workspace.journal.builds.length
          ≤ done.2.workspace.journal.builds.length)
        (stage.plain.performEach history) (stage.cached.performEach history') ∧
      ∃ after : Stage, after.plain = stage.plain.after history ∧
        after.cached = stage.cached.after history' ∧ stage.world.Leads after.world ∧
        after.Mirrors := by
  induction hless generalizing stage with
  | nil => exact ⟨rfl, .nil, stage, rfl, rfl, .refl _, h⟩
  | @cons command command' history history' hcommand _ ih =>
      obtain ⟨hread, hrest⟩ := List.forall_mem_cons.1 hreads
      obtain ⟨hfirst, hlater⟩ := Session.not_mem_outputs_cons hprints
      obtain ⟨now, hnow⟩ := h.performs hcommand hread hfirst
      rw [← hnow.cached] at hlater
      obtain ⟨houtputs, hbuilds, after, hplain, hcached, hleads, hmirrors⟩ :=
        ih hnow.mirrors hrest hlater
      rw [hnow.plain, hnow.cached] at houtputs hbuilds
      rw [hnow.plain] at hplain
      rw [hnow.cached] at hcached
      refine ⟨?_, .cons ?_ hbuilds, after, hplain, hcached, hnow.leads.trans hleads, hmirrors⟩
      · rw [Session.outputs_cons, Session.outputs_cons, hnow.output, houtputs]
      · rw [← hnow.plain, ← hnow.cached]
        exact hnow.mirrors.world.builds

end Stage

end TokenGrammar
