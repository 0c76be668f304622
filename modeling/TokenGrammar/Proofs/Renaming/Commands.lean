import TokenGrammar.Proofs.Parses
import TokenGrammar.Proofs.Renaming.Runs

/-!
# Sessions in step

Two sessions that read the same chain in a workspace and in its image reply the same to every
command, and are such sessions again after it. Commands themselves name what they are about and hold
no links, so they are the same on both sides, unless traced parts are left out.
-/

namespace TokenGrammar

/-- A command about translated grammars. Where traces are left out, tracing a parse is parsing. -/
def Command.translate (t : Translation) : Command → Command
  | .setRule name pattern => .setRule name (pattern.translate t)
  | .store name grammar => .store name (grammar.translate t)
  | .define name definitions cached => .define name (definitions.map t.production) cached
  | .storeOnly name definitions production =>
      .storeOnly name (definitions.map t.production) production
  | .parse grammar start represented => .parse (grammar.translate t) start represented
  | .trace label grammar start =>
      if t.traces then .trace label (grammar.translate t) start
      else .parse (grammar.translate t) start false
  | .represent grammar => .represent (grammar.translate t)
  | command => command

theorem Grammar.translate_of_isUnlinked {t : Translation} (htraces : t.traces) {grammar : Grammar}
    (h : grammar.all isUnlinked) : grammar.translate t = grammar := by
  refine grammar.translate_eq_self t htraces (grammar.all_imp (fun occurring hunlinked => ?_) h)
  cases occurring with
  | linked target => cases hunlinked
  | _ => rfl

theorem Command.translate_eq_self {t : Translation} (htraces : t.traces) {command : Command}
    (h : command.all Grammar.isUnlinked) : command.translate t = command := by
  have hsame (grammar : Grammar) (hgrammar : grammar.all Grammar.isUnlinked) :=
    Grammar.translate_of_isUnlinked htraces hgrammar
  have hdefinitions (definitions : List (String × Grammar))
      (hall : definitions.all fun definition => definition.2.all Grammar.isUnlinked) :
      definitions.map t.production = definitions := by
    refine (List.map_congr_left fun definition hmem => ?_).trans (List.map_id _)
    exact Prod.ext rfl (hsame definition.2 (List.all_eq_true.1 hall definition hmem))
  cases command with
  | setRule name pattern => exact congrArg (Command.setRule name) (hsame pattern h)
  | store name grammar => exact congrArg (Command.store name) (hsame grammar h)
  | define name definitions cached =>
      rw [Command.translate, hdefinitions definitions h]
  | storeOnly name definitions production =>
      rw [Command.translate, hdefinitions definitions h]
  | parse grammar start represented => rw [Command.translate, hsame grammar h]
  | trace label grammar start => rw [Command.translate, if_pos htraces, hsame grammar h]
  | represent grammar => exact congrArg Command.represent (hsame grammar h)
  | _ => rfl

namespace Translation

/-- Whether a session goes on in an image of the workspace of another one, with the same chain. -/
structure CarriesSession (t : Translation) (session image : Session) : Prop where
  workspace : t.Carries session.workspace image.workspace
  chain : image.chain = session.chain

def Refuses (excused : Fault → Prop) (refusal : Refusal) : Prop :=
  ∃ fault, refusal = .fault fault ∧ excused fault

/-- That a step in a session is in step with another one in an image of the session, but for some
faults. -/
def Performs {α : Type} (t : Translation) (excused : Fault → Prop) (step step' : Step α)
    (image : α → α) : Prop :=
  InStep t.CarriesSession (Refuses excused) (fun value value' => value' = image value) step step'

variable {t : Translation} {excused : Fault → Prop} {α β : Type}

theorem Performs.bind {step step' : Step α} {next next' : α → Step β} {f : α → α} {g : β → β}
    (h : t.Performs excused step step' f)
    (hnext : ∀ value, t.Performs excused (next value) (next' (f value)) g) :
    t.Performs excused (step >>= next) (step' >>= next') g :=
  InStep.bind h fun value _ heq => heq ▸ hnext value

theorem performs_pure {value value' : α} {image : α → α} (h : value' = image value) :
    t.Performs excused (pure value) (pure value') image :=
  InStep.pure h

theorem performs_throw (refusal : Refusal) (image : α → α) :
    t.Performs excused (throw refusal) (throw refusal) image :=
  InStep.throw refusal

theorem performs_ofRun {run run' : Run α} {image : α → α} (h : t.Steps excused run run' image) :
    t.Performs excused (Step.ofRun run) (Step.ofRun run') image := by
  intro session now hcarries
  have hlands := h _ _ hcarries.workspace
  unfold InStepFrom Lands Step.ofRun at *
  cases hrun : run session.workspace with
  | ok value after =>
      rw [hrun] at hlands
      obtain ⟨value', after', hrun', hvalue, hafter⟩ := hlands
      refine ⟨value', { now with workspace := after' }, ?_, hvalue, hafter, hcarries.chain⟩
      simp only [hrun']
  | error fault after =>
      rw [hrun] at hlands
      refine hlands.imp (fun hexcused => ⟨fault, rfl, hexcused⟩) ?_
      rintro ⟨after', hrun', hafter⟩
      refine ⟨{ now with workspace := after' }, ?_, hafter, hcarries.chain⟩
      simp only [hrun']

theorem performs_modify {change change' : Workspace → Workspace}
    (h : ∀ workspace image, t.Carries workspace image →
      t.Carries (change workspace) (change' image)) :
    t.Performs excused (Step.modifyWorkspace change) (Step.modifyWorkspace change') id :=
  (InStep.modify fun _ _ hcarries => ⟨h _ _ hcarries.workspace, hcarries.chain⟩).imp
    fun _ _ _ => rfl

theorem performs_modify_reply {change change' : Workspace → Workspace} {reply : Reply}
    (h : ∀ workspace image, t.Carries workspace image →
      t.Carries (change workspace) (change' image)) :
    t.Performs excused (Step.modifyWorkspace change >>= fun _ => pure reply)
      (Step.modifyWorkspace change' >>= fun _ => pure reply) id :=
  (performs_modify h).bind fun _ => performs_pure rfl

theorem performs_workspace {next next' : Workspace → Step α} {image : α → α}
    (h : ∀ workspace now, t.Carries workspace now →
      t.Performs excused (next workspace) (next' now) image) :
    t.Performs excused (Step.workspace >>= next) (Step.workspace >>= next') image := by
  have hget (next : Workspace → Step α) :
      Step.workspace >>= next = get >>= fun session => next session.workspace := by
    rw [Step.workspace, bind_assoc]
    rfl
  rw [hget, hget]
  exact InStep.get fun session now hcarries => h _ _ hcarries.workspace

theorem performs_slotOf (name : String) :
    t.Performs excused (Step.slotOf name) (Step.slotOf name) id :=
  performs_workspace fun workspace image hcarries => by
    rw [hcarries.rules]
    exact performs_ofRun (steps_demand (Option.map_id' ..).symm)

theorem performs_moduleOf (name production : String) :
    t.Performs excused (Step.moduleOf name production) (Step.moduleOf name production) id :=
  performs_workspace fun workspace image hcarries => by
    rw [hcarries.moduleNames]
    exact performs_ofRun (steps_demand (Option.map_id' ..).symm)

theorem performs_addModule (definitions : List (String × Grammar)) (cached : Bool) :
    t.Performs excused (Step.addModule definitions cached)
      (Step.addModule (definitions.map t.production) cached) id :=
  performs_workspace fun workspace image hcarries => by
    rw [hcarries.modules_size]
    refine Performs.bind (performs_modify fun _ _ hnow => hnow.addModule definitions cached) ?_
    exact fun _ => performs_pure rfl

theorem performs_storeProductionOf (place : Nat) (production name : String) :
    t.Performs excused (Step.storeProductionOf place production name)
      (Step.storeProductionOf place production name) id :=
  performs_workspace fun workspace image hcarries => by
    rw [hcarries.indices]
    cases workspace.productionIndex? place production with
    | none => exact performs_throw _ id
    | some index =>
        exact performs_modify_reply fun _ _ hnow =>
          hnow.storeParser name (.linked (.production place index))

theorem performs_link (grammar : Grammar) :
    t.Performs excused (Step.ofRun (grammar.link none))
      (Step.ofRun ((grammar.translate t).link none)) (·.translate t) :=
  performs_ofRun (steps_link none grammar)

theorem performs_representationOf (grammar : Grammar) :
    t.Performs excused (Step.representationOf grammar)
      (Step.representationOf (grammar.translate t)) id :=
  performs_workspace fun workspace image hcarries => by
    have htext := hcarries.textOf? [grammar] grammar
    rw [List.map_singleton] at htext
    rw [htext]
    exact performs_ofRun (steps_demand (Option.map_id' ..).symm)

theorem performs_parseWith {grammar grammar' : Grammar}
    (h : (t.correspondence excused).Parsers grammar.parse grammar'.parse) (start : Nat) :
    t.Performs excused (Step.parseWith grammar start) (Step.parseWith grammar' start) id :=
  InStep.get fun session now hcarries => by
    rw [hcarries.chain]
    exact performs_ofRun (h session.chain _)

theorem parse_translate (hexcused : t.traces = false → excused .unprintable) (grammar : Grammar) :
    (t.correspondence excused).Parsers grammar.parse (grammar.translate t).parse :=
  parseWithin_enters (tracesInStep_traced hexcused) Grammar.depthLimit [grammar] grammar

theorem performs_parsed (outcome : Outcome Value) (text? : Option String) :
    t.Performs excused
      (do return Reply.parsed outcome (← Step.workspace).journal.builds.length text?)
      (do return Reply.parsed outcome (← Step.workspace).journal.builds.length text?) id :=
  performs_workspace fun workspace image hcarries => by
    rw [hcarries.journal]
    exact performs_pure (by simp [Translation.journal])

theorem performs_represented (built : Grammar) (outcome : Outcome Value) (represented : Bool) :
    t.Performs excused
      (do
        let text? ← if represented then some <$> Step.representationOf built else pure none
        return Reply.parsed outcome (← Step.workspace).journal.builds.length text?)
      (do
        let text? ← if represented then some <$> Step.representationOf (built.translate t)
          else pure none
        return Reply.parsed outcome (← Step.workspace).journal.builds.length text?) id := by
  cases represented with
  | false => exact performs_parsed outcome none
  | true =>
      have htext : t.Performs excused (some <$> Step.representationOf built)
          (some <$> Step.representationOf (built.translate t)) id := by
        rw [← bind_pure_comp, ← bind_pure_comp]
        exact (performs_representationOf built).bind fun text => performs_pure rfl
      exact htext.bind fun text? => performs_parsed outcome text?

/-- **A command is in step with the translated command**, where a parse that cannot print a traced
part is excused if nothing is traced any more. -/
theorem performs_command {command : Command}
    (hexcused : t.traces = false → command.parsed?.isSome → excused .unprintable) :
    t.Performs excused command.perform (command.translate t).perform id := by
  cases command with
  | read source =>
      refine Performs.bind (f := id) ?_ fun chain => ?_
      · cases source.chain with
        | ok chain => exact performs_pure rfl
        | error refusal => exact performs_throw refusal id
      · refine Performs.bind (f := id) ?_ fun _ => performs_pure rfl
        exact (InStep.modify fun _ _ hcarries => ⟨hcarries.workspace, rfl⟩).imp fun _ _ _ => rfl
  | openRule name => exact performs_modify_reply fun _ _ hnow => hnow.openRule name
  | setRule name pattern =>
      refine (performs_slotOf name).bind fun slot => (performs_link pattern).bind fun built => ?_
      refine performs_workspace fun workspace image hcarries => ?_
      rw [id, hcarries.patterns, Option.isSome_map]
      split
      · exact performs_throw _ id
      · exact performs_modify_reply fun _ _ hnow => hnow.fillSlot slot built
  | isSet name =>
      refine performs_workspace fun workspace image hcarries => ?_
      refine (performs_slotOf name).bind fun slot => ?_
      rw [id, hcarries.patterns, Option.isSome_map]
      exact performs_pure rfl
  | dropRule name =>
      refine performs_workspace fun workspace image hcarries => ?_
      rw [hcarries.rules]
      refine performs_modify_reply fun workspace' image' hnow => ?_
      rw [hnow.rules]
      exact hnow.withRules _
  | store name grammar =>
      refine (performs_link grammar).bind fun built => ?_
      exact performs_modify_reply fun _ _ hnow => hnow.storeParser name built
  | dropParser name =>
      refine performs_workspace fun workspace image hcarries => ?_
      rw [hcarries.find?_parsers, Option.isSome_map]
      exact performs_modify_reply fun _ _ hnow => hnow.dropParser name
  | define name definitions cached =>
      refine (performs_addModule definitions cached).bind fun place => ?_
      have hnames : (Productions.ofDefinitions (definitions.map t.production)).names
          = (Productions.ofDefinitions definitions).names := by
        rw [t.ofDefinitions_map, Productions.names, List.map_map]
        rfl
      rw [id, hnames]
      refine performs_modify_reply fun workspace image hnow => ?_
      rw [hnow.moduleNames]
      exact hnow.withModuleNames _
  | storeOnly name definitions production =>
      refine (performs_addModule definitions false).bind fun place => ?_
      exact performs_storeProductionOf place production name
  | has module production =>
      refine (performs_moduleOf module production).bind fun place => ?_
      refine performs_workspace fun workspace image hcarries => ?_
      rw [id, hcarries.indices, Option.isSome_map]
      exact performs_pure rfl
  | storeProduction name module production =>
      refine (performs_moduleOf module production).bind fun place => ?_
      exact performs_storeProductionOf place production name
  | dropModule name =>
      refine performs_workspace fun workspace image hcarries => ?_
      rw [hcarries.moduleNames]
      refine performs_modify_reply fun workspace' image' hnow => ?_
      rw [hnow.moduleNames]
      exact hnow.withModuleNames _
  | parse grammar start represented =>
      refine (performs_link grammar).bind fun built => ?_
      exact (performs_parseWith (parse_translate (hexcused · rfl) built) start).bind fun outcome =>
        performs_represented built outcome represented
  | trace label grammar start =>
      have hparse (built : Grammar) : (t.correspondence excused).Parsers
          (Grammar.traced label built).parse (t.trace label (built.translate t)).parse :=
        parse_translate (hexcused · rfl) (.traced label built)
      have hcommand : ((Command.trace label grammar start).translate t).perform
          = (do
            let built ← Step.ofRun ((grammar.translate t).link none)
            let outcome ← Step.parseWith (t.trace label built) start
            return .parsed outcome (← Step.workspace).journal.builds.length none) := by
        simp only [Command.translate, Translation.trace]
        split <;> rfl
      rw [hcommand]
      refine (performs_link grammar).bind fun built => ?_
      exact (performs_parseWith (hparse built) start).bind fun outcome =>
        performs_parsed outcome none
  | represent grammar =>
      refine (performs_link grammar).bind fun built => ?_
      exact (performs_representationOf built).bind fun text => performs_pure rfl

/-! ### Histories -/

variable {session image : Session}

theorem CarriesSession.cleared (h : t.CarriesSession session image) :
    t.CarriesSession session.cleared image.cleared :=
  ⟨h.workspace.clearJournal, h.chain⟩

theorem attempt_of_inStepFrom {step step' : Step Reply}
    (h : InStepFrom t.CarriesSession (Refuses fun _ => False) (fun reply reply' => reply' = reply)
      step step' session.cleared image.cleared) :
    (image.attempt step').1 = (session.attempt step).1 ∧
      t.CarriesSession (session.attempt step).2 (image.attempt step').2 := by
  unfold InStepFrom Lands at h
  unfold Session.attempt
  cases hrun : step session.cleared with
  | ok reply after =>
      rw [hrun] at h
      obtain ⟨_, after', hrun', rfl, hafter⟩ := h
      rw [hrun']
      exact ⟨rfl, hafter⟩
  | error refusal after =>
      rw [hrun] at h
      obtain ⟨after', hrun', hafter⟩ := h.resolve_left fun ⟨_, _, hexcused⟩ => hexcused
      rw [hrun']
      exact ⟨rfl, hafter⟩

/-- Whether two sessions reply the same to a command, and are in step after it. -/
def Agrees (t : Translation) (session image : Session) (command : Command) : Prop :=
  (image.perform (command.translate t)).1 = (session.perform command).1 ∧
    t.CarriesSession (session.perform command).2 (image.perform (command.translate t)).2

/-- **Sessions in step reply the same**, but for parses where traced parts are left out. -/
theorem CarriesSession.agrees (h : t.CarriesSession session image) {command : Command}
    (hcommand : t.traces = false → command.parsed? = none) : t.Agrees session image command :=
  attempt_of_inStepFrom (performs_command
    (fun htraces hparses => by simp [hcommand htraces] at hparses) _ _ h.cleared)

/-- Sessions that agree on each command agree on all of them, one after the other. -/
theorem CarriesSession.performEach {p : Session → Command → Prop}
    (hagrees : ∀ session image command, t.CarriesSession session image → p session command →
      t.Agrees session image command)
    (h : t.CarriesSession session image) {commands : List Command} (hp : session.Each p commands) :
    List.Forall₂ (fun done done' => done'.1 = done.1 ∧ t.CarriesSession done.2 done'.2)
      (session.performEach commands) (image.performEach (commands.map (·.translate t))) := by
  induction commands generalizing session image with
  | nil => exact .nil
  | cons command commands ih =>
      have hnow := hagrees session image command h hp.1
      exact .cons hnow (ih hnow.2 hp.2)

theorem CarriesSession.traceText (h : t.CarriesSession session image) (htraces : t.traces) :
    image.traceText = session.traceText := by
  rw [Session.traceText, h.workspace.journal, h.chain, Session.traceText]
  simp [Journal.traceText, Translation.journal, htraces]

end Translation

end TokenGrammar
