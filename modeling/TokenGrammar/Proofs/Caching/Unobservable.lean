import TokenGrammar.Proofs.Caching.Histories

/-!
# Caching is unobservable

What may be observed of a history of parses are the outcomes. They do not depend on what is kept:
not on which parts and which modules are to be kept, since no choice is worse than keeping nothing
at all, and not on what was kept by the parses before. What does depend on it is how often parts are
built, and how often that is can be told from how often they are reached.
-/

namespace TokenGrammar

open scoped Classical

/-! ### A workspace and what becomes of it -/

theorem rel_self {α β : Type} {r : α → β → Prop} {s : β → β → Prop} {a? : Option α} {b? : Option β}
    (h : Option.Rel r a? b?) (hself : ∀ a b, r a b → s b b) : Option.Rel s b? b? := by
  cases h with
  | none => exact .none
  | some hrel => exact .some (hself _ _ hrel)

/-- A grammar that mirrors another one mirrors itself, if cells stand for themselves. -/
theorem Grammar.Mirrors.self {image? self? : Nat → Option Nat} {body? : Nat → Option Grammar}
    {grammar grammar' : Grammar} (h : grammar.Mirrors image? body? grammar')
    (himage : ∀ place place', image? place = some place' → self? place' = some place')
    (hbody : ∀ place body, body? place = some body → body.LessCached body →
      self? place = some place) : grammar'.Mirrors self? body? grammar' := by
  induction h with
  | leaf => exact .leaf
  | unary _ ih => exact .unary ih
  | binary _ _ ihfirst ihsecond => exact .binary ihfirst ihsecond
  | bind _ hnext ih => exact .bind ih fun value => (hnext value).self
  | traced _ ih => exact .traced ih
  | deferred hless => exact .deferred hless.self
  | kept hplace hless => exact .cell (hbody _ _ hplace hless.self)
  | cell hplace => exact .cell (himage _ _ hplace)
  | linked htarget => exact .linked htarget

namespace Workspace

/-- Every cell of a workspace that is the image of any cell is an image of itself later. -/
noncomputable def self? (workspace : Workspace) (place : Nat) : Option Nat :=
  if ∃ body, workspace.body? place = some body ∧ body.LessCached body then some place else none

/-- **A workspace in which nothing was built is mirrored by whatever it becomes.** -/
theorem Mirrors.ahead {image? image'? : Nat → Option Nat} {plain plain' start later : Workspace}
    (h : Mirrors image? plain start) (hunbuilt : ∀ site, start.contentAt? site = none)
    (hlater : Mirrors image'? plain' later) (hcontinues : start.Continues later)
    (hbuilds : later.journal.builds.length ≤ start.journal.builds.length) :
    Mirrors start.self? start later := by
  have hself : ∀ place body, start.body? place = some body → body.LessCached body →
      start.self? place = some place := fun place body hbody hless => if_pos ⟨body, hbody, hless⟩
  have hmirrors : ∀ grammar grammar' : Grammar, grammar.Mirrors image? start.body? grammar' →
      grammar'.Mirrors start.self? later.body? grammar' := by
    intro grammar grammar' hmirrors
    refine (hmirrors.self (fun place place' himage => ?_) hself).mono (fun _ _ h => h)
      hcontinues.bodies
    obtain ⟨_, body, -, hbody, hless⟩ := h.bodies place place' himage
    exact hself place' body hbody hless.self
  constructor
  case rules => exact hcontinues.rules.symm
  case moduleNames => exact hcontinues.moduleNames.symm
  case parsers =>
    rw [hcontinues.parsers]
    exact h.parsers.self hmirrors
  case slots_size => rw [hcontinues.slots]
  case patterns =>
    intro slot
    rw [hcontinues.pattern?]
    exact rel_self (h.patterns slot) hmirrors
  case productions =>
    intro module
    rw [hcontinues.productions?]
    exact rel_self (h.productions module) fun _ _ hnamed =>
      hnamed.self fun _ _ hless => hless.self
  case caches =>
    intro module hcache
    rwa [hcontinues.cacheSize?]
  case roomy => exact hlater.roomy
  case bodies =>
    intro place place' himage
    obtain ⟨body, hbody, hless⟩ : ∃ body, start.body? place = some body ∧ body.LessCached body := by
      by_contra hnone
      rw [self?, if_neg hnone] at himage
      cases himage
    rw [hself place body hbody hless] at himage
    cases himage
    exact ⟨body, body, hbody, hcontinues.bodies _ _ hbody, hless⟩
  -- in the first workspace neither cells nor productions have been built
  case cells =>
    intro place built hbuilt
    cases hbuilt.symm.trans (hunbuilt (.cell place))
  case contents =>
    intro module index built hbuilt
    cases hbuilt.symm.trans (hunbuilt (.production module index))
  case madeCells => exact hlater.madeCells
  case madeContents => exact hlater.madeContents
  case builds => exact hbuilds

end Workspace

/-! ### How often parts are built in a history -/

namespace Session

def entered (session : Session) (commands : List Command) : List Site :=
  (session.performEach commands).flatMap fun done => done.2.workspace.journal.entries

def built (session : Session) (commands : List Command) : List Site :=
  (session.performEach commands).flatMap fun done => done.2.workspace.journal.builds

end Session

theorem Workspace.due_perm (workspace : Workspace) {entered entered' : List Site}
    (h : entered.Perm entered') (site : Site) :
    workspace.due entered site = workspace.due entered' site := by
  simp only [due, h.count_eq, h.mem_iff]

variable {entered builds : List Site}

/-- What the journal tells of one command is remembered when the next one begins. -/
theorem Workspace.Tallies.clearJournal {workspace : Workspace}
    (h : workspace.Tallies entered builds) :
    workspace.clearJournal.Tallies (workspace.journal.entries ++ entered)
      (workspace.journal.builds ++ builds) :=
  ⟨h.roomy, h.kept, h.counted⟩

namespace Command

theorem reading_tallied (chain : Chain) (command : Command) :
    Run.Tallied entered builds (command.reading chain) := by
  have hprinted : ∀ built : Grammar,
      (do Run.demand .unprintable ((← MonadState.get).textOf? [built] built) : Run String).Respects
        Workspace.SameTally :=
    fun built => Run.Respects.get.bind fun _ => .demand _ _
  cases command with
  | parse grammar start represented =>
      refine (grammar.link_sameTally none).tallied.bind fun built => ?_
      refine (Run.tallied_parseWithin _ _ _ _ _).bind fun outcome => ?_
      cases represented with
      | false => exact (Run.Respects.get.bind fun _ => .pure _).tallied
      | true =>
          rw [if_pos rfl, ← bind_pure_comp]
          exact (((hprinted built).bind fun _ => .pure _).bind fun _ =>
            Run.Respects.get.bind fun _ => .pure _).tallied
  | trace label grammar start =>
      refine (grammar.link_sameTally none).tallied.bind fun built => ?_
      refine (Run.tallied_parseWithin _ _ _ _ _).bind fun outcome => ?_
      exact (Run.Respects.get.bind fun _ => .pure _).tallied
  | represent grammar =>
      exact ((grammar.link_sameTally none).bind fun built =>
        Run.Respects.get.bind fun _ => (Run.Respects.demand _ _).bind fun _ => .pure _).tallied
  | _ => exact (Run.Respects.pure _).tallied

end Command

namespace Session

variable {session : Session}

theorem tallies_perform (h : session.workspace.clearJournal.Tallies entered builds)
    {command : Command} (hreads : command.reads)
    (hfault : ∀ fault, (session.perform command).1 ≠ .error (.fault fault)) :
    (session.perform command).2.workspace.Tallies entered builds := by
  by_cases hread : ∃ source, command = .read source
  · obtain ⟨source, rfl⟩ := hread
    rw [perform_read]
    cases source.chain <;> exact h
  · have hread : ∀ source, command ≠ .read source := fun source heq => hread ⟨source, heq⟩
    have hperform := session.perform_eq hreads hread
    rw [hperform] at hfault ⊢
    cases hrun : command.reading session.chain session.workspace.clearJournal with
    | ok reply workspace => exact command.reading_tallied session.chain _ _ _ h hrun
    | error fault workspace =>
        rw [hrun] at hfault
        exact absurd rfl (hfault fault)

/-- **Over a history without faults, everything was built as often as it should.** -/
theorem tallied_history (h : session.workspace.clearJournal.Tallies entered builds)
    {history : List Command} (hreads : ∀ command ∈ history, command.reads)
    (hfaultless : session.Faultless history) (site : Site) :
    (session.built history ++ builds).count site
      = (session.after history).workspace.due (session.entered history ++ entered) site := by
  induction history generalizing session entered builds with
  | nil => exact h.counted site
  | cons command history ih =>
      obtain ⟨hread, hrest⟩ := List.forall_mem_cons.1 hreads
      have hfirst := tallies_perform h hread fun fault =>
        (not_mem_outputs_cons (hfaultless fault)).1
      have hcounted := ih hfirst.clearJournal hrest fun fault =>
        (not_mem_outputs_cons (hfaultless fault)).2
      -- the count goes on with the first command, and the lists begin with it
      have hperm : ∀ first rest before : List Site,
          (rest ++ (first ++ before)).Perm (first ++ rest ++ before) := by
        intro first rest before
        rw [← List.append_assoc]
        exact List.perm_append_comm.append_right before
      rw [(hperm _ _ _).count_eq, Workspace.due_perm _ (hperm _ _ _)] at hcounted
      exact hcounted

/-- What is observed of a history in a session, and how often parts are built. -/
structure KeepsUnobserved (session : Session) (setup history : List Command) : Prop where
  /-- No matter which parts and modules are to be kept, the outputs are the same. -/
  switched : ∀ setup' history', setup'.map Command.uncached = setup.map Command.uncached →
    history'.map Command.uncached = history.map Command.uncached →
    ∃ session', ({} : Session).performAll setup' = .ok session' ∧
      (session'.Prints history' → session'.outputs history' = session.outputs history)
  /-- No matter what was done before, the outputs are those of a session that was just set up. -/
  forgotten : ∀ earlier later, history = earlier ++ later →
    (session.after earlier).outputs later
      = Session.outputs { session with chain := (session.after earlier).chain } later
  /-- What is kept is built once if it is ever reached, and anything else each time it is. -/
  tallied : session.Faultless history → ∀ site,
    (session.built history).count site = session.workspace.due (session.entered history) site
  /-- If less were to be kept, then no command would build less. -/
  fewer : ∀ setup' history', List.Forall₂ Command.LessCached setup' setup →
    List.Forall₂ Command.LessCached history' history →
    ∃ session', ({} : Session).performAll setup' = .ok session' ∧
      List.Forall₂ (fun done done' => done.2.workspace.journal.builds.length
          ≤ done'.2.workspace.journal.builds.length)
        (session.performEach history) (session'.performEach history')

end Session

namespace Command

theorem forall_of_map_uncached_eq {p : Command → Bool}
    (hp : ∀ command, p command.uncached = p command) {commands commands' : List Command}
    (h : commands'.map uncached = commands.map uncached)
    (hall : ∀ command ∈ commands, p command) : ∀ command ∈ commands', p command := by
  intro command hmem
  have hmem := List.mem_map_of_mem (f := uncached) hmem
  rw [h] at hmem
  obtain ⟨other, hother, heq⟩ := List.mem_map.1 hmem
  rw [← hp, ← heq, hp]
  exact hall other hother

theorem forall_of_lessCached {p : Command → Bool}
    (hp : ∀ command command', LessCached command command' → p command = p command')
    {commands commands' : List Command} (h : List.Forall₂ LessCached commands commands')
    (hall : ∀ command ∈ commands', p command) : ∀ command ∈ commands, p command := by
  induction h with
  | nil => exact fun _ hmem => nomatch hmem
  | cons hless _ ih =>
      obtain ⟨hfirst, hrest⟩ := List.forall_mem_cons.1 hall
      rw [← hp _ _ hless] at hfirst
      exact List.forall_mem_cons.2 ⟨hfirst, ih hrest⟩

theorem forall₂_uncached {commands : List Command}
    (h : ∀ command ∈ commands, command.all Grammar.isUnshared) :
    List.Forall₂ LessCached (commands.map uncached) commands := by
  induction commands with
  | nil => exact .nil
  | cons command commands ih =>
      obtain ⟨hcommand, hrest⟩ := List.forall_mem_cons.1 h
      exact .cons (uncached_lessCached hcommand) (ih hrest)

end Command

namespace Stage

theorem exists_prepared {setup setup' : List Command}
    (hless : List.Forall₂ Command.LessCached setup setup')
    (hsetsUp : ∀ command ∈ setup', command.setsUp)
    (hsession : (({} : Session).performAll setup).isOk ∨ (({} : Session).performAll setup').isOk) :
    ∃ stage : Stage, ({} : Session).performAll setup = .ok stage.plain ∧
      ({} : Session).performAll setup' = .ok stage.cached ∧ stage.Prepared := by
  have halike := prepared_empty.performAll hless
    (Command.forall_of_lessCached (fun _ _ => Command.LessCached.setsUp_eq) hless hsetsUp)
  dsimp only at halike
  cases hplain : ({} : Session).performAll setup with
  | ok plain =>
      rw [hplain] at halike
      cases hcached : ({} : Session).performAll setup' with
      | ok cached =>
          rw [hcached] at halike
          obtain ⟨stage, rfl, rfl, hprepared⟩ := halike
          exact ⟨stage, rfl, rfl, hprepared⟩
      | error refusal' =>
          rw [hcached] at halike
          exact halike.elim
  | error refusal =>
      rw [hplain] at halike hsession
      cases hcached : ({} : Session).performAll setup' with
      | ok cached =>
          rw [hcached] at halike
          exact halike.elim
      | error refusal' =>
          rw [hcached] at hsession
          exact hsession.elim (fun h => nomatch h) fun h => nomatch h

theorem Prepared.mirroring {stage : Stage} (h : stage.Prepared) : stage.Mirrors :=
  ⟨h.chain, h.mirrors⟩

theorem Prepared.tallies {stage : Stage} (h : stage.Prepared) :
    stage.cached.workspace.clearJournal.Tallies [] [] where
  roomy := h.mirrors.roomy
  kept site := by
    have hunbuilt : stage.cached.workspace.clearJournal.contentAt? site = none :=
      h.world.unbuilt site
    rw [hunbuilt]
    exact ⟨(fun hsome => nomatch hsome), fun ⟨_, hmem⟩ => nomatch hmem⟩
  counted site := by
    unfold Workspace.due
    split <;> rfl

variable {stage : Stage} {history : List Command}

theorem Prepared.performsEach (h : stage.Prepared) (hreads : ∀ command ∈ history, command.reads)
    (hunshared : ∀ command ∈ history, command.all Grammar.isUnshared)
    (hprints : stage.cached.Prints history) :
    stage.plain.outputs (history.map Command.uncached) = stage.cached.outputs history ∧
      ∃ after : Stage, after.cached = stage.cached.after history ∧
        stage.world.Leads after.world ∧ after.Mirrors := by
  have hless := Command.forall₂_uncached hunshared
  obtain ⟨houtputs, -, after, -, hcached, hleads, hmirrors⟩ := h.mirroring.performsEach hless
    (Command.forall_of_lessCached (fun _ _ => Command.LessCached.reads_eq) hless hreads) hprints
  exact ⟨houtputs, after, hcached, hleads, hmirrors⟩

/-- **What was kept by earlier parses is of no account.** -/
theorem Prepared.forgets (h : stage.Prepared) {earlier later : List Command}
    (hreads : ∀ command ∈ earlier ++ later, command.reads)
    (hunshared : ∀ command ∈ earlier ++ later, command.all Grammar.isUnshared)
    (hprints : stage.cached.Prints (earlier ++ later)) :
    (stage.cached.after earlier).outputs later
      = Session.outputs { stage.cached with chain := (stage.cached.after earlier).chain }
        later := by
  obtain ⟨hearlier, hlater⟩ := List.forall_mem_append.1 hreads
  obtain ⟨hearlier', hlater'⟩ := List.forall_mem_append.1 hunshared
  rw [Session.Prints, Session.outputs_append, List.mem_append, not_or] at hprints
  obtain ⟨-, after, hafter, hleads, hmirrors⟩ := h.performsEach hearlier hearlier' hprints.1
  rw [← hafter] at hprints ⊢
  let start := stage.cached.workspace.clearJournal
  have hcontinues : start.Continues after.cached.workspace.clearJournal :=
    (Workspace.continues_modifyJournal start fun _ => stage.cached.workspace.journal).trans
      (hleads.cached.trans (Workspace.continues_modifyJournal _ fun _ => {}))
  let ahead : Stage := ⟨start.self?, ⟨start, after.cached.chain⟩,
    ⟨after.cached.workspace.clearJournal, after.cached.chain⟩⟩
  have hahead : ahead.Mirrors := by
    refine ⟨rfl, h.clearJournal.mirrors.ahead h.clearJournal.world.unbuilt hmirrors.fresh
      hcontinues ?_⟩
    exact Nat.le_refl 0
  have hself : List.Forall₂ Command.LessCached later later :=
    List.forall₂_same.2 fun command hmem =>
      (Command.uncached_lessCached (hlater' command hmem)).self
  have hprints : ahead.cached.Prints later := by
    rw [Session.Prints, Session.outputs_clearJournal]
    exact hprints.2
  calc after.cached.outputs later
      = ahead.cached.outputs later := (after.cached.outputs_clearJournal later).symm
    _ = ahead.plain.outputs later := (hahead.performsEach hself hlater hprints).1.symm
    _ = _ := Session.outputs_clearJournal { stage.cached with chain := after.cached.chain } later

end Stage

/-- **Caching is unobservable**: after a session was set up, neither switching what is kept nor any
earlier parse changes the output of a parse, and how often parts are built can be told from what is
kept and what is reached. -/
theorem Session.caching_unobservable {setup history : List Command} {session : Session}
    (hsetup : ∀ command ∈ setup, command.setsUp ∧ command.all Grammar.isUnshared)
    (hsession : ({} : Session).performAll setup = .ok session)
    (hhistory : ∀ command ∈ history, command.reads ∧ command.all Grammar.isUnshared)
    (hprints : session.Prints history) : session.KeepsUnobserved setup history := by
  obtain ⟨hsetsUp, hsetup⟩ := forall₂_and.1 hsetup
  obtain ⟨hreads, hhistory⟩ := forall₂_and.1 hhistory
  have hset : (({} : Session).performAll setup).isOk := by rw [hsession]; rfl
  obtain ⟨stage, hplain, hcached, hprepared⟩ :=
    Stage.exists_prepared (Command.forall₂_uncached hsetup) hsetsUp (.inr hset)
  obtain rfl := Except.ok.inj (hsession.symm.trans hcached)
  obtain ⟨houtputs, after, hafter, hleads, hmirrors⟩ :=
    hprepared.performsEach hreads hhistory hprints
  constructor
  case switched =>
    intro setup' history' hsetup' hhistory'
    have hless := Command.forall₂_uncached
      (Command.forall_of_map_uncached_eq Command.all_uncached hsetup' hsetup)
    rw [hsetup'] at hless
    obtain ⟨stage', hplain', hcached', hprepared'⟩ := Stage.exists_prepared hless
      (Command.forall_of_map_uncached_eq Command.setsUp_uncached hsetup' hsetsUp)
      (.inl (by rw [hplain]; rfl))
    -- both sessions are next to the one in which nothing is kept
    have hsame : stage.plain = stage'.plain := Except.ok.inj (hplain.symm.trans hplain')
    refine ⟨stage'.cached, hcached', fun hprints' => ?_⟩
    have houtputs' := (hprepared'.performsEach
      (Command.forall_of_map_uncached_eq Command.reads_uncached hhistory' hreads)
      (Command.forall_of_map_uncached_eq Command.all_uncached hhistory' hhistory) hprints').1
    rw [← houtputs', ← houtputs, hhistory', hsame]
  case forgotten =>
    rintro earlier later rfl
    exact hprepared.forgets hreads hhistory hprints
  case tallied =>
    intro hfaultless site
    have htallied := Session.tallied_history hprepared.tallies hreads hfaultless site
    rw [List.append_nil, List.append_nil, ← hafter] at htallied
    have hkeeps : after.cached.workspace.keepsAt site = stage.cached.workspace.keepsAt site :=
      Workspace.keepsAt_congr hleads.cached.cacheSize? site
    rw [htallied, Workspace.due, Workspace.due, hkeeps]
  case fewer =>
    intro setup' history' hless hless'
    obtain ⟨less, hless, hcached', hprepared'⟩ := Stage.exists_prepared hless hsetsUp (.inr hset)
    have hsame : less.cached = stage.cached := Except.ok.inj (hcached'.symm.trans hcached)
    rw [← hsame] at hprints ⊢
    have hreads' :=
      Command.forall_of_lessCached (fun _ _ => Command.LessCached.reads_eq) hless' hreads
    exact ⟨less.plain, hless, (hprepared'.mirroring.performsEach hless' hreads' hprints).2.1.flip⟩

/-- A cached module of two productions, and one of them as a part that is built once. -/
private def pairSetup : List Command :=
  [.define "letters" [("letter", .leaf (.literal "a")),
      ("pair", .binary .seq (.named (.sibling "letter")) (.named (.sibling "letter")))] true,
    .store "word" (.deferredOnce (.named (.production "letters" "pair")))]

/-- Two letters, which are parsed twice. -/
private def pairHistory : List Command :=
  let token : Token := ⟨"letter", "a", ⟨0, 1, 1, 1, 2⟩⟩
  [.read (.listed #[token, token]), .parse (.named (.parser "word")) 0 false,
    .parse (.named (.parser "word")) 0 false]

/-- The first parse builds the part and both productions, and the second one nothing. -/
theorem Session.caching_unobservable_pair :
    ∃ setup history session, ({} : Session).performAll setup = .ok session ∧
      session.Faultless history ∧
      (session.performEach history).map (·.2.workspace.journal.builds.length) = [0, 3, 0] ∧
      session.KeepsUnobserved setup history := by
  obtain ⟨session, hsession⟩ : ∃ session, ({} : Session).performAll pairSetup = .ok session :=
    ⟨_, rfl⟩
  have hbuilds : (session.performEach pairHistory).map (·.2.workspace.journal.builds.length)
      = [0, 3, 0] := by
    cases hsession
    rfl
  have hfaultless : session.Faultless pairHistory := by
    have hok : (session.outputs pairHistory).all (·.isOk) := by
      cases hsession
      rfl
    exact fun fault hmem => nomatch List.all_eq_true.1 hok _ hmem
  refine ⟨pairSetup, pairHistory, session, hsession, hfaultless, hbuilds, ?_⟩
  exact Session.caching_unobservable (by decide) hsession (by decide) (hfaultless .unprintable)

end TokenGrammar
