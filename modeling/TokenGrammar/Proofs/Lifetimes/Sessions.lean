import TokenGrammar.Proofs.Definitions
import TokenGrammar.Proofs.Holding
import TokenGrammar.Proofs.Lifetimes.Operations

/-!
# Lifetimes in sessions

A session goes through instants: the steps of its parses, and the ends of its operations. Something
is destroyed at an instant when the last clone of it is gone, and what was destroyed once stays so.
It is enough to look at an instant itself to see what was destroyed by then, since nothing ever
comes back to life, from the beginning of the session on and through all of its instants.

So a handle can be followed exactly as long as its rule was not destroyed, and a reference as long
as its module was not, and what a grammar keeps that is being parsed is not destroyed meanwhile.
-/

namespace TokenGrammar

/-! ### Instants -/

/-- An instant in the course of a session. -/
inductive Instant where
  | visit (parse : Parse) (visit : Visit)
  | rest (workspace : Workspace)

def Instant.moment : Instant → Moment
  | visit _ step => step.moment
  | rest workspace => ⟨[], workspace⟩

namespace Session

def parseOf? (session : Session) : Operation → Option Parse
  | .command asked => session.parse? asked
  | .cloneRule _ _ | .cloneModule _ _ => none

def instants (session : Session) (operation : Operation) : List Instant :=
  match session.parseOf? operation with
  | some parse => parse.visits.map (.visit parse)
  | none => []

def course (session : Session) : List Operation → List Instant
  | [] => []
  | operation :: operations =>
      session.instants operation ++ .rest (session.operate operation).2.workspace ::
        course (session.operate operation).2 operations

end Session

/-! ### Parses -/

namespace Parse

variable {parse : Parse} {after : Workspace}

/-- That a parse leaves a sound workspace behind, and how it gets there. -/
structure Survives (parse : Parse) (after : Workspace) : Prop where
  sound : after.Sound
  through : (⟨[parse.grammar], parse.before⟩ : Moment).LeadsThrough
    (parse.visits.map Visit.moment) ⟨[], after⟩
  visits : ∀ visit ∈ parse.visits, visit.IsAdmitted ∧ parse.grammar ∈ visit.held

theorem survives_of_course {diary : Diary} {held : List Grammar}
    (hvisits : parse.grammar.visits Grammar.depthLimit [parse.grammar] parse.chain parse.start
      parse.before = diary.visits)
    (hsound : diary.workspace.Sound)
    (hcourse : Diary.Course { workspace := parse.before } diary [parse.grammar] held) :
    parse.Survives diary.workspace := by
  obtain ⟨visits, hdiary, hthrough, hadmitted⟩ := hcourse
  have hall : parse.visits = visits := by
    rw [Parse.visits, hvisits, hdiary]
    simp
  rw [← hall] at hthrough hadmitted
  have hleaves : (⟨held, diary.workspace⟩ : Moment).LeadsThrough [] ⟨[], diary.workspace⟩ :=
    Moment.leads_nil held diary.workspace
  have hend := hthrough.append hleaves
  rw [List.append_nil] at hend
  exact ⟨hsound, hend, fun visit hvisit =>
    ⟨(hadmitted visit hvisit).1, (hadmitted visit hvisit).2 _ (List.mem_singleton_self _)⟩⟩

theorem result_of_mem_visits {visit : Visit} (hvisit : visit ∈ parse.visits) {fault : Fault}
    (hfault : visit.result = .error fault after) : parse.result = .error fault after :=
  Grammar.error_of_mem_visits (List.mem_reverse.1 hvisit) hfault

/-- **However a parse ends, nothing comes back to life on the way.** -/
theorem survives (hsound : parse.before.Sound)
    (hadmits : parse.before.Admits [parse.grammar] parse.grammar) :
    Lands (parse.grammar.parse parse.chain parse.start) parse.before
      (fun _ => parse.Survives) fun _ => parse.Survives := by
  have hsurvives := Grammar.watchWithin_survives Grammar.depthLimit [parse.grammar] parse.grammar
    parse.chain parse.start { workspace := parse.before } hsound hadmits
  have hreflects := parse.grammar.watchWithin_reflects Grammar.depthLimit [parse.grammar]
    parse.chain parse.start { workspace := parse.before }
  unfold Lands Grammar.parse
  cases hwatched : parse.grammar.watchWithin Grammar.depthLimit [parse.grammar] parse.chain
      parse.start { workspace := parse.before } with
  | ok outcome diary =>
      rw [(hreflects.of_ok hwatched).1]
      obtain ⟨hafter, _, hcourse, _⟩ := Lands.of_ok hsurvives hwatched
      exact survives_of_course (by rw [Grammar.visits, hwatched]) hafter hcourse
  | error fault diary =>
      rw [(hreflects.of_error hwatched).1]
      obtain ⟨hafter, hcourse⟩ := Lands.of_error hsurvives hwatched
      exact survives_of_course (by rw [Grammar.visits, hwatched]) hafter hcourse

end Parse

/-! ### Operations -/

/-- That a step of a parse could be entered, while the grammar that is parsed was held. -/
def Instant.IsSound : Instant → Prop
  | visit parse step => step ∈ parse.visits ∧ step.IsAdmitted ∧ parse.grammar ∈ step.held
  | rest _ => True

theorem Command.wraps_of_parsed? {command : Command} {grammar : Grammar}
    {wrap : Grammar → Grammar} {start : Nat} (h : command.parsed? = some (grammar, wrap, start)) :
    wrap = id ∨ ∃ label, wrap = .traced label := by
  cases command with
  | parse => cases h; exact .inl rfl
  | trace label => cases h; exact .inr ⟨label, rfl⟩
  | _ => cases h

theorem Workspace.Admits.wrap {workspace : Workspace} {built : Grammar} {wrap : Grammar → Grammar}
    (h : workspace.Admits [built] built) (hwrap : wrap = id ∨ ∃ label, wrap = .traced label) :
    workspace.Admits [wrap built] (wrap built) ∧ (wrap built).keeps = built.keeps := by
  obtain rfl | ⟨label, rfl⟩ := hwrap
  · exact ⟨h, rfl⟩
  · have hstands : (Grammar.traced label built).Stands workspace.hasTarget :=
      ⟨h.stands.isBuilt, Bool.and_eq_true_iff.2 ⟨rfl, h.stands.leads⟩⟩
    exact ⟨.of_mem hstands h.weak List.mem_cons_self, rfl⟩

namespace Session

variable {session : Session} {operation : Operation}

structure Survives (session : Session) (operation : Operation) : Prop where
  sound : (session.operate operation).2.workspace.Sound
  through : (⟨[], session.workspace⟩ : Moment).LeadsThrough
    ((session.instants operation).map Instant.moment)
    ⟨[], (session.operate operation).2.workspace⟩
  instants : ∀ instant ∈ session.instants operation, instant.IsSound

theorem Survives.of_leads (hparse : session.parseOf? operation = none)
    (hsound : (session.operate operation).2.workspace.Sound)
    (hleads : (⟨[], session.workspace⟩ : Moment).Leads
      ⟨[], (session.operate operation).2.workspace⟩) : session.Survives operation := by
  have hnone : session.instants operation = [] := by rw [Session.instants, hparse]
  refine ⟨hsound, ?_, ?_⟩ <;> rw [hnone]
  · exact hleads
  · exact fun _ hmem => nomatch hmem

theorem Survives.of_parse {asked : Command} {parse : Parse}
    (hparse : session.parse? asked = some parse)
    (hleads : (⟨[], session.workspace⟩ : Moment).Leads ⟨[parse.grammar], parse.before⟩)
    (hsound : parse.before.Sound) (hadmits : parse.before.Admits [parse.grammar] parse.grammar) :
    session.Survives (.command asked) := by
  have hinstants : session.instants (.command asked) = parse.visits.map (.visit parse) := by
    rw [Session.instants, parseOf?, hparse]
  have hmoments : (session.instants (.command asked)).map Instant.moment
      = parse.visits.map Visit.moment := by
    rw [hinstants, List.map_map]
    rfl
  have hsurvives : parse.Survives (session.operate (.command asked)).2.workspace := by
    have hlands := parse.survives hsound hadmits
    cases hresult : parse.result with
    | ok outcome after =>
        rw [operate_command, (perform_of_parse_ok hparse hresult).1]
        exact Lands.of_ok hlands hresult
    | error fault after =>
        rw [operate_command, perform_of_parse_error hparse hresult]
        exact Lands.of_error hlands hresult
  refine ⟨hsurvives.sound, ?_, fun instant hinstant => ?_⟩
  · rw [hmoments]
    exact .after hleads hsurvives.through
  · rw [hinstants] at hinstant
    obtain ⟨visit, hvisit, rfl⟩ := List.mem_map.1 hinstant
    exact ⟨hvisit, hsurvives.visits visit hvisit⟩

theorem survives_of_unparsed (h : session.workspace.Sound)
    (hoperation : operation.all Grammar.isUnlinked) (hparsed : operation.parsed? = none) :
    session.Survives operation := by
  have hcleared : session.cleared.workspace.Sound := h.modifyJournal fun _ => {}
  have hupholds := operation.perform_upholds hcleared.weak hoperation hparsed
  have hafter : (session.operate operation).2.workspace.PutsOffWeakly ∧
      (⟨[], session.cleared.workspace⟩ : Moment).Leads
        ⟨[], (session.operate operation).2.workspace⟩ := by
    unfold Session.operate Session.attempt
    cases hrun : operation.perform session.cleared with
    | ok reply after => exact ⟨(Lands.of_ok hupholds hrun).1, (Lands.of_ok hupholds hrun).2.1⟩
    | error refusal after => exact Lands.of_error hupholds hrun
  refine .of_leads ?_ ⟨Session.wellLinked_operate h.wellLinked hoperation, hafter.1⟩
    ((Moment.leads_modifyJournal [] session.workspace fun _ => {}).trans hafter.2)
  cases operation with
  | command asked =>
      have hparsed : asked.parsed? = none := hparsed
      simp [parseOf?, Session.parse?, hparsed]
  | cloneRule | cloneModule => rfl

theorem survives_of_parsed {asked : Command} {grammar : Grammar} {wrap : Grammar → Grammar}
    {start : Nat} (h : session.workspace.Sound) (hgrammar : grammar.all Grammar.isUnlinked)
    (hparsed : asked.parsed? = some (grammar, wrap, start)) :
    session.Survives (.command asked) := by
  have hcleared : session.workspace.clearJournal.Sound := h.modifyJournal fun _ => {}
  have hclears : (⟨[], session.workspace⟩ : Moment).Leads ⟨[], session.workspace.clearJournal⟩ :=
    Moment.leads_modifyJournal [] session.workspace fun _ => {}
  have hlink : (grammar.link none).Proceeds [] session.workspace.clearJournal _ _ :=
    Run.proceeds_link hcleared (Grammar.leads_of_isUnlinked hgrammar)
      (Grammar.leads_of_isUnlinked hgrammar)
  cases hrun : grammar.link none session.workspace.clearJournal with
  | error fault after =>
      obtain ⟨hsound, hleads⟩ := Lands.of_error hlink hrun
      have hoperate := perform_of_link_error hparsed hrun
      rw [← operate_command] at hoperate
      have hparse : session.parseOf? (.command asked) = none := parse?_of_link_error hparsed hrun
      refine .of_leads hparse ?_ ?_ <;> rw [hoperate]
      · exact hsound
      · exact hclears.trans hleads
  | ok built before =>
      obtain ⟨hsound, _, hleads, hadmits, _⟩ := Lands.of_ok hlink hrun
      obtain ⟨hadmits, hkeeps⟩ := hadmits.wrap (Command.wraps_of_parsed? hparsed)
      have hparse := parse?_eq_some_iff.2 ⟨_, _, _, _, _, hparsed, hrun, rfl⟩
      refine .of_parse hparse (hclears.trans (hleads.trans ?_)) hsound hadmits
      refine Moment.leads_of_roots fun keepable hroot => Moment.isAlive_of_isRoot ?_
      rw [Workspace.isRoot_cons_iff, hkeeps, ← Workspace.isRoot_cons_iff] at hroot
      exact hroot

/-- **An operation brings nothing back to life**, be it that it parses or not. -/
theorem survives (h : session.workspace.Sound) (hoperation : operation.all Grammar.isUnlinked) :
    session.Survives operation := by
  cases hparsed : operation.parsed? with
  | none => exact survives_of_unparsed h hoperation hparsed
  | some parsed =>
      cases operation with
      | cloneRule | cloneModule => cases hparsed
      | command asked =>
          refine survives_of_parsed h ?_ hparsed
          cases asked with
          | parse | trace => cases hparsed; exact hoperation
          | _ => cases hparsed

/-! ### Courses -/

/-- **Nothing comes back to life in the course of a session**, by induction on the operations. -/
theorem leadsThrough_course {session : Session} {operations : List Operation}
    (h : session.workspace.Sound)
    (hoperations : ∀ operation ∈ operations, operation.all Grammar.isUnlinked) :
    (⟨[], session.workspace⟩ : Moment).LeadsThrough
      ((session.course operations).map Instant.moment)
      ⟨[], (session.operated operations).workspace⟩ := by
  induction operations generalizing session with
  | nil => exact Moment.Leads.refl _
  | cons operation operations ih =>
      obtain ⟨hoperation, hrest⟩ := List.forall_mem_cons.1 hoperations
      have hsurvives := survives h hoperation
      rw [course, List.map_append, List.map_cons]
      refine hsurvives.through.append ?_
      exact ⟨Moment.Leads.refl _, ih hsurvives.sound hrest⟩

theorem isSound_of_mem_course {session : Session} {operations : List Operation}
    (h : session.workspace.Sound)
    (hoperations : ∀ operation ∈ operations, operation.all Grammar.isUnlinked) {instant : Instant}
    (hinstant : instant ∈ session.course operations) : instant.IsSound := by
  induction operations generalizing session with
  | nil => cases hinstant
  | cons operation operations ih =>
      obtain ⟨hoperation, hrest⟩ := List.forall_mem_cons.1 hoperations
      have hsurvives := survives h hoperation
      obtain hinstant | hinstant := List.mem_append.1 hinstant
      · exact hsurvives.instants instant hinstant
      · obtain rfl | hinstant := List.mem_cons.1 hinstant
        · trivial
        · exact ih hsurvives.sound hrest hinstant

theorem sound_operated {session : Session} {operations : List Operation}
    (h : session.workspace.Sound)
    (hoperations : ∀ operation ∈ operations, operation.all Grammar.isUnlinked) :
    (session.operated operations).workspace.Sound :=
  operated_induction (motive := fun session => session.workspace.Sound) h
    fun _ h operation hmem => (survives h (hoperations operation hmem)).sound

/-- **What every operation keeps, and every step of its parse, holds in the whole course.** -/
theorem invariant_of_mem_course {invariant : Workspace → Prop} {session : Session}
    {operations : List Operation} (h : Workspace.CommandInvariant invariant)
    (hrules : ∀ {workspace : Workspace} rules, invariant workspace →
      invariant { workspace with rules })
    (hslots : ∀ {workspace} slot built, invariant workspace →
      invariant (workspace.fillSlot slot built))
    (hsession : invariant session.workspace) {instant : Instant}
    (hinstant : instant ∈ session.course operations) : invariant instant.moment.workspace := by
  induction operations generalizing session with
  | nil => cases hinstant
  | cons operation operations ih =>
      have hcleared : invariant session.workspace.clearJournal :=
        h.modifyJournal (fun _ => {}) hsession
      have hafter : invariant (session.operate operation).2.workspace :=
        attempt_of_keeps invariant (h.keeps hrules hslots operation) hcleared
      obtain hinstant | hinstant := List.mem_append.1 hinstant
      · cases hparse : session.parseOf? operation with
        | none => rw [instants, hparse] at hinstant; cases hinstant
        | some parse =>
            rw [instants, hparse] at hinstant
            obtain ⟨visit, hvisit, rfl⟩ := List.mem_map.1 hinstant
            refine h.toInvariant.of_mem_visits ?_ hvisit
            cases operation with
            | cloneRule | cloneModule => cases hparse
            | command asked =>
                obtain ⟨grammar, _, _, _, _, _, hlink, rfl⟩ := parse?_eq_some_iff.1 hparse
                exact (h.toInvariant.composes.link none grammar _ hcleared).of_ok hlink
      · obtain rfl | hinstant := List.mem_cons.1 hinstant
        · exact hafter
        · exact ih hafter hinstant

end Session

/-! ### Handles and references -/

namespace Visit

variable {visit : Visit}

/-- A step that begins in the place of another one, with another link to follow. -/
def following (visit : Visit) (target keeper : Link) : Visit :=
  { visit with subject := .built (.linked target), held := .linked keeper :: visit.held }

/-- A handle is followed like its rule, which is held meanwhile, or not at all. -/
theorem result_of_handle {slot : Nat} (hsubject : visit.subject = .built (.linked (.handle slot))) :
    visit.result = if visit.moment.isAlive (.slot slot) then
      (visit.following (.rule slot) (.rule slot)).result else .error .droppedRule visit.before := by
  let rule : Run (Outcome Value) := (Link.rule slot).parser (Grammar.parseWithin visit.depth)
    (.linked (.rule slot) :: visit.held) visit.chain visit.start
  have hresult : visit.result = (Run.demandAlive visit.held (.slot slot) .droppedRule >>= fun _ =>
      rule) visit.before := by
    rw [Visit.result, hsubject]
    rfl
  by_cases halive : visit.before.isAlive visit.held (.slot slot)
  · rw [hresult, Run.bind_of_ok (Run.demandAlive_of halive)]
    exact (if_pos halive).symm
  · rw [hresult, Run.bind_of_error (Run.demandAlive_of_not halive)]
    exact (if_neg halive).symm

/-- A reference is followed like its production, which is held meanwhile, or not at all. -/
theorem result_of_reference {place index : Nat}
    (hsubject : visit.subject = .built (.linked (.reference place index))) :
    visit.result = if visit.moment.isAlive (.module place) then
      (visit.following (.production place index) (.production place index)).result
        else .error .droppedModule visit.before := by
  let production : Run (Outcome Value) := (Link.production place index).parser
    (Grammar.parseWithin visit.depth) (.linked (.production place index) :: visit.held) visit.chain
    visit.start
  have hproduction : production = Run.productionContent place index >>= fun built =>
      Grammar.parseWithin visit.depth (.linked (.production place index) :: built :: visit.held)
        built visit.chain visit.start := by
    refine bind_congr fun built => ?_
    rw [(Grammar.KeepAlike.swap built _ _).parseWithin_eq]
  have hresult : visit.result = (Run.demandAlive visit.held (.module place) .droppedModule >>=
      fun _ => production) visit.before := by
    rw [hproduction, Visit.result, hsubject]
    rfl
  by_cases halive : visit.before.isAlive visit.held (.module place)
  · rw [hresult, Run.bind_of_ok (Run.demandAlive_of halive)]
    exact (if_pos halive).symm
  · rw [hresult, Run.bind_of_error (Run.demandAlive_of_not halive)]
    exact (if_neg halive).symm

end Visit

/-! ### Lifetimes -/

namespace Instant

/-- What is destroyed by an instant, in view of all instants before. -/
def lost (past : List Instant) (now : Instant) : Keepable → Prop :=
  Moment.destroyed (past.map Instant.moment ++ [now.moment])

/-- What there is to say about lifetimes at an instant of a session. -/
structure Lifetimes (past : List Instant) (now : Instant) : Prop where
  /-- Something lives as long as there is a clone of it: one that has a name or belongs to a grammar
  that is being parsed, or one in the content of something that was not destroyed. -/
  clones : ∀ keepable ∈ now.moment.keepables,
    ¬ lost past now keepable ↔ now.moment.HasClone (lost past now) keepable
  /-- What has kept itself once lives for ever. -/
  forever : ∀ earlier ∈ past ++ [now], ∀ keepable,
    keepable ∈ earlier.moment.keptBy keepable → ¬ lost past now keepable
  /-- A stored parser keeps alive what it keeps. -/
  stored : ∀ {label : String} {found : Grammar},
    now.moment.workspace.parsers.find? label = some found →
    ∀ keepable ∈ found.keeps, ¬ lost past now keepable
  /-- A handle parses like its rule, unless the rule was destroyed. -/
  handles : ∀ {parse : Parse} {step : Visit} {slot : Nat}, now = .visit parse step →
    step.subject = .built (.linked (.handle slot)) →
    (¬ lost past now (.slot slot) →
      step.result = (step.following (.rule slot) (.rule slot)).result) ∧
    (lost past now (.slot slot) → step.result = .error .droppedRule step.before ∧
      parse.result = .error .droppedRule step.before)
  /-- A reference leads to a production of its module, and parses like it, unless the module was
  destroyed. -/
  references : ∀ {parse : Parse} {step : Visit} {place index : Nat}, now = .visit parse step →
    step.subject = .built (.linked (.reference place index)) →
    (step.before.definition? place index).isSome ∧
    (¬ lost past now (.module place) →
      step.result = (step.following (.production place index) (.production place index)).result) ∧
    (lost past now (.module place) → step.result = .error .droppedModule step.before ∧
      parse.result = .error .droppedModule step.before)
  /-- A module is not destroyed while one of its productions is being parsed, as a part of whatever
  grammar, so that all references into it can be followed. -/
  kept : ∀ {parse : Parse} {step : Visit} {place : Nat}, now = .visit parse step →
    .module place ∈ parse.grammar.keeps → ¬ lost past now (.module place) ∧
    ∀ index, step.subject = .built (.linked (.reference place index)) →
      step.result = (step.following (.production place index) (.production place index)).result

section Lifetimes

variable {past : List Instant} {now : Instant} {start : Moment}
  (h : start.LeadsThrough (past.map Instant.moment) now.moment)

include h

theorem lost_iff (keepable : Keepable) : lost past now keepable ↔
    keepable ∈ now.moment.keepables ∧ ¬ now.moment.isAlive keepable := h.destroyed_iff

theorem not_lost_of_isAlive {keepable : Keepable} (halive : now.moment.isAlive keepable) :
    ¬ lost past now keepable := fun hlost => ((lost_iff h keepable).1 hlost).2 halive

theorem isAlive_of_not_lost {keepable : Keepable} (hthere : keepable ∈ now.moment.keepables)
    (hspared : ¬ lost past now keepable) : now.moment.isAlive keepable :=
  Decidable.not_not.1 fun hdead => hspared ((lost_iff h keepable).2 ⟨hthere, hdead⟩)

theorem followed_of_result {parse : Parse} {step : Visit} {keepable : Keepable}
    (hnow : now = .visit parse step) (hsound : now.IsSound)
    (hthere : keepable ∈ now.moment.keepables)
    {followed : EStateM.Result Fault Workspace (Outcome Value)} {fault : Fault}
    (hresult : step.result
      = if step.moment.isAlive keepable then followed else .error fault step.before) :
    (¬ lost past now keepable → step.result = followed) ∧
      (lost past now keepable → step.result = .error fault step.before ∧
        parse.result = .error fault step.before) := by
  subst hnow
  refine ⟨fun hspared => ?_, fun hlost => ?_⟩
  · exact hresult.trans (if_pos (isAlive_of_not_lost h hthere hspared))
  · have hfault := hresult.trans (if_neg ((lost_iff h keepable).1 hlost).2)
    exact ⟨hfault, Parse.result_of_mem_visits hsound.1 hfault⟩

theorem lifetimes_of_leadsThrough (hsound : now.IsSound) : now.Lifetimes past where
  clones _ hthere := (h.hasClone_iff hthere).symm
  forever earlier hearlier keepable hkept := by
    have hlater : keepable ∈ now.moment.keptBy keepable := by
      obtain hearlier | hnow := List.mem_append.1 hearlier
      · exact h.mem_keptBy (List.mem_map_of_mem hearlier) hkept
      · rwa [← List.mem_singleton.1 hnow]
    refine not_lost_of_isAlive h (Moment.isAlive_of_self_kept ?_ hlater)
    exact Workspace.mem_keepables_of_mem_keptBy hlater
  stored hfound keepable hkept := by
    refine not_lost_of_isAlive h ?_
    exact Workspace.isAlive_of_isKeptByName (Workspace.isKeptByName_of_stored hfound hkept)
  handles {parse step slot} hnow hsubject := by
    have hthere : .slot slot ∈ now.moment.keepables := by
      subst hnow
      exact Workspace.mem_keepables.2 (of_decide_eq_true (hsound.2.1 _ hsubject).stands.leads)
    exact followed_of_result h hnow hsound hthere (Visit.result_of_handle hsubject)
  references {parse step place index} hnow hsubject := by
    have htarget : (step.before.definition? place index).isSome := by
      subst hnow
      exact (hsound.2.1 _ hsubject).stands.leads
    have hthere : .module place ∈ now.moment.keepables := by
      subst hnow
      have htarget : step.before.hasTarget (.production place index) := htarget
      exact Link.mem_keepables htarget rfl
    exact ⟨htarget,
      followed_of_result h hnow hsound hthere (Visit.result_of_reference hsubject)⟩
  kept {parse step place} hnow hkept := by
    subst hnow
    have halive : step.moment.isAlive (.module place) :=
      Workspace.isAlive_of_mem hsound.2.2 hkept
    refine ⟨not_lost_of_isAlive h halive, fun index hsubject => ?_⟩
    exact (Visit.result_of_reference hsubject).trans (if_pos halive)

end Lifetimes

end Instant

theorem Workspace.sound_empty : Workspace.Sound {} :=
  ⟨Workspace.wellLinked_empty, Workspace.putsOffWeakly_empty⟩

namespace Session

/-- What there is to say about lifetimes in a session that performed some operations. -/
structure Lifetimes (operations : List Operation) (session : Session) : Prop where
  /-- At every step of every parse, and after every operation, lifetimes are as they should be. -/
  instants : ∀ {past later : List Instant} {now : Instant},
    ({} : Session).course operations = past ++ now :: later → now.Lifetimes past
  /-- A production that is taken from a module keeps the module. -/
  entries : ∀ {name module production : String},
    (session.perform (.storeProduction name module production)).1 = .ok .done →
    ∃ place index, session.workspace.moduleNames.find? module = some place ∧
      session.workspace.productionIndex? place production = some index ∧
      (session.perform (.storeProduction name module production)).2.workspace.parsers.find? name
        = some (.linked (.production place index))
  /-- So does a production of a module that never has a name itself. -/
  onlyEntries : ∀ {name : String} {definitions : List (String × Grammar)} {production : String},
    (session.perform (.storeOnly name definitions production)).1 = .ok .done →
    ∃ index, (Productions.ofDefinitions definitions).index? production = some index ∧
      (session.perform (.storeOnly name definitions production)).2.workspace.parsers.find? name
        = some (.linked (.production session.workspace.modules.size index))
  /-- What was stored under a name is what is parsed by that name. -/
  parses : ∀ {label : String} {found : Grammar} (start : Nat) (represented : Bool),
    session.workspace.parsers.find? label = some found →
    session.parse? (.parse (.named (.parser label)) start represented)
      = some ⟨found, session.chain, session.chain.cursor start, session.workspace.clearJournal⟩

/-- **Rules, cells and modules live as long as there is a clone of them**, in every session. -/
theorem lifetimes_operated {operations : List Operation}
    (hoperations : ∀ operation ∈ operations, operation.all Grammar.isUnlinked) :
    Lifetimes operations (({} : Session).operated operations) where
  instants {past later now} hcourse := by
    have hempty : ({} : Session).workspace.Sound := Workspace.sound_empty
    have hleads := leadsThrough_course hempty hoperations
    rw [hcourse, List.map_append, List.map_cons] at hleads
    refine Instant.lifetimes_of_leadsThrough hleads.upTo
      (isSound_of_mem_course hempty hoperations ?_)
    rw [hcourse]
    exact List.mem_append_right _ List.mem_cons_self
  entries {name module production} hdone := by
    generalize ({} : Session).operated operations = session at *
    rw [perform_storeProduction] at hdone ⊢
    cases hplace : session.workspace.moduleNames.find? module with
    | none => simp [hplace] at hdone
    | some place =>
        cases hindex : session.workspace.productionIndex? place production with
        | none => simp [hplace, hindex] at hdone
        | some index => exact ⟨place, index, rfl, hindex, by
            simp [hindex, Workspace.storeParser]⟩
  onlyEntries {name definitions production} hdone := by
    generalize ({} : Session).operated operations = session at *
    rw [perform_storeOnly] at hdone ⊢
    cases hindex : (Productions.ofDefinitions definitions).index? production with
    | none => simp [hindex] at hdone
    | some index => exact ⟨index, rfl, by simp [Workspace.storeParser]⟩
  parses start represented hfound := parse?_stored hfound start represented

/-- A rule that is dropped while there is a handle to it, and a module that is dropped while one of
its productions is stored. -/
private def droppedHistory : List Operation :=
  [.command (.read (.listed #[])), .command (.openRule "letter"),
    .command (.setRule "letter" (.leaf (.literal "a"))),
    .command (.store "handle" (.named (.handle "letter"))), .command (.dropRule "letter"),
    .command (.define "words" [("word", .named (.sibling "end")), ("end", .leaf .nothing)] true),
    .command (.storeProduction "entry" "words" "word"), .command (.dropModule "words")]

/-- The handle is of no use any more, and the production still is. -/
theorem lifetimes_operated_dropped :
    (∀ operation ∈ droppedHistory, operation.all Grammar.isUnlinked) ∧
      Lifetimes droppedHistory (({} : Session).operated droppedHistory) ∧
      ((({} : Session).operated droppedHistory).perform
        (.parse (.named (.parser "handle")) 0 false)).1 = .error (.fault .droppedRule) ∧
      ((({} : Session).operated droppedHistory).perform
        (.parse (.named (.parser "entry")) 0 false)).1.isOk := by
  have hunlinked : ∀ operation ∈ droppedHistory, operation.all Grammar.isUnlinked := by decide
  exact ⟨hunlinked, lifetimes_operated hunlinked, rfl, rfl⟩

end Session

end TokenGrammar
