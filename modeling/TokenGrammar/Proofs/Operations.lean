import TokenGrammar.Proofs.Composition
import TokenGrammar.Proofs.Renaming.Commands
import TokenGrammar.Proofs.Renaming.Fixing
import TokenGrammar.Proofs.Sessions

/-!
# Operations

Commands bind each name of a rule to a slot of its own, and each name of a module to a module of its
own. Beside what commands do, a rule or a module may be cloned: then a second name is bound to what
a first one is bound to, and either name may be dropped while the other one is used. An operation is
a command or such a clone.

What a session may be noticed by is how it responds to operations: what it replies, and what it
traces. Sessions in step respond alike.
-/

namespace TokenGrammar

inductive Operation where
  | command (command : Command)
  /-- Binds another name to the rule that a name is bound to. -/
  | cloneRule (name other : String)
  /-- Binds another name to the module that a name is bound to. -/
  | cloneModule (name other : String)

namespace Operation

open Step

def perform : Operation → Step Reply
  | command asked => asked.perform
  | cloneRule name other => do
      let slot ← slotOf name
      modifyWorkspace fun workspace =>
        { workspace with rules := workspace.rules.assign other slot }
      return .done
  | cloneModule name other => do
      let place ← moduleOf name ""
      modifyWorkspace fun workspace =>
        { workspace with moduleNames := workspace.moduleNames.assign other place }
      return .done

def all (p : Grammar → Bool) : Operation → Bool
  | command asked => asked.all p
  | cloneRule _ _ | cloneModule _ _ => true

end Operation

namespace Session

def operate (session : Session) (operation : Operation) : Except Refusal Reply × Session :=
  session.attempt operation.perform

theorem operate_command (session : Session) (command : Command) :
    session.operate (.command command) = session.perform command := rfl

def operated (session : Session) (operations : List Operation) : Session :=
  operations.foldl (fun session operation => (session.operate operation).2) session

/-- **What each operation keeps holds after all of them.** -/
theorem operated_induction {motive : Session → Prop} {session : Session}
    {operations : List Operation} (hsession : motive session)
    (hoperate : ∀ session, motive session → ∀ operation ∈ operations,
      motive (session.operate operation).2) : motive (session.operated operations) :=
  List.foldlRecOn operations _ hsession hoperate

/-- What each of some operations replied, and what it traced. -/
def responses (session : Session) : List Operation → List (Except Refusal Reply × String)
  | [] => []
  | operation :: operations =>
      ((session.operate operation).1, (session.operate operation).2.traceText) ::
        responses (session.operate operation).2 operations

theorem responses_congr {session session' : Session} (h : session.cleared = session'.cleared)
    (operations : List Operation) :
    session.responses operations = session'.responses operations := by
  have hcleared (session : Session) : session.responses operations
      = session.cleared.responses operations := by cases operations <;> rfl
  rw [hcleared session, h, ← hcleared session']

end Session

/-! ### Invariants -/

/-- What commands keep is kept by operations too, if it does not matter what rules are named. -/
theorem Workspace.CommandInvariant.keeps_operation {invariant : Workspace → Prop}
    (h : Workspace.CommandInvariant invariant)
    (hrules : ∀ {workspace : Workspace} rules, invariant workspace →
      invariant { workspace with rules }) {operation : Operation}
    (hoperation : ∀ name pattern, operation ≠ .command (.setRule name pattern)) :
    Keeps (fun session : Session => invariant session.workspace) operation.perform := by
  have hsteps := h.composes
  cases operation with
  | command asked =>
      exact hsteps.perform fun name pattern heq => hoperation name pattern (heq ▸ rfl)
  | cloneRule name other =>
      refine (hsteps.slotOf name).bind fun slot => ?_
      exact Keeps.bind (fun _ => hrules _) fun _ => hsteps.pure _
  | cloneModule name other =>
      refine (hsteps.moduleOf name "").bind fun place => ?_
      exact (hsteps.nameModule other place).bind fun _ => hsteps.pure _

/-- If it does not matter either what rules are set to, then every operation keeps it. -/
theorem Workspace.CommandInvariant.keeps {invariant : Workspace → Prop}
    (h : Workspace.CommandInvariant invariant)
    (hrules : ∀ {workspace : Workspace} rules, invariant workspace →
      invariant { workspace with rules })
    (hslots : ∀ {workspace} slot built, invariant workspace →
      invariant (workspace.fillSlot slot built)) (operation : Operation) :
    Keeps (fun session : Session => invariant session.workspace) operation.perform := by
  have hsteps := h.composes
  by_cases hsetting : ∃ name pattern, operation = .command (.setRule name pattern)
  · obtain ⟨name, pattern, rfl⟩ := hsetting
    refine (hsteps.slotOf name).bind fun slot => (hsteps.link pattern).bind fun built => ?_
    refine hsteps.workspace.bind fun now => ?_
    split
    · exact hsteps.throw _
    · exact Keeps.bind (fun _ => hslots slot built) fun _ => hsteps.pure _
  · exact h.keeps_operation hrules fun name pattern heq => hsetting ⟨name, pattern, heq⟩

theorem Session.attempt_of_keeps {session : Session} (invariant : Workspace → Prop)
    {step : Step Reply} (h : Keeps (fun session : Session => invariant session.workspace) step)
    (hbefore : invariant session.workspace.clearJournal) :
    invariant (session.attempt step).2.workspace := by
  have hstep := h session.cleared hbefore
  unfold attempt
  cases hrun : step session.cleared with
  | ok reply after => exact hstep.of_ok hrun
  | error refusal after => exact hstep.of_error hrun

/-- **What every operation keeps is kept by all of them.** -/
theorem Workspace.CommandInvariant.operated {invariant : Workspace → Prop}
    (h : Workspace.CommandInvariant invariant)
    (hrules : ∀ {workspace : Workspace} rules, invariant workspace →
      invariant { workspace with rules })
    (hslots : ∀ {workspace} slot built, invariant workspace →
      invariant (workspace.fillSlot slot built)) {session : Session}
    (hsession : invariant session.workspace) (operations : List Operation) :
    invariant (session.operated operations).workspace := by
  refine Session.operated_induction (motive := fun session => invariant session.workspace) hsession
    fun session hsession operation _ => ?_
  have hcleared := h.modifyJournal (fun _ => {}) hsession
  exact Session.attempt_of_keeps invariant (h.keeps hrules hslots operation) hcleared

/-! ### Invariants along the way -/

def Diary.Satisfies (invariant : Workspace → Prop) (diary : Diary) : Prop :=
  invariant diary.workspace ∧ ∀ visit ∈ diary.visits, invariant visit.before

section Along

variable {invariant : Workspace → Prop} {depth : Nat} {held : List Grammar}

def Watched.keeping (invariant : Workspace → Prop) : Correspondence Watched Watched where
  Relates run _ := Keeps (Diary.Satisfies invariant) run
  pure _ _ h := h
  bind := Keeps.bind

theorem Watched.keeps_watched {α : Type} {run : Run α} (h : Keeps invariant run) :
    Keeps (Diary.Satisfies invariant) (Watched.ofRun run) := fun before hbefore =>
  Watched.lands_ofRun ((h before.workspace hbefore.1).imp (fun _ _ hafter => ⟨hafter, hbefore.2⟩)
    fun _ _ hafter => ⟨hafter, hbefore.2⟩)

theorem Watched.keeps_visit {subject : Subject} {p : Parser Watched Value} {chain : Chain}
    {start : Cursor} (h : Keeps (Diary.Satisfies invariant) (p chain start)) :
    Keeps (Diary.Satisfies invariant) (Watched.visit subject depth held p chain start) :=
  fun _ hbefore => Watched.lands_visit
    (h _ ⟨hbefore.1, List.forall_mem_cons.2 ⟨hbefore.1, hbefore.2⟩⟩)

open Watched (keeping keeps_watched keeps_visit)

theorem Workspace.Invariant.watchedParser (h : Workspace.Invariant invariant)
    (henter : ∀ held grammar, (keeping invariant).Parsers
      (Grammar.watchWithin depth held grammar) (Grammar.watchWithin depth held grammar)) :
    ∀ grammar : Grammar, (keeping invariant).Parsers
      (grammar.watchedParser depth (Grammar.watchWithin depth) held)
      (grammar.watchedParser depth (Grammar.watchWithin depth) held)
  | .leaf matcher => fun chain start =>
      keeps_visit (keeps_watched (h.composes.parseNoting matcher chain start))
  | .unary operator part => fun chain start =>
      keeps_visit ((h.watchedParser henter part).unary operator chain start)
  | .binary operator first second => fun chain start =>
      keeps_visit ((h.watchedParser henter first).binary operator
        (h.watchedParser henter second) chain start)
  | .bind part next => by
      have hselected (value : Value) : (keeping invariant).Parsers
          ((Subject.selected (next.select value)).watchedParser depth held)
          ((Subject.selected (next.select value)).watchedParser depth held) := by
        intro chain start
        rw [Subject.watchedParser]
        exact keeps_visit (Keeps.bind (keeps_watched (h.composes.link none _)) fun selected =>
          henter _ _ chain start)
      exact fun chain start =>
        keeps_visit ((h.watchedParser henter part).bind hselected chain start)
  | .traced label part => fun chain start => by
      refine keeps_visit (Keeps.bind (keeps_watched ?_) fun _ => ?_)
      · refine Keeps.bind (h.composes.get) fun now => Keeps.bind ?_ fun text => ?_
        · cases now.textOf? held part <;> exact fun _ hbefore => hbefore
        · exact fun _ hbefore => h.modifyJournal _ hbefore
      · refine Keeps.bind (h.watchedParser henter part chain start) fun outcome => ?_
        refine Keeps.bind (keeps_watched fun _ hbefore => h.modifyJournal _ hbefore) fun _ => ?_
        exact fun _ hbefore => hbefore
  | .deferred part => fun chain start =>
      keeps_visit (Keeps.bind (keeps_watched (h.composes.partContent part)) fun _ =>
        henter _ _ chain start)
  | .linked target => fun chain start =>
      keeps_visit (Keeps.bind (keeps_watched (h.composes.opened h.productionContent held target))
        fun _ => henter _ _ chain start)
  | .named _ | .siblingOr _ _ | .shared _ _ | .deferredOnce _ => fun _ _ =>
      keeps_visit fun _ hbefore => hbefore

theorem Workspace.Invariant.watchWithin (h : Workspace.Invariant invariant) (depth : Nat) :
    ∀ held grammar, (keeping invariant).Parsers (Grammar.watchWithin depth held grammar)
      (Grammar.watchWithin depth held grammar) := by
  induction depth with
  | zero => exact fun _ _ _ _ _ hbefore => hbefore
  | succ depth ih => exact fun held grammar => h.watchedParser ih grammar

/-- **What building and parsing keep holds at every step of a parse.** -/
theorem Workspace.Invariant.of_mem_visits (h : Workspace.Invariant invariant) {parse : Parse}
    (hbefore : invariant parse.before) {visit : Visit} (hvisit : visit ∈ parse.visits) :
    invariant visit.before := by
  have hkeeps := h.watchWithin Grammar.depthLimit [parse.grammar] parse.grammar parse.chain
    parse.start { workspace := parse.before } ⟨hbefore, fun _ hmem => nomatch hmem⟩
  have hvisit := List.mem_reverse.1 hvisit
  unfold Grammar.visits at hvisit
  cases hwatched : Grammar.watchWithin Grammar.depthLimit [parse.grammar] parse.grammar parse.chain
      parse.start { workspace := parse.before } with
  | ok outcome after =>
      rw [hwatched] at hvisit
      exact (hkeeps.of_ok hwatched).2 visit hvisit
  | error fault after =>
      rw [hwatched] at hvisit
      exact (hkeeps.of_error hwatched).2 visit hvisit

end Along

/-! ### Sessions that operations lead to -/

theorem Workspace.invariant_unique :
    CommandInvariant fun workspace => workspace.parsers.IsUnique where
  openCell _ h := h
  storeParser label built h := h.assign label built
  fillCell _ _ h := h
  fillProduction _ _ _ h _ := h
  modifyJournal _ h := h
  openRule _ h := h
  dropRule _ h := h
  dropParser name h := h.remove name
  addModule _ _ h := h
  nameModule _ _ h := h
  dropModule _ h := h

theorem Session.isUnique_operated {session : Session} (h : session.workspace.parsers.IsUnique)
    (operations : List Operation) :
    (session.operated operations).workspace.parsers.IsUnique :=
  Workspace.invariant_unique.operated (fun _ h => h) (fun _ _ h => h) h operations

theorem Workspace.WellLinked.cloneRule {workspace : Workspace} (h : workspace.WellLinked)
    {name : String} {slot : Nat} (hslot : workspace.rules.find? name = some slot) (other : String) :
    workspace.WellLinkedAfter { workspace with rules := workspace.rules.assign other slot } := by
  refine ⟨⟨h.patterns, h.bodies, h.cells, h.contents, h.definitions, h.parsers,
    fun {label found} hfound => ?_, h.caches⟩,
    ⟨Nat.le_refl _, Nat.le_refl _, Nat.le_refl _, fun _ _ hsome => hsome⟩⟩
  by_cases hlabel : label = other
  · subst hlabel
    rw [Scope.find?_assign_self] at hfound
    cases hfound
    exact h.rules hslot
  · rw [Scope.find?_assign_of_ne _ _ hlabel] at hfound
    exact h.rules hfound

theorem Step.slotOf_bound {before : Session} (h : before.workspace.WellLinked) (name : String) :
    LinksWell Session.workspace (Step.slotOf name) before fun slot after =>
      before.workspace.rules.find? name = some slot ∧ after.workspace = before.workspace :=
  Step.workspace_linksWell h (Step.demand_linksWell h)

theorem Operation.perform_linksWell (operation : Operation) {before : Session}
    (h : before.workspace.WellLinked) (hoperation : operation.all Grammar.isUnlinked) :
    LinksWell Session.workspace operation.perform before fun _ _ => True := by
  cases operation with
  | command asked => exact asked.perform_linksWell h hoperation
  | cloneRule name other =>
      refine (Step.slotOf_bound h name).bind fun slot after hafter ⟨hslot, hsame⟩ => ?_
      rw [← hsame] at hslot
      exact Step.modifyWorkspace_reply_linksWell (hafter.wellLinked.cloneRule hslot other)
  | cloneModule name other =>
      refine (Step.moduleOf_linksWell h name "").bind fun place after hafter _ => ?_
      exact Step.modifyWorkspace_reply_linksWell (hafter.wellLinked.withModuleNames _)

theorem Session.wellLinked_operate {session : Session} {operation : Operation}
    (h : session.workspace.WellLinked) (hoperation : operation.all Grammar.isUnlinked) :
    (session.operate operation).2.workspace.WellLinked := by
  have hcleared : session.cleared.workspace.WellLinked := (h.modifyJournal fun _ => {}).wellLinked
  have hperform := operation.perform_linksWell hcleared hoperation
  unfold Session.operate Session.attempt
  cases hresult : operation.perform session.cleared with
  | ok reply after => exact (hperform.of_ok hresult).1.wellLinked
  | error refusal after => exact (Lands.of_error hperform hresult).wellLinked

/-- **After whatever operations all links lead somewhere.** -/
theorem Session.wellLinked_operated {session : Session} {operations : List Operation}
    (h : session.workspace.WellLinked)
    (hoperations : ∀ operation ∈ operations, operation.all Grammar.isUnlinked) :
    (session.operated operations).workspace.WellLinked :=
  operated_induction (motive := fun session => session.workspace.WellLinked) h
    fun _ h operation hmem => wellLinked_operate h (hoperations operation hmem)

/-! ### Sessions in step -/

namespace Translation

variable {t : Translation} {session image : Session}

theorem performs_operation (htraces : t.traces) {operation : Operation}
    (hoperation : operation.all Grammar.isUnlinked) :
    t.Performs (fun _ => False) operation.perform operation.perform id := by
  cases operation with
  | command asked =>
      have hsteps : t.Performs (fun _ => False) asked.perform (asked.translate t).perform id :=
        performs_command fun hfalse => by rw [htraces] at hfalse; cases hfalse
      rwa [Command.translate_eq_self htraces hoperation] at hsteps
  | cloneRule name other =>
      refine (performs_slotOf name).bind fun slot => ?_
      refine performs_modify_reply fun workspace image hnow => ?_
      rw [hnow.rules]
      exact hnow.withRules _
  | cloneModule name other =>
      refine (performs_moduleOf name "").bind fun place => ?_
      refine performs_modify_reply fun workspace image hnow => ?_
      rw [hnow.moduleNames]
      exact hnow.withModuleNames _

theorem CarriesSession.operate (h : t.CarriesSession session image) (htraces : t.traces)
    {operation : Operation} (hoperation : operation.all Grammar.isUnlinked) :
    (image.operate operation).1 = (session.operate operation).1 ∧
      t.CarriesSession (session.operate operation).2 (image.operate operation).2 :=
  attempt_of_inStepFrom (performs_operation htraces hoperation _ _ h.cleared)

/-- **Whatever is done next, two sessions in step respond alike.** -/
theorem CarriesSession.responses_eq (h : t.CarriesSession session image) (htraces : t.traces)
    {operations : List Operation}
    (hoperations : ∀ operation ∈ operations, operation.all Grammar.isUnlinked) :
    image.responses operations = session.responses operations := by
  induction operations generalizing session image with
  | nil => rfl
  | cons operation operations ih =>
      obtain ⟨hoperation, hrest⟩ := List.forall_mem_cons.1 hoperations
      obtain ⟨hreply, hcarries⟩ := h.operate htraces hoperation
      rw [Session.responses, Session.responses, hreply, hcarries.traceText htraces,
        ih hcarries hrest]

end Translation

end TokenGrammar
