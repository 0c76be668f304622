import TokenGrammar.Proofs.Correspondence
import TokenGrammar.Proofs.Endings
import TokenGrammar.Proofs.Induction
import TokenGrammar.Proofs.Persistence
import TokenGrammar.Session

/-!
# Properties that compose

Building, opening links and parsing are made of few steps: reading the workspace, changing it in a
few ways, yielding values and meeting faults. A property of runs that these steps have, and that
sequences pass on, is a property of them all. Three things are apart. That something cannot be
printed is a fault which is only met where a traced part is entered. Events are only noted there,
too. And what is kept for a production was built from its definition just before.

The same goes for commands, which are made of building, parsing and changes to the workspace.
Setting a rule is apart, because it looks at the rule before it changes it.
-/

namespace TokenGrammar

/-- That a property of runs holds of single steps, and of a sequence if it holds of its parts. -/
structure Run.Composes (P : {α : Type} → Run α → Prop) : Prop where
  pure : ∀ {α : Type} (a : α), P (Pure.pure a : Run α)
  bind : ∀ {α β : Type} {run : Run α} {next : α → Run β}, P run → (∀ a, P (next a)) →
    P (run >>= next)
  get : P (MonadState.get : Run Workspace)
  throw : ∀ {α : Type} {fault : Fault}, fault ≠ .unprintable →
    P (MonadExcept.throw fault : Run α)
  openCell : ∀ body, P (modify (·.openCell body) : Run Unit)
  storeParser : ∀ label built, P (modify (·.storeParser label built) : Run Unit)
  fillCell : ∀ place built, P (modify (·.fillCell place built) : Run Unit)
  noteEntry : ∀ site, P (Run.noteEntry site)
  noteBuild : ∀ site, P (Run.noteBuild site)
  noteMiss : ∀ diagnostic, P (Run.noteMiss diagnostic)

namespace Run.Composes

variable {P : {α : Type} → Run α → Prop} (h : Run.Composes P)

include h

theorem demand {α : Type} {fault : Fault} (hfault : fault ≠ .unprintable) (value? : Option α) :
    P (Run.demand fault value?) := by
  cases value? with
  | none => exact h.throw hfault
  | some value => exact h.pure value

theorem demandAlive (held : List Grammar) (keepable : Keepable) {fault : Fault}
    (hfault : fault ≠ .unprintable) : P (Run.demandAlive held keepable fault) := by
  refine h.bind h.get fun now => ?_
  split
  · exact h.pure ()
  · exact h.throw hfault

theorem resolve (home? : Option Nat) (name : Name) : P (name.resolve home?) := by
  refine h.bind h.get fun now => ?_
  have hfound {α : Type} (value? : Option α) : P (Run.demand (.unbound name) value?) :=
    h.demand Fault.noConfusion value?
  cases name with
  | rule label => exact h.bind (hfound _) fun _ => h.pure _
  | handle label => exact h.bind (hfound _) fun _ => h.pure _
  | parser label => exact hfound _
  | production owner label =>
      exact h.bind (hfound _) fun _ => h.bind (hfound _) fun _ => h.pure _
  | sibling label => exact h.bind (h.demand Fault.noConfusion _) fun _ => h.pure _

theorem link (home? : Option Nat) : ∀ grammar : Grammar, P (grammar.link home?)
  | .leaf _ | .linked _ => h.pure _
  | .unary _ part | .traced _ part => h.bind (link home? part) fun _ => h.pure _
  | .binary _ first second =>
      h.bind (link home? first) fun _ => h.bind (link home? second) fun _ => h.pure _
  | .bind part _ => h.bind (link home? part) fun _ => h.bind h.get fun _ => h.pure _
  | .deferred _ => h.bind h.get fun _ => h.pure _
  | .deferredOnce _ =>
      h.bind h.get fun _ => h.bind h.get fun _ => h.bind (h.openCell _) fun _ => h.pure _
  | .named name => h.resolve home? name
  | .siblingOr name otherwise => by
      refine h.bind h.get fun now => ?_
      cases now.siblingsAt home? name with
      | none => exact link home? otherwise
      | some target => exact h.pure _
  | .shared name part =>
      h.bind (link home? part) fun _ => h.bind (h.storeParser name _) fun _ => h.pure _

theorem build (site : Site) (home? : Option Nat) (part : Grammar) : P (Run.build site home? part) :=
  h.bind (h.noteBuild site) fun _ => h.link home? part

theorem partContent (part : Grammar) : P (Run.partContent part) :=
  h.bind (h.noteEntry _) fun _ => h.build _ _ _

theorem cellContent (place : Nat) : P (Run.cellContent place) := by
  refine h.bind (h.noteEntry _) fun _ => h.bind h.get fun now => ?_
  refine h.bind (h.demand Fault.noConfusion _) fun cell => ?_
  cases cell.built? with
  | some built => exact h.pure built
  | none => exact h.bind (h.build _ _ _) fun _ => h.bind (h.fillCell place _) fun _ => h.pure _

theorem productionContent
    (hfill : ∀ module index built, P (modify (·.fillProduction module index built) : Run Unit))
    (place index : Nat) : P (Run.productionContent place index) := by
  refine h.bind (h.noteEntry _) fun _ => h.bind h.get fun now => ?_
  cases now.productionContent? place index with
  | some built => exact h.pure built
  | none =>
      refine h.bind h.get fun now => h.bind (h.demand Fault.noConfusion _) fun definition => ?_
      exact h.bind (h.build _ _ _) fun _ => h.bind (hfill place index _) fun _ => h.pure _

theorem opened (hproduction : ∀ place index, P (Run.productionContent place index))
    (held : List Grammar) (target : Link) : P (target.opened held) := by
  have hpattern {α : Type} (slot : Nat) (wrap : Grammar → α) :
      P (do return wrap (← Run.demand .unsetRule ((← MonadState.get).pattern? slot))) :=
    h.bind h.get fun _ => h.bind (h.demand Fault.noConfusion _) fun _ => h.pure _
  cases target with
  | rule slot => exact hpattern slot (Prod.mk held)
  | handle slot =>
      refine h.bind (h.demandAlive _ _ Fault.noConfusion) fun _ => ?_
      exact hpattern slot (Prod.mk (.linked (.rule slot) :: held))
  | cell place => exact h.bind (h.cellContent place) fun _ => h.pure _
  | production place index => exact h.bind (hproduction place index) fun _ => h.pure _
  | reference place index =>
      refine h.bind (h.demandAlive _ _ Fault.noConfusion) fun _ => ?_
      exact h.bind (hproduction place index) fun _ => h.pure _

def correspondence : Correspondence Run Run where
  Relates run _ := P run
  pure := h.pure
  bind := h.bind

theorem parseNoting (matcher : Leaf) (chain : Chain) (start : Cursor) :
    P (matcher.parseNoting chain start) := by
  have hleaf : h.correspondence.Parsers matcher.parser matcher.parser := .leaf matcher
  refine h.bind (hleaf chain start) fun outcome => ?_
  cases outcome with
  | success => exact h.pure _
  | failure diagnostic => exact h.bind (h.noteMiss diagnostic) fun _ => h.pure _

section Parsing

variable (hunprintable : ∀ {α : Type}, P (MonadExcept.throw .unprintable : Run α))
  (hevent : ∀ event, P (Run.noteEvent event))
  (hproduction : ∀ place index, P (Run.productionContent place index))

include hunprintable hevent hproduction

theorem parser {enter : Enter} (henter : ∀ held grammar,
      h.correspondence.Parsers (enter held grammar) (enter held grammar)) (held : List Grammar) :
    ∀ grammar : Grammar,
      h.correspondence.Parsers (grammar.parser enter held) (grammar.parser enter held)
  | .leaf matcher => h.parseNoting matcher
  | .unary operator part => (parser henter held part).unary operator
  | .binary operator first second => (parser henter held first).binary operator
      (parser henter held second)
  | .bind part next => by
      have hselected (value : Value) : h.correspondence.Parsers
          (fun chain start => do
            let selected ← (next.select value).link none
            enter (selected :: held) selected chain start)
          (fun chain start => do
            let selected ← (next.select value).link none
            enter (selected :: held) selected chain start) := fun chain start =>
        h.bind (h.link none _) fun selected => henter _ _ chain start
      exact (parser henter held part).bind hselected
  | .traced label part => by
      refine fun chain start => h.bind h.get fun now => h.bind ?_ fun text => ?_
      · cases now.textOf? held part with
        | none => exact hunprintable
        | some text => exact h.pure text
      · refine h.bind (hevent _) fun _ => ?_
        refine h.bind (parser henter held part chain start) fun outcome => ?_
        exact h.bind (hevent _) fun _ => h.pure _
  | .deferred part => fun chain start =>
      h.bind (h.partContent part) fun built => henter _ _ chain start
  | .linked target => by
      intro chain start
      rw [Grammar.parser, Grammar.parserTracing, target.parser_eq_opened]
      exact h.bind (h.opened hproduction held target) fun opened => henter _ _ chain start
  | .named _ | .siblingOr _ _ | .shared _ _ | .deferredOnce _ => fun _ _ =>
      h.throw Fault.noConfusion

theorem parseWithin (depth : Nat) : ∀ (held : List Grammar) (grammar : Grammar) (chain : Chain)
    (start : Cursor), P (grammar.parseWithin depth held chain start) := by
  suffices ∀ (held : List Grammar) (grammar : Grammar), h.correspondence.Parsers
      (grammar.parseWithin depth held) (grammar.parseWithin depth held) from this
  induction depth with
  | zero => exact fun _ _ _ _ => h.throw Fault.noConfusion
  | succ depth ih =>
      exact fun held grammar => h.parser hunprintable hevent hproduction ih held grammar

end Parsing

end Run.Composes

/-! ### Commands -/

/-- That a property of steps holds of what commands are made of, but for the setting of rules, and
of a sequence if it holds of its parts. -/
structure Step.Composes (P : {α : Type} → Step α → Prop) : Prop where
  pure : ∀ {α : Type} (a : α), P (Pure.pure a : Step α)
  bind : ∀ {α β : Type} {step : Step α} {next : α → Step β}, P step → (∀ a, P (next a)) →
    P (step >>= next)
  get : P (MonadState.get : Step Session)
  throw : ∀ {α : Type} (refusal : Refusal), P (MonadExcept.throw refusal : Step α)
  demand : ∀ {α : Type} (fault : Fault) (value? : Option α),
    P (Step.ofRun (Run.demand fault value?))
  link : ∀ grammar : Grammar, P (Step.ofRun (grammar.link none))
  parse : ∀ (grammar : Grammar) chain start, P (Step.ofRun (grammar.parse chain start))
  read : ∀ chain, P (modify fun session => { session with chain } : Step Unit)
  openRule : ∀ name, P (Step.modifyWorkspace (·.openRule name))
  dropRule : ∀ name, P (Step.modifyWorkspace fun workspace =>
    { workspace with rules := workspace.rules.remove name })
  storeParser : ∀ name built, P (Step.modifyWorkspace (·.storeParser name built))
  dropParser : ∀ name, P (Step.modifyWorkspace fun workspace =>
    { workspace with parsers := workspace.parsers.remove name })
  addModule : ∀ definitions cached,
    P (Step.modifyWorkspace (·.addModule (.ofDefinitions definitions cached)))
  nameModule : ∀ name place, P (Step.modifyWorkspace fun workspace =>
    { workspace with moduleNames := workspace.moduleNames.assign name place })
  dropModule : ∀ name, P (Step.modifyWorkspace fun workspace =>
    { workspace with moduleNames := workspace.moduleNames.remove name })

namespace Step.Composes

variable {P : {α : Type} → Step α → Prop} (h : Step.Composes P)

include h

theorem workspace : P Step.workspace := h.bind h.get fun _ => h.pure _

theorem slotOf (name : String) : P (Step.slotOf name) :=
  h.bind h.workspace fun _ => h.demand _ _

theorem moduleOf (name production : String) : P (Step.moduleOf name production) :=
  h.bind h.workspace fun _ => h.demand _ _

theorem storeProductionOf (place : Nat) (production name : String) :
    P (Step.storeProductionOf place production name) := by
  refine h.bind h.workspace fun now => ?_
  cases now.productionIndex? place production with
  | none => exact h.throw _
  | some index => exact h.bind (h.storeParser name _) fun _ => h.pure _

theorem representationOf (grammar : Grammar) : P (Step.representationOf grammar) :=
  h.bind h.workspace fun _ => h.demand _ _

theorem parseWith (grammar : Grammar) (start : Nat) : P (Step.parseWith grammar start) :=
  h.bind h.get fun _ => h.parse _ _ _

theorem newModule (definitions : List (String × Grammar)) (cached : Bool) :
    P (Step.addModule definitions cached) :=
  h.bind h.workspace fun _ => h.bind (h.addModule definitions cached) fun _ => h.pure _

theorem perform {command : Command} (hcommand : ∀ name pattern, command ≠ .setRule name pattern) :
    P command.perform := by
  cases command with
  | read source =>
      refine h.bind ?_ fun chain => h.bind (h.read chain) fun _ => h.pure _
      cases source.chain with
      | ok chain => exact h.pure chain
      | error refusal => exact h.throw refusal
  | openRule name => exact h.bind (h.openRule name) fun _ => h.pure _
  | setRule name pattern => exact absurd rfl (hcommand name pattern)
  | isSet name => exact h.bind h.workspace fun _ => h.bind (h.slotOf name) fun _ => h.pure _
  | dropRule name =>
      exact h.bind h.workspace fun _ => h.bind (h.dropRule name) fun _ => h.pure _
  | store name grammar =>
      exact h.bind (h.link grammar) fun _ => h.bind (h.storeParser name _) fun _ => h.pure _
  | dropParser name =>
      exact h.bind h.workspace fun _ => h.bind (h.dropParser name) fun _ => h.pure _
  | define name definitions cached =>
      refine h.bind (h.newModule definitions cached) fun place => ?_
      exact h.bind (h.nameModule name place) fun _ => h.pure _
  | storeOnly name definitions production =>
      exact h.bind (h.newModule definitions false) fun _ => h.storeProductionOf _ _ _
  | has module production =>
      exact h.bind (h.moduleOf _ _) fun _ => h.bind h.workspace fun _ => h.pure _
  | storeProduction name module production =>
      exact h.bind (h.moduleOf _ _) fun _ => h.storeProductionOf _ _ _
  | dropModule name =>
      exact h.bind h.workspace fun _ => h.bind (h.dropModule name) fun _ => h.pure _
  | parse grammar start represented =>
      refine h.bind (h.link grammar) fun built => h.bind (h.parseWith built start) fun outcome => ?_
      cases represented with
      | false => exact h.bind (h.pure none) fun _ => h.bind h.workspace fun _ => h.pure _
      | true =>
          have htext : P (some <$> Step.representationOf built) := by
            rw [← bind_pure_comp]
            exact h.bind (h.representationOf built) fun _ => h.pure _
          exact h.bind htext fun _ => h.bind h.workspace fun _ => h.pure _
  | trace label grammar start =>
      refine h.bind (h.link grammar) fun built => h.bind (h.parseWith _ start) fun outcome => ?_
      exact h.bind h.workspace fun _ => h.pure _
  | represent grammar =>
      exact h.bind (h.link grammar) fun built => h.bind (h.representationOf built) fun _ => h.pure _

end Step.Composes

/-! ### Invariants -/

def Keeps {ε σ α : Type} (invariant : σ → Prop) (run : EStateM ε σ α) : Prop :=
  ∀ before, invariant before → Lands run before (fun _ after => invariant after)
    fun _ after => invariant after

theorem Keeps.bind {ε σ α β : Type} {invariant : σ → Prop} {run : EStateM ε σ α}
    {next : α → EStateM ε σ β} (h : Keeps invariant run) (hnext : ∀ a, Keeps invariant (next a)) :
    Keeps invariant (run >>= next) :=
  fun before hbefore => (h before hbefore).bind fun a between hbetween => hnext a between hbetween

namespace Workspace

def Built (workspace : Workspace) (module index : Nat) (built : Grammar) : Prop :=
  ∃ definition before, workspace.definition? module index = some definition ∧
    before.modules = workspace.modules ∧ definition.link (some module) before = .ok built workspace

/-- That a condition on workspaces is kept by what building and parsing change. -/
structure Invariant (invariant : Workspace → Prop) : Prop where
  openCell : ∀ {workspace} body, invariant workspace → invariant (workspace.openCell body)
  storeParser : ∀ {workspace} label built, invariant workspace →
    invariant (workspace.storeParser label built)
  fillCell : ∀ {workspace} place built, invariant workspace →
    invariant (workspace.fillCell place built)
  fillProduction : ∀ {workspace} module index built, invariant workspace →
    workspace.Built module index built → invariant (workspace.fillProduction module index built)
  modifyJournal : ∀ {workspace} change, invariant workspace →
    invariant (workspace.modifyJournal change)

/-- That a condition is also kept by what commands change, but for the setting of rules. -/
structure CommandInvariant (invariant : Workspace → Prop) : Prop extends Invariant invariant where
  openRule : ∀ {workspace} name, invariant workspace → invariant (workspace.openRule name)
  dropRule : ∀ {workspace : Workspace} name, invariant workspace →
    invariant { workspace with rules := workspace.rules.remove name }
  dropParser : ∀ {workspace : Workspace} name, invariant workspace →
    invariant { workspace with parsers := workspace.parsers.remove name }
  addModule : ∀ {workspace} definitions cached, invariant workspace →
    invariant (workspace.addModule (.ofDefinitions definitions cached))
  nameModule : ∀ {workspace : Workspace} name place, invariant workspace →
    invariant { workspace with moduleNames := workspace.moduleNames.assign name place }
  dropModule : ∀ {workspace : Workspace} name, invariant workspace →
    invariant { workspace with moduleNames := workspace.moduleNames.remove name }

variable {invariant : Workspace → Prop}

theorem Invariant.composes (h : Invariant invariant) : Run.Composes (Keeps invariant) where
  pure _ _ hbefore := hbefore
  bind := Keeps.bind
  get _ hbefore := hbefore
  throw _ _ hbefore := hbefore
  openCell body _ := h.openCell body
  storeParser label built _ := h.storeParser label built
  fillCell place built _ := h.fillCell place built
  noteEntry _ _ := h.modifyJournal _
  noteBuild _ _ := h.modifyJournal _
  noteMiss _ _ := h.modifyJournal _

theorem Invariant.productionContent (h : Invariant invariant) (place index : Nat) :
    Keeps invariant (Run.productionContent place index) := by
  intro before hbefore
  have hentered : invariant (before.entered (.production place index)) := h.modifyJournal _ hbefore
  unfold Lands
  cases hcontent : before.productionContent? place index with
  | some content =>
      rw [Run.productionContent_of_kept hcontent]
      exact hentered
  | none =>
      cases hdefinition : before.definition? place index with
      | none =>
          rw [Run.productionContent_eq_error hcontent hdefinition]
          exact hentered
      | some definition =>
          rw [Run.productionContent_eq fun _ => hdefinition, hcontent]
          let begun := (before.entered (.production place index)).begun (.production place index)
          have hlink := h.composes.link (some place) definition begun (h.modifyJournal _ hentered)
          have hbuild : Lands (definition.link (some place)) begun
              (fun built after => invariant after ∧ after.Built place index built)
              fun _ after => invariant after := by
            refine .of_results (fun built after hrun => ?_) fun _ _ hrun => hlink.of_error hrun
            have hmodules : after.modules = begun.modules :=
              (definition.link_appends (some place) _ _ _ hrun).modules
            refine ⟨hlink.of_ok hrun, definition, begun, ?_, hmodules.symm, hrun⟩
            rw [Workspace.definition?, hmodules]
            exact hdefinition
          exact hbuild.bind fun built after hafter =>
            h.fillProduction place index built hafter.1 hafter.2

theorem Invariant.parseWithin (h : Invariant invariant) (depth : Nat) (held : List Grammar)
    (grammar : Grammar) (chain : Chain) (start : Cursor) :
    Keeps invariant (grammar.parseWithin depth held chain start) :=
  h.composes.parseWithin (fun _ hbefore => hbefore) (fun _ _ => h.modifyJournal _)
    h.productionContent depth held grammar chain start

theorem keeps_ofRun {α : Type} {run : Run α} (h : Keeps invariant run) :
    Keeps (fun session : Session => invariant session.workspace) (Step.ofRun run) := by
  intro before hbefore
  have hrun := h before.workspace hbefore
  unfold Lands Step.ofRun at *
  cases hresult : run before.workspace with
  | ok value after =>
      rw [hresult] at hrun
      exact hrun
  | error fault after =>
      rw [hresult] at hrun
      exact hrun

theorem CommandInvariant.composes (h : CommandInvariant invariant) :
    Step.Composes (Keeps fun session : Session => invariant session.workspace) where
  pure _ _ hbefore := hbefore
  bind := Keeps.bind
  get _ hbefore := hbefore
  throw _ _ hbefore := hbefore
  demand _ value? := by
    refine keeps_ofRun ?_
    cases value? <;> exact fun _ hbefore => hbefore
  link grammar := keeps_ofRun (h.toInvariant.composes.link none grammar)
  parse grammar chain start := keeps_ofRun (h.toInvariant.parseWithin _ _ grammar chain start)
  read _ _ hbefore := hbefore
  openRule name _ := h.openRule name
  dropRule name _ := h.dropRule name
  storeParser label built _ := h.storeParser label built
  dropParser name _ := h.dropParser name
  addModule definitions cached _ := h.addModule definitions cached
  nameModule name place _ := h.nameModule name place
  dropModule name _ := h.dropModule name

end Workspace

end TokenGrammar
