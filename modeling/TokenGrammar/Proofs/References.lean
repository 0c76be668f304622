import TokenGrammar.Proofs.Correspondence
import TokenGrammar.Proofs.Holding
import TokenGrammar.Proofs.Induction
import TokenGrammar.Proofs.Persistence
import TokenGrammar.Proofs.Roots

/-!
# References in the place of productions

A reference leads to a production of its module as long as anything keeps the module. While one of
the productions is parsed the module is kept, so all references into it, wherever they turn up in
the course of the parse, could just as well be the productions themselves.

They are replaced where a grammar is entered. A part whose construction is put off is entered later,
and its references are replaced then. To follow a reference is also to hold the production
meanwhile, which makes no difference as the module is kept anyway.
-/

namespace TokenGrammar

/-- A link with a reference into a module taken for the production. -/
def Link.resolved (home : Nat) : Link → Link
  | reference place index =>
      if place = home then production place index else reference place index
  | target => target

namespace Grammar

def resolved (home : Nat) : Grammar → Grammar
  | unary operator part => unary operator (part.resolved home)
  | binary operator first second => binary operator (first.resolved home) (second.resolved home)
  | bind part next => bind (part.resolved home) next
  | traced label part => traced label (part.resolved home)
  | linked target => linked (target.resolved home)
  | grammar => grammar

def parseResolved (home : Nat) : Nat → Enter
  | 0, _, _ => fun _ _ => throw .endless
  | depth + 1, held, grammar => (grammar.resolved home).parser (parseResolved home depth) held

end Grammar

/-! ### Representations -/

section Text

variable {workspace : Workspace} {held : List Grammar} {home : Nat}
  (halive : workspace.isAlive held (.module home))

include halive

theorem Workspace.linkText?_resolved (hops : Nat) (target : Link) :
    workspace.linkText? held hops (target.resolved home)
      = workspace.linkText? held hops target := by
  cases target with
  | reference place index =>
      rw [Link.resolved]
      split
      · rename_i hplace
        subst hplace
        simp only [Workspace.linkText?, halive, if_true]
      · rfl
  | rule | handle | cell | production => rfl

theorem Grammar.text?_resolved (hops : Nat) : ∀ grammar : Grammar,
    (grammar.resolved home).text? (workspace.linkText? held hops)
      = grammar.text? (workspace.linkText? held hops)
  | .leaf _ | .deferred _ | .deferredOnce _ | .named _ | .siblingOr _ _ | .shared _ _ => rfl
  | .unary operator part => congrArg (Option.map operator.text) (text?_resolved hops part)
  | .bind part _ => congrArg (Option.map (· ++ " => <dynamic>")) (text?_resolved hops part)
  | .traced _ part => text?_resolved hops part
  | .binary _ first second => by
      rw [resolved, Grammar.text?, text?_resolved hops first, text?_resolved hops second,
        Grammar.text?]
  | .linked target => Workspace.linkText?_resolved halive hops target

end Text

/-! ### What is kept alive -/

/-- That two lists of grammars keep the same alive from a workspace on, and that they own a module.
-/
structure Workspace.Retains (base : Workspace) (home : Nat) (held held' : List Grammar) : Prop where
  owned : base.Owns held' (.module home)
  alike : ∀ later, base.Precedes later → ∀ keepable,
    later.isAlive held keepable = later.isAlive held' keepable

namespace Workspace

variable {base later : Workspace} {home : Nat} {held held' : List Grammar}

/-- Grammars that keep all roots of others alive keep alive what the others do. -/
theorem isAlive_of_roots (hroots : ∀ root, later.isRoot held root → later.isAlive held' root)
    {keepable : Keepable} (halive : later.isAlive held keepable) : later.isAlive held' keepable :=
  isAlive_mono (fun _ hthere => hthere) (fun _ _ hkept => hkept) hroots halive

theorem isAlive_cons (grammar : Grammar) {keepable : Keepable}
    (halive : later.isAlive held keepable) : later.isAlive (grammar :: held) keepable :=
  isAlive_of_roots (fun _ hroot => isAlive_iff.2 (.inl (isRoot_cons_iff.2 (.inr hroot)))) halive

theorem isAlive_cons_of_alike
    (h : ∀ keepable, later.isAlive held keepable → later.isAlive held' keepable)
    (grammar : Grammar) {keepable : Keepable} (halive : later.isAlive (grammar :: held) keepable) :
    later.isAlive (grammar :: held') keepable := by
  refine isAlive_of_roots (fun root hroot => ?_) halive
  obtain hkept | hroot := isRoot_cons_iff.1 hroot
  · exact isAlive_of_mem List.mem_cons_self hkept
  · exact isAlive_cons grammar (h root (isAlive_iff.2 (.inl hroot)))

namespace Retains

theorem refl (h : base.Owns held (.module home)) : base.Retains home held held :=
  ⟨h, fun _ _ _ => rfl⟩

variable (h : base.Retains home held held')

include h

theorem isAlive (hlater : base.Precedes later) : later.isAlive held' (.module home) :=
  (h.owned.mono hlater fun _ hmem => hmem).isAlive

theorem cons (grammar : Grammar) : base.Retains home (grammar :: held) (grammar :: held') where
  owned := h.owned.mono (.refl base) fun _ hmem => List.mem_cons_of_mem _ hmem
  alike later hlater keepable := by
    have halike := h.alike later hlater
    refine Bool.eq_iff_iff.2 ⟨isAlive_cons_of_alike (fun other halive => ?_) grammar,
      isAlive_cons_of_alike (fun other halive => ?_) grammar⟩
    · rwa [← halike other]
    · rwa [halike other]

theorem production (index : Nat) :
    base.Retains home held (.linked (.production home index) :: held') where
  owned := h.owned.mono (.refl base) fun _ hmem => List.mem_cons_of_mem _ hmem
  alike later hlater keepable := by
    rw [h.alike later hlater]
    refine Bool.eq_iff_iff.2 ⟨isAlive_cons _, isAlive_of_roots fun root hroot => ?_⟩
    obtain hkept | hroot := isRoot_cons_iff.1 hroot
    · rw [List.mem_singleton.1 hkept]
      exact h.isAlive hlater
    · exact isAlive_iff.2 (.inl hroot)

theorem textOf?_resolved (hlater : base.Precedes later) (grammar : Grammar) :
    later.textOf? held (grammar.resolved home) = later.textOf? held' grammar := by
  rw [textOf?_congr (h.alike later hlater)]
  exact Grammar.text?_resolved (h.isAlive hlater) _ grammar

end Retains

end Workspace

/-! ### Parsing -/

namespace Run

variable {α : Type} {base : Workspace}

def agreeing (base : Workspace) : Correspondence Run Run where
  Relates run run' := ∀ before, base.Precedes before →
    run before = run' before ∧ ∀ a after, run' before = .ok a after → base.Precedes after
  pure a before hbase := ⟨rfl, fun b after hrun => by
    rw [← (pure_eq_ok_iff.1 hrun).2]
    exact hbase⟩
  bind {α β run run' next next'} hrun hnext before hbase := by
    obtain ⟨hsame, hprecedes⟩ := hrun before hbase
    cases hresult : run' before with
    | error fault between =>
        rw [bind_of_error (hsame.trans hresult), bind_of_error hresult]
        exact ⟨rfl, fun _ _ hrun => nomatch hrun⟩
    | ok a between =>
        rw [bind_of_ok (hsame.trans hresult), bind_of_ok hresult]
        exact hnext a between (hprecedes a between hresult)

theorem Respects.agrees {run : Run α} (h : run.Respects Workspace.Precedes) :
    (agreeing base).Relates run run := fun before hbase =>
  ⟨rfl, fun a after hrun => hbase.trans (h before a after hrun)⟩

theorem noteEvent_appends (event : TraceEvent) :
    (noteEvent event).Respects Workspace.Appends :=
  .changed fun before => before.appends_modifyJournal _

theorem parseNoting_appends (matcher : Leaf) (chain : Chain) (start : Cursor) :
    (matcher.parseNoting chain start).Respects Workspace.Appends := by
  rw [Leaf.parseNoting_eq]
  exact Respects.bind (.changed fun before => before.appends_modifyJournal _) fun _ => .pure _

end Run

namespace Grammar

open Run (agreeing)

variable {base : Workspace} {home : Nat} {held held' : List Grammar}

section Parsing

variable {enter enter' : Enter} (henter : ∀ {held held' : List Grammar},
  base.Retains home held held' → ∀ grammar : Grammar,
    (agreeing base).Parsers (enter' held grammar) (enter held' grammar))

include henter

theorem linkParser_resolved (h : base.Retains home held held') (target : Link) :
    (agreeing base).Parsers ((target.resolved home).parser enter' held)
      (target.parser enter held') := by
  intro chain start
  have hpattern (slot : Nat) (opened : List Grammar) {opened' : List Grammar}
      (hopened : base.Retains home opened opened') : (agreeing base).Relates
      (do
        let pattern ← Run.demand .unsetRule ((← get).pattern? slot)
        enter' opened pattern chain start)
      (do
        let pattern ← Run.demand .unsetRule ((← get).pattern? slot)
        enter opened' pattern chain start) :=
    (agreeing base).bind Run.Respects.get.agrees fun _ =>
      (agreeing base).bind (Run.Respects.demand _ _).agrees fun pattern =>
        henter hopened pattern chain start
  have hproduction (place index : Nat) : (agreeing base).Relates
      (Run.productionContent place index) (Run.productionContent place index) :=
    (Run.productionContent_precedes place index).agrees
  have halive (keepable : Keepable) (fault : Fault) : (agreeing base).Relates
      (Run.demandAlive held keepable fault) (Run.demandAlive held' keepable fault) := by
    intro before hbase
    refine ⟨?_, ((Run.Respects.demandAlive held' keepable fault).agrees before hbase).2⟩
    rw [Run.demandAlive, Run.demandAlive, Run.get_bind, Run.get_bind, h.alike before hbase]
  cases target with
  | rule slot => exact hpattern slot held h
  | handle slot =>
      exact (agreeing base).bind (halive _ _) fun _ => hpattern slot _ (h.cons _)
  | cell place =>
      exact (agreeing base).bind (Run.cellContent_precedes place).agrees fun built =>
        henter h built chain start
  | production place index =>
      exact (agreeing base).bind (hproduction place index) fun built =>
        henter (h.cons built) built chain start
  | reference place index =>
      rw [Link.resolved]
      split
      · rename_i hplace
        subst hplace
        have hspared : (agreeing base).Relates (pure ())
            (Run.demandAlive held' (.module place) .droppedModule) := fun before hbase => by
          rw [Run.demandAlive_of (h.isAlive hbase)]
          exact ⟨rfl, fun _ _ hrun => by cases hrun; exact hbase⟩
        have hopened := (agreeing base).bind hspared fun _ =>
          (agreeing base).bind (hproduction place index) fun built =>
            henter ((h.cons built).production index) built chain start
        rwa [pure_bind] at hopened
      · exact (agreeing base).bind (halive _ _) fun _ =>
          (agreeing base).bind (hproduction place index) fun built =>
            henter ((h.cons built).cons _) built chain start

theorem parser_resolved (h : base.Retains home held held') : ∀ grammar : Grammar,
    (agreeing base).Parsers ((grammar.resolved home).parser enter' held)
      (grammar.parser enter held')
  | .leaf matcher => fun chain start =>
      (Run.parseNoting_appends matcher chain start).precedes.agrees
  | .unary operator part => (parser_resolved h part).unary operator
  | .binary operator first second =>
      (parser_resolved h first).binary operator (parser_resolved h second)
  | .bind part next => by
      have hselected (value : Value) : (agreeing base).Parsers
          (fun chain start => do
            let selected ← (next.select value).link none
            enter' (selected :: held) selected chain start)
          (fun chain start => do
            let selected ← (next.select value).link none
            enter (selected :: held') selected chain start) := fun chain start =>
        (agreeing base).bind (Run.Respects.precedes ((next.select value).link_appends none)).agrees
          fun selected => henter (h.cons selected) selected chain start
      exact (parser_resolved h part).bind hselected
  | .traced label part => fun chain start => by
      have htext : (agreeing base).Relates
          (do Run.demand .unprintable ((← get).textOf? held (part.resolved home)))
          (do Run.demand .unprintable ((← get).textOf? held' part)) := by
        intro before hbase
        rw [Run.get_bind, Run.get_bind, h.textOf?_resolved hbase]
        exact (Run.Respects.demand _ _).agrees before hbase
      have hevent (event : TraceEvent) : (agreeing base).Relates (Run.noteEvent event)
          (Run.noteEvent event) := (Run.noteEvent_appends event).precedes.agrees
      have htraced := (agreeing base).bind htext fun text =>
        (agreeing base).bind (hevent (.entered label text start)) fun _ =>
          (agreeing base).bind (parser_resolved h part chain start) fun outcome =>
            (agreeing base).bind (hevent (.ofOutcome label outcome)) fun _ =>
              (agreeing base).pure outcome
      simpa only [resolved, parser, parserTracing, Run.traced, bind_assoc] using htraced
  | .deferred part => fun chain start =>
      (agreeing base).bind (Run.partContent_appends part).precedes.agrees fun built =>
        henter (h.cons built) built chain start
  | .linked target => linkParser_resolved henter h target
  | .deferredOnce _ | .named _ | .siblingOr _ _ | .shared _ _ => fun _ _ =>
      (Run.Respects.throw _).agrees

end Parsing

theorem parseWithin_resolved (depth : Nat) (h : base.Retains home held held') (grammar : Grammar) :
    (agreeing base).Parsers (parseResolved home depth held grammar)
      (parseWithin depth held' grammar) := by
  induction depth generalizing held held' grammar with
  | zero => exact fun _ _ => (Run.Respects.throw _).agrees
  | succ depth ih => exact parser_resolved (fun hheld => ih hheld) h grammar

/-- **While a module is kept, references into it are as good as its productions.** -/
theorem parseResolved_eq {workspace : Workspace} (howned : workspace.Owns held (.module home))
    (depth : Nat) (grammar : Grammar) (chain : Chain) (start : Cursor) :
    parseResolved home depth held grammar chain start workspace
      = grammar.parseWithin depth held chain start workspace :=
  (parseWithin_resolved depth (.refl howned) grammar chain start workspace (.refl workspace)).1

end Grammar

end TokenGrammar
