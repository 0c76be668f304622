import TokenGrammar.Proofs.Correspondence
import TokenGrammar.Proofs.Endings
import TokenGrammar.Proofs.Faults

/-!
# Watched parses

A watched parse does what a parse does, by the same combinators, and keeps a diary of all that it
goes through: the parts of the grammar, the grammars that it enters, and the parts that values
select. So it can be said of a parse what it did on the way, be it that it ended in a fault.

What is watched goes on as if it were not (`Watched.reflecting`). As no combinator looks at a fault,
the diary of a parse that ended well has only visits that ended well, and a fault that one visit met
is the fault of the whole parse.
-/

namespace TokenGrammar

/-- What a parse goes through: a grammar that was built, or a part that a value selected and that
has to be built first. -/
inductive Subject where
  | built (grammar : Grammar)
  | selected (part : Grammar)

namespace Subject

def parser (depth : Nat) (held : List Grammar) : Subject → Parser Run Value
  | built grammar => grammar.parser (Grammar.parseWithin depth) held
  | selected part => fun chain start => do
      let selected ← part.link none
      Grammar.parseWithin depth (selected :: held) selected chain start

end Subject

/-- A step of a parse, with the workspace as it was when the step began. -/
structure Visit where
  subject : Subject
  depth : Nat
  held : List Grammar
  chain : Chain
  start : Cursor
  before : Workspace

namespace Visit

def result (visit : Visit) : EStateM.Result Fault Workspace (Outcome Value) :=
  visit.subject.parser visit.depth visit.held visit.chain visit.start visit.before

def Passes (visit : Visit) : Prop := ∃ outcome after, visit.result = .ok outcome after

end Visit

/-- A workspace, and the visits of a parse so far, latest first. -/
structure Diary where
  workspace : Workspace
  visits : List Visit := []

def Diary.note (diary : Diary) (subject : Subject) (depth : Nat) (held : List Grammar)
    (chain : Chain) (start : Cursor) : Diary :=
  { diary with visits := ⟨subject, depth, held, chain, start, diary.workspace⟩ :: diary.visits }

abbrev Watched := EStateM Fault Diary

namespace Watched

def ofRun {α : Type} (run : Run α) : Watched α := fun diary =>
  match run diary.workspace with
  | .ok value after => .ok value { diary with workspace := after }
  | .error fault after => .error fault { diary with workspace := after }

def visit (subject : Subject) (depth : Nat) (held : List Grammar) (p : Parser Watched Value) :
    Parser Watched Value := fun chain start => do
  modify (·.note subject depth held chain start)
  p chain start

end Watched

namespace Grammar

open Watched (ofRun visit)

def watchedParser (depth : Nat) (enter : List Grammar → Grammar → Parser Watched Value)
    (held : List Grammar) : Grammar → Parser Watched Value
  | leaf matcher => visit (.built (leaf matcher)) depth held fun chain start =>
      ofRun (matcher.parseNoting chain start)
  | unary operator part => visit (.built (unary operator part)) depth held <|
      operator.parser (part.watchedParser depth enter held)
  | binary operator first second => visit (.built (binary operator first second)) depth held <|
      operator.parser (first.watchedParser depth enter held) (second.watchedParser depth enter held)
  | bind part next => visit (.built (bind part next)) depth held <|
      (part.watchedParser depth enter held).bind fun value =>
        visit (.selected (next.select value)) depth held fun chain start => do
          let selected ← ofRun ((next.select value).link none)
          enter (selected :: held) selected chain start
  | traced label part => visit (.built (traced label part)) depth held fun chain start => do
      ofRun do
        let text ← Run.demand .unprintable ((← get).textOf? held part)
        Run.noteEvent (.entered label text start)
      let outcome ← part.watchedParser depth enter held chain start
      ofRun (Run.noteEvent (.ofOutcome label outcome))
      return outcome
  | deferred part => visit (.built (deferred part)) depth held fun chain start => do
      let built ← ofRun (Run.partContent part)
      enter (built :: held) built chain start
  | linked target => visit (.built (linked target)) depth held fun chain start => do
      let opened ← ofRun (target.opened held)
      enter opened.1 opened.2 chain start
  | grammar => visit (.built grammar) depth held fun _ _ => throw .unbuilt

def watchWithin : Nat → List Grammar → Grammar → Parser Watched Value
  | 0, _, _ => fun _ _ => throw .endless
  | depth + 1, held, grammar => grammar.watchedParser depth (watchWithin depth) held

def visits (depth : Nat) (held : List Grammar) (grammar : Grammar) (chain : Chain) (start : Cursor)
    (workspace : Workspace) : List Visit :=
  match grammar.watchWithin depth held chain start { workspace } with
  | .ok _ after | .error _ after => after.visits

end Grammar

def Subject.watchedParser (depth : Nat) (held : List Grammar) : Subject → Parser Watched Value
  | built grammar => grammar.watchedParser depth (Grammar.watchWithin depth) held
  | selected part => Watched.visit (.selected part) depth held fun chain start => do
      let selected ← Watched.ofRun (part.link none)
      Grammar.watchWithin depth (selected :: held) selected chain start

/-! ### What is watched goes on as if it were not -/

namespace Watched

variable {α β : Type}

theorem lands_ofRun {run : Run α} {before : Diary} {good : α → Diary → Prop}
    {admissible : Fault → Diary → Prop}
    (h : Lands run before.workspace
      (fun value after => good value { before with workspace := after })
      fun fault after => admissible fault { before with workspace := after }) :
    Lands (ofRun run) before good admissible := by
  unfold Lands ofRun at *
  cases hrun : run before.workspace with
  | ok value after =>
      rw [hrun] at h
      exact h
  | error fault after =>
      rw [hrun] at h
      exact h

theorem lands_visit {subject : Subject} {depth : Nat} {held : List Grammar}
    {p : Parser Watched Value} {chain : Chain} {start : Cursor} {before : Diary}
    {good : Outcome Value → Diary → Prop} {admissible : Fault → Diary → Prop}
    (h : Lands (p chain start) (before.note subject depth held chain start) good admissible) :
    Lands (visit subject depth held p chain start) before good admissible :=
  h

/-- That a watched run does what another run does, and that a visit on the way passes unless it
meets the fault in which the run ends. -/
def Reflects (run : Watched α) (run' : Run α) (before : Diary) : Prop :=
  Lands run before
    (fun value after => run' before.workspace = .ok value after.workspace ∧
      ∀ visit ∈ after.visits, visit ∈ before.visits ∨ visit.Passes)
    fun fault after => run' before.workspace = .error fault after.workspace ∧
      ∀ visit ∈ after.visits, visit ∈ before.visits ∨ visit.Passes ∨
        visit.result = .error fault after.workspace

theorem Reflects.bind {run : Watched α} {run' : Run α} {next : α → Watched β} {next' : α → Run β}
    {before : Diary} (hrun : run.Reflects run' before)
    (hnext : ∀ a between, (next a).Reflects (next' a) between) :
    (run >>= next).Reflects (run' >>= next') before := by
  refine Lands.bind (hrun.imp (fun _ _ h => h) fun fault after ⟨hplain, hvisits⟩ =>
    ⟨Run.bind_of_error hplain, hvisits⟩) fun a between ⟨hplain, hvisits⟩ => ?_
  refine (hnext a between).imp (fun b after hsecond => ?_) fun fault after hsecond => ?_
  · refine ⟨(Run.bind_of_ok hplain).trans hsecond.1, fun visit hvisit => ?_⟩
    exact (hsecond.2 visit hvisit).elim (hvisits visit) .inr
  · refine ⟨(Run.bind_of_ok hplain).trans hsecond.1, fun visit hvisit => ?_⟩
    exact (hsecond.2 visit hvisit).elim (fun h => (hvisits visit h).imp_right .inl) .inr

def reflecting : Correspondence Watched Run where
  Relates run run' := ∀ before, run.Reflects run' before
  pure _ _ := ⟨rfl, fun _ h => .inl h⟩
  bind hrun hnext before := (hrun before).bind hnext

theorem ofRun_reflects (run : Run α) : reflecting.Relates (ofRun run) run :=
  fun _ => lands_ofRun (.of_results (fun _ _ hrun => ⟨hrun, fun _ h => .inl h⟩)
    fun _ _ hrun => ⟨hrun, fun _ h => .inl h⟩)

theorem throw_reflects (fault : Fault) :
    reflecting.Relates (throw fault : Watched α) (throw fault : Run α) :=
  fun _ => ⟨rfl, fun _ h => .inl h⟩

theorem visit_reflects (subject : Subject) {depth : Nat} {held : List Grammar}
    {p : Parser Watched Value} (hp : reflecting.Parsers p (subject.parser depth held)) :
    reflecting.Parsers (visit subject depth held p) (subject.parser depth held) := by
  intro chain start before
  refine lands_visit ((hp chain start _).imp (fun outcome after hnoted => ?_)
    fun fault after hnoted => ?_)
  · refine ⟨hnoted.1, fun visit hvisit => ?_⟩
    obtain hbefore | hpasses := hnoted.2 visit hvisit
    · obtain rfl | hbefore := List.mem_cons.1 hbefore
      · exact .inr ⟨outcome, after.workspace, hnoted.1⟩
      · exact .inl hbefore
    · exact .inr hpasses
  · refine ⟨hnoted.1, fun visit hvisit => ?_⟩
    obtain hbefore | hends := hnoted.2 visit hvisit
    · obtain rfl | hbefore := List.mem_cons.1 hbefore
      · exact .inr (.inr hnoted.1)
      · exact .inl hbefore
    · exact .inr hends

end Watched

namespace Grammar

open Watched

theorem watchedParser_reflects {depth : Nat} {enter : List Grammar → Grammar → Parser Watched Value}
    (henter : ∀ held grammar, reflecting.Parsers (enter held grammar)
      (parseWithin depth held grammar)) (held : List Grammar) :
    ∀ grammar : Grammar, reflecting.Parsers (grammar.watchedParser depth enter held)
      (grammar.parser (parseWithin depth) held)
  | leaf _ => visit_reflects (.built _) fun _ _ => ofRun_reflects _
  | unary operator part =>
      visit_reflects (.built _) ((part.watchedParser_reflects henter held).unary operator)
  | binary operator first second =>
      visit_reflects (.built _) ((first.watchedParser_reflects henter held).binary operator
        (second.watchedParser_reflects henter held))
  | bind part next => by
      have hselected (value : Value) : reflecting.Parsers
          (visit (.selected (next.select value)) depth held fun chain start => do
            let selected ← ofRun ((next.select value).link none)
            enter (selected :: held) selected chain start)
          ((Subject.selected (next.select value)).parser depth held) :=
        visit_reflects (.selected _) fun chain start =>
          reflecting.bind (ofRun_reflects _) fun selected => henter _ _ chain start
      exact visit_reflects (.built _) ((part.watchedParser_reflects henter held).bind hselected)
  | traced label part => by
      refine visit_reflects (.built _) fun chain start => ?_
      have hsplit : (traced label part).parser (parseWithin depth) held chain start
          = (do
              let text ← Run.demand .unprintable ((← get).textOf? held part)
              Run.noteEvent (.entered label text start) : Run Unit) >>= fun _ => do
            let outcome ← part.parser (parseWithin depth) held chain start
            Run.noteEvent (.ofOutcome label outcome)
            return outcome := by
        simp only [parser, parserTracing, Run.traced, bind_assoc]
      refine Eq.subst (motive := reflecting.Relates _) hsplit.symm ?_
      refine reflecting.bind (ofRun_reflects _) fun _ => ?_
      refine reflecting.bind (part.watchedParser_reflects henter held chain start) fun outcome => ?_
      exact reflecting.map (ofRun_reflects _) fun _ => outcome
  | deferred _ => visit_reflects (.built _) fun chain start =>
      reflecting.bind (ofRun_reflects _) fun _ => henter _ _ chain start
  | linked target => by
      refine visit_reflects (.built _) fun chain start => ?_
      rw [Subject.parser, parser, parserTracing, target.parser_eq_opened]
      exact reflecting.bind (ofRun_reflects _) fun opened => henter _ _ chain start
  | named _ | siblingOr _ _ | shared _ _ | deferredOnce _ =>
      visit_reflects (.built _) fun _ _ => throw_reflects _

/-- A watched parse does what a parse does, by induction on the depth. -/
theorem watchWithin_reflects (depth : Nat) : ∀ (held : List Grammar) (grammar : Grammar),
    reflecting.Parsers (grammar.watchWithin depth held) (grammar.parseWithin depth held) := by
  induction depth with
  | zero => exact fun _ _ _ _ => throw_reflects _
  | succ depth ih => exact fun held grammar => grammar.watchedParser_reflects ih held

variable {depth : Nat} {held : List Grammar} {grammar : Grammar} {chain : Chain} {start : Cursor}
  {workspace : Workspace}

/-- **The fault of any step is the fault of the whole parse**, with the workspace as that step left
it: nothing on the way goes on after a fault. -/
theorem error_of_mem_visits {visit : Visit}
    (hvisit : visit ∈ grammar.visits depth held chain start workspace) {fault : Fault}
    {after : Workspace} (hfault : visit.result = .error fault after) :
    grammar.parseWithin depth held chain start workspace = .error fault after := by
  have hreflects := grammar.watchWithin_reflects depth held chain start { workspace }
  have hpasses : ¬ visit.Passes := by
    rintro ⟨outcome, after', hok⟩
    cases hok.symm.trans hfault
  unfold visits at hvisit
  cases hwatched : grammar.watchWithin depth held chain start { workspace } with
  | ok outcome last =>
      rw [hwatched] at hvisit
      have hnew := (hreflects.of_ok hwatched).2 visit hvisit
      exact absurd (hnew.resolve_left List.not_mem_nil) hpasses
  | error fault' last =>
      rw [hwatched] at hvisit
      obtain ⟨hparse, hvisits⟩ := hreflects.of_error hwatched
      have hnew := (hvisits visit hvisit).resolve_left List.not_mem_nil
      cases (hnew.resolve_left hpasses).symm.trans hfault
      exact hparse

end Grammar

end TokenGrammar
