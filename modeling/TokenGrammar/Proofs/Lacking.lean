import TokenGrammar.Proofs.Watching

/-!
# What a step lacks

Four things may be missing at a step of a parse: the pattern of a rule, the rule that a handle leads
to, a sibling that a definition names, and the module that a reference leads into. A step that lacks
one of them meets the fault which says so, and these faults are met nowhere else: a parse ends in
one of them exactly if one of its steps lacks something.
-/

namespace TokenGrammar

def Fault.isMissing : Fault → Bool
  | unsetRule | droppedRule | unknownProduction _ | droppedModule => true
  | unbound _ | unbuilt | endless | unprintable => false

/-! ### What may be missing -/

/-- That building a grammar gets to the name of a sibling that its module does not have. -/
inductive Grammar.Misses (home? : Option Nat) (name : String) : Grammar → Workspace → Prop where
  | named {now : Workspace} : now.siblingsAt home? name = none →
      Misses home? name (.named (.sibling name)) now
  | unary {operator : UnaryOperator} {part : Grammar} {now : Workspace} :
      Misses home? name part now → Misses home? name (.unary operator part) now
  | first {operator : BinaryOperator} {first second : Grammar} {now : Workspace} :
      Misses home? name first now → Misses home? name (.binary operator first second) now
  | second {operator : BinaryOperator} {first second built : Grammar} {now between : Workspace} :
      first.link home? now = .ok built between → Misses home? name second between →
      Misses home? name (.binary operator first second) now
  | selecting {part : Grammar} {next : Selector} {now : Workspace} :
      Misses home? name part now → Misses home? name (.bind part next) now
  | traced {label : String} {part : Grammar} {now : Workspace} :
      Misses home? name part now → Misses home? name (.traced label part) now
  | otherwise {other : String} {otherwise : Grammar} {now : Workspace} :
      now.siblingsAt home? other = none → Misses home? name otherwise now →
      Misses home? name (.siblingOr other otherwise) now
  | shared {label : String} {part : Grammar} {now : Workspace} :
      Misses home? name part now → Misses home? name (.shared label part) now

theorem Grammar.Misses.link_eq {home? : Option Nat} {name : String} {grammar : Grammar}
    {now : Workspace} (h : grammar.Misses home? name now) :
    ∃ after, grammar.link home? now = .error (.unknownProduction name) after := by
  have hget (now : Workspace) : (get : Run Workspace) now = .ok now now := rfl
  induction h with
  | @named now hmissing =>
      refine ⟨now, (Run.bind_of_ok (hget now)).trans (Run.bind_of_error ?_)⟩
      rw [hmissing]
      rfl
  | unary _ ih | first _ ih | selecting _ ih | traced _ ih | shared _ ih =>
      obtain ⟨after, hlink⟩ := ih
      exact ⟨after, Run.bind_of_error hlink⟩
  | second hfirst _ ih =>
      obtain ⟨after, hlink⟩ := ih
      exact ⟨after, (Run.bind_of_ok hfirst).trans (Run.bind_of_error hlink)⟩
  | @otherwise other otherwise now hother _ ih =>
      obtain ⟨after, hlink⟩ := ih
      refine ⟨after, (Run.bind_of_ok (hget now)).trans ?_⟩
      rw [hother]
      exact hlink

namespace Visit

/-- What is built at a step before anything is read: a part, its home, and the workspace in which it
is built. Nothing is built anew that was kept. -/
def due? (visit : Visit) : Option (Option Nat × Grammar × Workspace) :=
  match visit.subject with
  | .selected part => some (none, part, visit.before)
  | .built (.deferred part) => part? (.part part) none none (some part)
  | .built (.linked (.cell place)) =>
      part? (.cell place) (visit.before.cellContent? place) none (visit.before.body? place)
  | .built (.linked (.production place index)) => production? place index
  | .built (.linked (.reference place index)) =>
      if visit.before.isAlive visit.held (.module place) then production? place index else none
  | .built _ => none
where
  part? (site : Site) (kept? : Option Grammar) (home? : Option Nat) (part? : Option Grammar) :
      Option (Option Nat × Grammar × Workspace) :=
    match kept? with
    | some _ => none
    | none => part?.map fun part => (home?, part, (visit.before.entered site).begun site)
  production? (place index : Nat) : Option (Option Nat × Grammar × Workspace) :=
    part? (.production place index) (visit.before.productionContent? place index) (some place)
      (visit.before.definition? place index)

/-- What may be missing at a step, and the fault that says so. -/
inductive Lacks (visit : Visit) : Fault → Prop where
  | rule {slot : Nat} : visit.subject = .built (.linked (.rule slot)) →
      visit.before.pattern? slot = none → visit.Lacks .unsetRule
  /-- A handle to a rule without a pattern. -/
  | unset {slot : Nat} : visit.subject = .built (.linked (.handle slot)) →
      visit.before.isAlive visit.held (.slot slot) → visit.before.pattern? slot = none →
      visit.Lacks .unsetRule
  | handle {slot : Nat} : visit.subject = .built (.linked (.handle slot)) →
      ¬ visit.before.isAlive visit.held (.slot slot) → visit.Lacks .droppedRule
  /-- A definition that refers to a sibling which its module does not have. -/
  | sibling {home? : Option Nat} {part : Grammar} {now : Workspace} {name : String} :
      visit.due? = some (home?, part, now) → part.Misses home? name now →
      visit.Lacks (.unknownProduction name)
  | reference {place index : Nat} : visit.subject = .built (.linked (.reference place index)) →
      ¬ visit.before.isAlive visit.held (.module place) → visit.Lacks .droppedModule

end Visit

section Lacking

variable {after : Workspace} {fault : Fault}

theorem Visit.result_eq_of_due? {visit : Visit} {home? : Option Nat} {part : Grammar}
    {now : Workspace} (hdue : visit.due? = some (home?, part, now))
    (hlink : part.link home? now = .error fault after) : visit.result = .error fault after := by
  obtain ⟨subject, depth, held, chain, start, before⟩ := visit
  have hproduction {place index : Nat} {subject : Subject}
      (hdue : due?.production? ⟨subject, depth, held, chain, start, before⟩ place index
        = some (home?, part, now)) :
      Run.productionContent place index before = .error fault after := by
    unfold due?.production? due?.part? at hdue
    split at hdue
    · cases hdue
    · rename_i hcontent
      obtain ⟨definition, hdefinition, hsame⟩ := Option.map_eq_some_iff.1 hdue
      cases hsame
      rw [Run.productionContent_eq fun _ => hdefinition, hcontent]
      exact Run.keptOr_eq_error_iff.2 hlink
  unfold due? at hdue
  split at hdue <;> rename_i hsubject <;> dsimp only at hsubject <;> subst hsubject
  · cases hdue
    exact Run.bind_of_error hlink
  · cases hdue
    refine Run.bind_of_error (?_ : Run.partContent part before = .error fault after)
    rw [Run.partContent_eq]
    exact Run.keptOr_eq_error_iff.2 hlink
  · rename_i place
    unfold due?.part? at hdue
    split at hdue
    · cases hdue
    · rename_i hcontent
      obtain ⟨body, hbody, hsame⟩ := Option.map_eq_some_iff.1 hdue
      cases hsame
      refine Run.bind_of_error (?_ : Run.cellContent place before = .error fault after)
      rw [Run.cellContent_eq hbody]
      dsimp only at hcontent
      rw [hcontent]
      exact Run.keptOr_eq_error_iff.2 hlink
  · exact Run.bind_of_error (hproduction hdue)
  · split at hdue
    · rename_i halive
      exact (Run.bind_of_ok (Run.demandAlive_of halive)).trans
        (Run.bind_of_error (hproduction hdue))
    · cases hdue
  · cases hdue

theorem Visit.Lacks.result_eq {visit : Visit} (h : visit.Lacks fault) :
    ∃ after, visit.result = .error fault after := by
  obtain ⟨subject, depth, held, chain, start, before⟩ := visit
  have hget : (get : Run Workspace) before = .ok before before := rfl
  cases h with
  | rule hsubject hpattern =>
      dsimp only at hsubject hpattern
      subst hsubject
      refine ⟨before, (Run.bind_of_ok hget).trans (Run.bind_of_error ?_)⟩
      rw [hpattern]
      rfl
  | unset hsubject halive hpattern =>
      dsimp only at hsubject halive hpattern
      subst hsubject
      refine ⟨before, (Run.bind_of_ok (Run.demandAlive_of halive)).trans
        ((Run.bind_of_ok hget).trans (Run.bind_of_error ?_))⟩
      rw [hpattern]
      rfl
  | handle hsubject hdropped | reference hsubject hdropped =>
      dsimp only at hsubject hdropped
      subst hsubject
      exact ⟨before, Run.bind_of_error (Run.demandAlive_of_not hdropped)⟩
  | sibling hdue hmisses =>
      obtain ⟨after, hlink⟩ := hmisses.link_eq
      exact ⟨after, result_eq_of_due? hdue hlink⟩

end Lacking

/-! ### Nothing else is missing -/

section Missing

variable {fault : Fault} (hmissing : fault.isMissing)

include hmissing

/-- Building a grammar meets one of these faults only if it gets to a sibling that is not there, by
induction on the grammar. -/
theorem Grammar.misses_of_link_eq {home? : Option Nat} :
    ∀ (grammar : Grammar) {now after : Workspace}, grammar.link home? now = .error fault after →
      ∃ name, fault = .unknownProduction name ∧ grammar.Misses home? name now
  | .leaf _, _, _, hlink | .linked _, _, _, hlink | .deferred _, _, _, hlink
  | .deferredOnce _, _, _, hlink => nomatch hlink
  | .unary operator part, _, _, hlink => by
      have hpart := Run.error_of_bind_pure hlink
      obtain ⟨name, hname, hmisses⟩ := part.misses_of_link_eq hpart
      exact ⟨name, hname, hmisses.unary⟩
  | .bind part next, _, _, hlink => by
      have hpart := Run.error_of_bind (by rintro _ _ ⟨⟩) hlink
      obtain ⟨name, hname, hmisses⟩ := part.misses_of_link_eq hpart
      exact ⟨name, hname, hmisses.selecting⟩
  | .traced label part, _, _, hlink => by
      have hpart := Run.error_of_bind_pure hlink
      obtain ⟨name, hname, hmisses⟩ := part.misses_of_link_eq hpart
      exact ⟨name, hname, hmisses.traced⟩
  | .shared label part, _, _, hlink => by
      have hpart := Run.error_of_bind (by rintro _ _ ⟨⟩) hlink
      obtain ⟨name, hname, hmisses⟩ := part.misses_of_link_eq hpart
      exact ⟨name, hname, hmisses.shared⟩
  | .binary operator first second, _, _, hlink => by
      obtain hfirst | ⟨built, between, hfirst, hlink⟩ := Run.bind_eq_error_iff.1 hlink
      · obtain ⟨name, hname, hmisses⟩ := first.misses_of_link_eq hfirst
        exact ⟨name, hname, hmisses.first⟩
      · have hsecond := Run.error_of_bind_pure hlink
        obtain ⟨name, hname, hmisses⟩ := second.misses_of_link_eq hsecond
        exact ⟨name, hname, hmisses.second hfirst⟩
  | .named name, now, _, hlink => by
      rw [Grammar.link, name.resolve_eq] at hlink
      cases hbound : now.bound? home? name with
      | some found =>
          rw [hbound] at hlink
          cases hlink
      | none =>
          rw [hbound] at hlink
          cases hlink
          cases name with
          | sibling label => exact ⟨label, rfl, .named (Option.map_eq_none_iff.1 hbound)⟩
          | rule | handle | parser | production => cases hmissing
  | .siblingOr other otherwise, now, _, hlink => by
      rw [Grammar.link_siblingOr] at hlink
      cases hother : now.siblingsAt home? other with
      | some target =>
          rw [hother] at hlink
          cases hlink
      | none =>
          rw [hother] at hlink
          obtain ⟨name, hname, hmisses⟩ := otherwise.misses_of_link_eq hlink
          exact ⟨name, hname, hmisses.otherwise hother⟩

namespace Visit

variable {visit : Visit} {after : Workspace}

/-- Where something is built, only a sibling may be missing. -/
theorem lacks_of_due? {home? : Option Nat} {part : Grammar} {now : Workspace}
    (hdue : visit.due? = some (home?, part, now))
    (hlink : part.link home? now = .error fault after) : visit.Lacks fault := by
  obtain ⟨name, rfl, hmisses⟩ := part.misses_of_link_eq hmissing hlink
  exact .sibling hdue hmisses

theorem lacks_of_keptOr {kept? : Option Grammar} {site : Site} {home? : Option Nat}
    {part : Grammar} {keep : Grammar → Workspace → Workspace}
    (hdue : visit.due? = due?.part? visit site kept? home? (some part))
    (hrun : Run.keptOr kept? site home? part keep (visit.before.entered site)
      = .error fault after) : visit.Lacks fault := by
  cases kept? with
  | some built => cases hrun
  | none => exact lacks_of_due? hmissing hdue (Run.keptOr_eq_error_iff.1 hrun)

theorem lacks_of_cellContent {place : Nat}
    (hdue : visit.due? = due?.part? visit (.cell place) (visit.before.cellContent? place) none
      (visit.before.body? place))
    (hrun : Run.cellContent place visit.before = .error fault after) : visit.Lacks fault := by
  cases hbody : visit.before.body? place with
  | some body =>
      rw [Run.cellContent_eq hbody] at hrun
      rw [hbody] at hdue
      exact lacks_of_keptOr hmissing hdue hrun
  | none =>
      rw [Run.cellContent_eq_error hbody] at hrun
      cases hrun
      cases hmissing

theorem lacks_of_productionContent {place index : Nat}
    (hdue : visit.due? = due?.production? visit place index)
    (hrun : Run.productionContent place index visit.before = .error fault after) :
    visit.Lacks fault := by
  unfold due?.production? at hdue
  cases hdefinition : visit.before.definition? place index with
  | some definition =>
      rw [Run.productionContent_eq fun _ => hdefinition] at hrun
      rw [hdefinition] at hdue
      exact lacks_of_keptOr hmissing hdue hrun
  | none =>
      cases hcontent : visit.before.productionContent? place index with
      | none =>
          rw [Run.productionContent_eq_error hcontent hdefinition] at hrun
          cases hrun
          cases hmissing
      | some built =>
          rw [Run.productionContent_of_kept hcontent] at hrun
          cases hrun

theorem lacks_of_opened {target : Link} (hsubject : visit.subject = .built (.linked target))
    (hrun : target.opened visit.held visit.before = .error fault after) : visit.Lacks fault := by
  have hpattern {slot : Nat} {next : Grammar → List Grammar × Grammar}
      (hrun : (get >>= fun now => Run.demand .unsetRule (now.pattern? slot) >>= fun pattern =>
        pure (next pattern) : Run (List Grammar × Grammar)) visit.before = .error fault after) :
      visit.before.pattern? slot = none ∧ fault = .unsetRule := by
    rw [Run.get_bind] at hrun
    have hdemand := Run.error_of_bind_pure hrun
    obtain ⟨hnone, rfl, _⟩ := Run.demand_eq_error_iff.1 hdemand
    exact ⟨hnone, rfl⟩
  cases target with
  | rule slot =>
      obtain ⟨hnone, rfl⟩ := hpattern hrun
      exact .rule hsubject hnone
  | handle slot =>
      by_cases halive : visit.before.isAlive visit.held (.slot slot)
      · rw [Link.opened, Run.bind_of_ok (Run.demandAlive_of halive)] at hrun
        obtain ⟨hnone, rfl⟩ := hpattern hrun
        exact .unset hsubject halive hnone
      · rw [Link.opened, Run.bind_of_error (Run.demandAlive_of_not halive)] at hrun
        cases hrun
        exact .handle hsubject halive
  | cell place =>
      have hcontent := Run.error_of_bind_pure hrun
      exact lacks_of_cellContent hmissing (by rw [due?, hsubject]) hcontent
  | production place index =>
      have hcontent := Run.error_of_bind_pure hrun
      exact lacks_of_productionContent hmissing (by rw [due?, hsubject]) hcontent
  | reference place index =>
      by_cases halive : visit.before.isAlive visit.held (.module place)
      · rw [Link.opened, Run.bind_of_ok (Run.demandAlive_of halive)] at hrun
        have hcontent := Run.error_of_bind_pure hrun
        refine lacks_of_productionContent hmissing ?_ hcontent
        rw [due?, hsubject]
        exact if_pos halive
      · rw [Link.opened, Run.bind_of_error (Run.demandAlive_of_not halive)] at hrun
        cases hrun
        exact .reference hsubject halive

end Visit

end Missing

/-! ### Every fault is accounted for -/

namespace Watched

variable {α β : Type}

/-- That a run whose fault says that something is missing went through a step that lacks it. Visits
are only added. -/
def Accounts (run : Watched α) (before : Diary) : Prop :=
  Lands run before (fun _ after => before.visits ⊆ after.visits) fun fault after =>
    before.visits ⊆ after.visits ∧ (fault.isMissing → ∃ visit ∈ after.visits, visit.Lacks fault)

theorem Accounts.bind {run : Watched α} {next : α → Watched β} {before : Diary}
    (hrun : run.Accounts before) (hnext : ∀ a between, (next a).Accounts between) :
    (run >>= next).Accounts before :=
  Lands.bind hrun fun a between hkept =>
    (hnext a between).imp (fun _ _ hafter => List.Subset.trans hkept hafter)
      fun _ _ hafter => ⟨List.Subset.trans hkept hafter.1, hafter.2⟩

def accounting : Correspondence Watched Watched where
  Relates run _ := ∀ before, run.Accounts before
  pure _ before := List.Subset.refl before.visits
  bind hrun hnext before := (hrun before).bind hnext

theorem ofRun_accounts {run : Run α} {before : Diary}
    (hlacks : ∀ {fault after}, run before.workspace = .error fault after → fault.isMissing →
      ∃ visit ∈ before.visits, visit.Lacks fault) : (ofRun run).Accounts before :=
  lands_ofRun (.of_results (fun _ _ _ => List.Subset.refl _)
    fun _ _ hrun => ⟨List.Subset.refl _, hlacks hrun⟩)

theorem visit_accounts {subject : Subject} {depth : Nat} {held : List Grammar}
    {p : Parser Watched Value}
    (hp : ∀ chain start (before : Diary),
      ⟨subject, depth, held, chain, start, before.workspace⟩ ∈ before.visits →
        (p chain start).Accounts before) :
    accounting.Parsers (visit subject depth held p) (visit subject depth held p) := by
  intro chain start before
  have hkept : before.visits ⊆ (before.note subject depth held chain start).visits :=
    List.subset_cons_self _ _
  refine lands_visit ((hp chain start _ List.mem_cons_self).imp (fun outcome after hafter => ?_)
    fun fault after hafter => ?_)
  · exact List.Subset.trans hkept hafter
  · exact ⟨List.Subset.trans hkept hafter.1, hafter.2⟩

theorem visit_accounts_of_parsers {subject : Subject} {depth : Nat} {held : List Grammar}
    {p : Parser Watched Value} (hp : accounting.Parsers p p) :
    accounting.Parsers (visit subject depth held p) (visit subject depth held p) :=
  visit_accounts fun chain start before _ => hp chain start before

end Watched

namespace Grammar

open Watched

section Entering

variable {depth : Nat} {enter : List Grammar → Grammar → Parser Watched Value} {held : List Grammar}
  (henter : ∀ held grammar, accounting.Parsers (enter held grammar) (enter held grammar))

include henter

theorem watchedParser_accounts : ∀ grammar : Grammar, accounting.Parsers
    (grammar.watchedParser depth enter held) (grammar.watchedParser depth enter held)
  | leaf matcher => by
      refine visit_accounts fun chain start before _ => ofRun_accounts fun hrun => ?_
      rw [Leaf.parseNoting_eq] at hrun
      cases hrun
  | unary operator part => visit_accounts_of_parsers (part.watchedParser_accounts.unary operator)
  | binary operator first second =>
      visit_accounts_of_parsers
        (first.watchedParser_accounts.binary operator second.watchedParser_accounts)
  | bind part next => by
      refine visit_accounts_of_parsers (part.watchedParser_accounts.bind fun value => ?_)
      refine visit_accounts fun chain start before hnoted => ?_
      refine .bind (ofRun_accounts fun hrun hmissing => ⟨_, hnoted, ?_⟩) fun selected =>
        henter _ _ chain start
      exact Visit.lacks_of_due? hmissing rfl hrun
  | traced label part => by
      refine visit_accounts_of_parsers fun chain start before => ?_
      refine .bind (ofRun_accounts fun hrun hmissing => ?_) fun _ between => ?_
      · -- a part that cannot be announced has no representation
        rw [Run.get_bind] at hrun
        have hdemand := Run.error_of_bind (by rintro _ _ ⟨⟩) hrun
        obtain ⟨_, rfl, _⟩ := Run.demand_eq_error_iff.1 hdemand
        cases hmissing
      · refine (part.watchedParser_accounts chain start between).bind fun outcome between => ?_
        exact .bind (ofRun_accounts fun hrun => nomatch hrun) fun _ _ => List.Subset.refl _
  | deferred part => by
      refine visit_accounts fun chain start before hnoted => ?_
      refine .bind (ofRun_accounts fun hrun hmissing => ⟨_, hnoted, ?_⟩) fun built =>
        henter _ _ chain start
      rw [Run.partContent_eq] at hrun
      exact Visit.lacks_of_keptOr hmissing rfl hrun
  | linked target => by
      refine visit_accounts fun chain start before hnoted => ?_
      refine .bind (ofRun_accounts fun hrun hmissing => ⟨_, hnoted, ?_⟩) fun opened =>
        henter _ _ chain start
      exact Visit.lacks_of_opened hmissing rfl hrun
  | named _ | siblingOr _ _ | shared _ _ | deferredOnce _ =>
      visit_accounts fun _ _ _ _ => ⟨List.Subset.refl _, nofun⟩

end Entering

theorem watchWithin_accounts (depth : Nat) : ∀ (held : List Grammar) (grammar : Grammar),
    accounting.Parsers (grammar.watchWithin depth held) (grammar.watchWithin depth held) := by
  induction depth with
  | zero => exact fun _ _ _ _ _ => ⟨List.Subset.refl _, nofun⟩
  | succ depth ih => exact fun _ grammar => grammar.watchedParser_accounts ih

variable {depth : Nat} {held : List Grammar} {grammar : Grammar} {chain : Chain} {start : Cursor}
  {workspace : Workspace} {fault : Fault}

/-- **A parse ends in one of these faults exactly if one of its steps lacks something.** -/
theorem error_iff_lacks (hmissing : fault.isMissing) :
    (∃ after, grammar.parseWithin depth held chain start workspace = .error fault after) ↔
      ∃ visit ∈ grammar.visits depth held chain start workspace, visit.Lacks fault := by
  constructor
  · rintro ⟨after, hparse⟩
    have hreflects := grammar.watchWithin_reflects depth held chain start { workspace }
    have haccounts := grammar.watchWithin_accounts depth held chain start { workspace }
    unfold visits
    cases hwatched : grammar.watchWithin depth held chain start { workspace } with
    | ok outcome last => cases (hreflects.of_ok hwatched).1.symm.trans hparse
    | error fault' last =>
        cases (hreflects.of_error hwatched).1.symm.trans hparse
        exact (haccounts.of_error hwatched).2 hmissing
  · rintro ⟨visit, hvisit, hlacks⟩
    obtain ⟨after, hresult⟩ := hlacks.result_eq
    exact ⟨after, error_of_mem_visits hvisit hresult⟩

end Grammar

end TokenGrammar
