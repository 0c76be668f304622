import TokenGrammar.Proofs.Construction
import TokenGrammar.Proofs.Leaves

/-!
# Steps of a run

What the single steps of a run come to, in the workspace in which they are taken. A name is found or
it is missing. What was put off is what was kept for it, or it is built now and kept in turn, and
that is the same for parts that are built once and for productions.

A step that comes to an end is taken apart here once, and so is the linking of a grammar, with one
case for each constructor. What runs keep, build or note is proved from these cases elsewhere.
-/

namespace TokenGrammar

namespace Run

variable {α β : Type}

theorem get_bind (next : Workspace → Run α) (before : Workspace) :
    (get >>= next) before = next before before := rfl

theorem modify_bind (change : Workspace → Workspace) (next : Unit → Run α) (before : Workspace) :
    (modify change >>= next) before = next () (change before) := rfl

theorem bind_of_ok {run : Run α} {next : α → Run β} {a : α} {before between : Workspace}
    (h : run before = .ok a between) : (run >>= next) before = next a between := by
  show EStateM.bind run next before = _
  simp only [EStateM.bind, h]

theorem bind_of_error {run : Run α} {next : α → Run β} {fault : Fault} {before after : Workspace}
    (h : run before = .error fault after) : (run >>= next) before = .error fault after := by
  show EStateM.bind run next before = _
  simp only [EStateM.bind, h]

theorem bind_congr_of_eq {run run' : Run α} {next : α → Run β} {before : Workspace}
    (h : run before = run' before) : (run >>= next) before = (run' >>= next) before := by
  show EStateM.bind run next before = EStateM.bind run' next before
  rw [EStateM.bind, h, EStateM.bind]

theorem bind_eq_error_iff {run : Run α} {next : α → Run β} {fault : Fault}
    {before after : Workspace} : (run >>= next) before = .error fault after ↔
      run before = .error fault after ∨
        ∃ a between, run before = .ok a between ∧ next a between = .error fault after := by
  cases hrun : run before with
  | ok a between =>
      rw [bind_of_ok hrun]
      constructor
      · exact fun hnext => .inr ⟨a, between, rfl, hnext⟩
      · rintro (hfault | ⟨_, _, heq, hnext⟩)
        · cases hfault
        · cases heq
          exact hnext
  | error fault' between => simp [bind_of_error hrun]

theorem error_of_bind {run : Run α} {next : α → Run β} {fault : Fault} {before after : Workspace}
    (hnext : ∀ a between, next a between ≠ .error fault after)
    (h : (run >>= next) before = .error fault after) : run before = .error fault after :=
  (bind_eq_error_iff.1 h).resolve_right fun ⟨a, between, _, hfault⟩ => hnext a between hfault

theorem error_of_bind_pure {run : Run α} {f : α → β} {fault : Fault} {before after : Workspace}
    (h : (run >>= fun a => pure (f a)) before = .error fault after) :
    run before = .error fault after :=
  error_of_bind (fun _ _ hfault => by cases hfault) h

theorem demand_eq_error_iff {fault fault' : Fault} {value? : Option α} {before after : Workspace} :
    demand fault value? before = .error fault' after ↔
      value? = none ∧ fault = fault' ∧ before = after := by
  cases value? with
  | none =>
      show EStateM.Result.error fault before = .error fault' after ↔ _
      simp
  | some value =>
      show EStateM.Result.ok value before = .error fault' after ↔ _
      simp

theorem demandAlive_of {held : List Grammar} {keepable : Keepable} {fault : Fault}
    {before : Workspace} (h : before.isAlive held keepable) :
    demandAlive held keepable fault before = .ok () before := by
  rw [demandAlive, get_bind, if_pos h]
  rfl

theorem demandAlive_of_not {held : List Grammar} {keepable : Keepable} {fault : Fault}
    {before : Workspace} (h : ¬ before.isAlive held keepable) :
    demandAlive held keepable fault before = .error fault before := by
  rw [demandAlive, get_bind, if_neg h]
  rfl

theorem demandAlive_eq_ok {held : List Grammar} {keepable : Keepable} {fault : Fault}
    {before after : Workspace} {done : Unit}
    (hrun : demandAlive held keepable fault before = .ok done after) :
    before.isAlive held keepable ∧ after = before := by
  by_cases halive : before.isAlive held keepable
  · rw [demandAlive_of halive] at hrun
    cases hrun
    exact ⟨halive, rfl⟩
  · rw [demandAlive_of_not halive] at hrun
    cases hrun

end Run

/-! ### Leaves -/

theorem Leaf.parseNoting_eq (matcher : Leaf) (chain : Chain) (start : Cursor) :
    matcher.parseNoting chain start = (do
      modify (·.modifyJournal fun journal =>
        { journal with misses := (matcher.outcome chain start).missed ++ journal.misses })
      return matcher.outcome chain start : Run (Outcome Value)) := by
  rw [Leaf.parseNoting, Leaf.parser_eq_pure, pure_bind]
  cases matcher.outcome chain start <;> rfl

/-! ### Names -/

/-- What it means that a name is bound to nothing. -/
def Name.missing : Name → Fault
  | .sibling label => .unknownProduction label
  | name => .unbound name

theorem Name.resolve_eq (home? : Option Nat) (name : Name) (workspace : Workspace) :
    name.resolve home? workspace = match workspace.bound? home? name with
      | some found => .ok found workspace
      | none => .error name.missing workspace := by
  rw [Name.resolve, Run.get_bind]
  cases name with
  | parser label =>
      simp only [Workspace.bound?]
      cases workspace.parsers.find? label <;> rfl
  | production owner label =>
      simp only [Workspace.bound?]
      cases workspace.moduleNames.find? owner with
      | none => rfl
      | some place =>
          simp only [Option.bind_eq_bind, Option.bind_some, Run.demand, pure_bind]
          cases workspace.productionIndex? place label <;> rfl
  | rule label | handle label =>
      simp only [Workspace.bound?]
      cases workspace.rules.find? label <;> rfl
  | sibling label =>
      simp only [Workspace.bound?]
      cases workspace.siblingsAt home? label <;> rfl

theorem Grammar.link_siblingOr (home? : Option Nat) (name : String) (otherwise : Grammar)
    (before : Workspace) : (Grammar.siblingOr name otherwise).link home? before
      = match before.siblingsAt home? name with
        | some target => .ok (.linked target) before
        | none => otherwise.link home? before := by
  rw [Grammar.link, Run.get_bind]
  cases before.siblingsAt home? name <;> rfl

theorem Name.resolve_eq_ok {home? : Option Nat} {name : Name} {before after : Workspace}
    {built : Grammar} (hrun : name.resolve home? before = .ok built after) :
    before.bound? home? name = some built ∧ after = before := by
  rw [Name.resolve_eq] at hrun
  cases hbound : before.bound? home? name with
  | none =>
      rw [hbound] at hrun
      cases hrun
  | some found =>
      rw [hbound] at hrun
      cases hrun
      exact ⟨rfl, rfl⟩

/-! ### Linking -/

/-- What linking a grammar comes to if it comes to an end. -/
inductive Grammar.LinksTo (home? : Option Nat) :
    Grammar → Workspace → Grammar → Workspace → Prop where
  | leaf {matcher : Leaf} {before : Workspace} :
      LinksTo home? (.leaf matcher) before (.leaf matcher) before
  | unary {operator : UnaryOperator} {part built : Grammar} {before after : Workspace}
      (hpart : part.link home? before = .ok built after) :
      LinksTo home? (.unary operator part) before (.unary operator built) after
  | binary {operator : BinaryOperator} {first second builtFirst builtSecond : Grammar}
      {before between after : Workspace}
      (hfirst : first.link home? before = .ok builtFirst between)
      (hsecond : second.link home? between = .ok builtSecond after) :
      LinksTo home? (.binary operator first second) before
        (.binary operator builtFirst builtSecond) after
  | bind {part built : Grammar} {next : Selector} {before after : Workspace}
      (hpart : part.link home? before = .ok built after) :
      LinksTo home? (.bind part next) before
        (.bind built (next.anchor (after.siblingsAt home?))) after
  | traced {label : String} {part built : Grammar} {before after : Workspace}
      (hpart : part.link home? before = .ok built after) :
      LinksTo home? (.traced label part) before (.traced label built) after
  | deferred {part : Grammar} {before : Workspace} :
      LinksTo home? (.deferred part) before (.deferred (part.anchor (before.siblingsAt home?)))
        before
  | deferredOnce {part : Grammar} {before : Workspace} :
      LinksTo home? (.deferredOnce part) before (.linked (.cell before.cells.size))
        (before.openCell (part.anchor (before.siblingsAt home?)))
  | named {name : Name} {built : Grammar} {before : Workspace}
      (hbound : before.bound? home? name = some built) :
      LinksTo home? (.named name) before built before
  | sibling {name : String} {otherwise : Grammar} {target : Link} {before : Workspace}
      (hsibling : before.siblingsAt home? name = some target) :
      LinksTo home? (.siblingOr name otherwise) before (.linked target) before
  | otherwise {name : String} {otherwise built : Grammar} {before after : Workspace}
      (hnone : before.siblingsAt home? name = none)
      (hbuilt : otherwise.link home? before = .ok built after) :
      LinksTo home? (.siblingOr name otherwise) before built after
  | shared {label : String} {part built : Grammar} {before between : Workspace}
      (hpart : part.link home? before = .ok built between) :
      LinksTo home? (.shared label part) before built (between.storeParser label built)
  | linked {target : Link} {before : Workspace} :
      LinksTo home? (.linked target) before (.linked target) before

theorem Grammar.linksTo_of_link {home? : Option Nat} {grammar built : Grammar}
    {before after : Workspace} (hrun : grammar.link home? before = .ok built after) :
    grammar.LinksTo home? before built after := by
  cases grammar with
  | leaf matcher =>
      cases hrun
      exact .leaf
  | unary operator part =>
      obtain ⟨built, _, hpart, hpure⟩ := Run.bind_eq_ok_iff.1 hrun
      cases hpure
      exact .unary hpart
  | binary operator first second =>
      obtain ⟨builtFirst, between, hfirst, hrun⟩ := Run.bind_eq_ok_iff.1 hrun
      obtain ⟨builtSecond, _, hsecond, hpure⟩ := Run.bind_eq_ok_iff.1 hrun
      cases hpure
      exact .binary hfirst hsecond
  | bind part next =>
      obtain ⟨built, _, hpart, hpure⟩ := Run.bind_eq_ok_iff.1 hrun
      cases hpure
      exact .bind hpart
  | traced label part =>
      obtain ⟨built, _, hpart, hpure⟩ := Run.bind_eq_ok_iff.1 hrun
      cases hpure
      exact .traced hpart
  | deferred part =>
      cases hrun
      exact .deferred
  | deferredOnce part =>
      cases hrun
      exact .deferredOnce
  | named name =>
      obtain ⟨hbound, rfl⟩ := Name.resolve_eq_ok hrun
      exact .named hbound
  | siblingOr name otherwise =>
      rw [Grammar.link_siblingOr] at hrun
      cases hsibling : before.siblingsAt home? name with
      | none =>
          rw [hsibling] at hrun
          exact .otherwise hsibling hrun
      | some target =>
          rw [hsibling] at hrun
          cases hrun
          exact .sibling hsibling
  | shared label part =>
      obtain ⟨built, _, hpart, hpure⟩ := Run.bind_eq_ok_iff.1 hrun
      cases hpure
      exact .shared hpart
  | linked target =>
      cases hrun
      exact .linked

/-! ### Contents -/

namespace Workspace

def entered (workspace : Workspace) (site : Site) : Workspace :=
  workspace.modifyJournal fun journal => { journal with entries := site :: journal.entries }

def begun (workspace : Workspace) (site : Site) : Workspace :=
  workspace.modifyJournal fun journal => { journal with builds := site :: journal.builds }

end Workspace

namespace Run

variable {workspace : Workspace}

/-- What was kept for a part, or else what is built for it now, and kept in turn. -/
def keptOr (kept? : Option Grammar) (site : Site) (home? : Option Nat) (part : Grammar)
    (keep : Grammar → Workspace → Workspace) : Run Grammar :=
  match kept? with
  | some built => return built
  | none => do
      let built ← build site home? part
      modify (keep built)
      return built

theorem build_eq (site : Site) (home? : Option Nat) (part : Grammar) (workspace : Workspace) :
    build site home? part workspace = part.link home? (workspace.begun site) := rfl

theorem keptOr_eq_ok {kept? : Option Grammar} {site : Site} {home? : Option Nat}
    {part built : Grammar} {keep : Grammar → Workspace → Workspace} {after : Workspace}
    (hrun : keptOr kept? site home? part keep workspace = .ok built after) :
    (kept? = some built ∧ after = workspace) ∨ kept? = none ∧ ∃ between,
      build site home? part workspace = .ok built between ∧ after = keep built between := by
  cases kept? with
  | some kept =>
      cases hrun
      exact .inl ⟨rfl, rfl⟩
  | none =>
      obtain ⟨content, between, hbuild, hrun⟩ := bind_eq_ok_iff.1 hrun
      cases hrun
      exact .inr ⟨rfl, between, hbuild, rfl⟩

theorem keptOr_eq_error_iff {site : Site} {home? : Option Nat} {part : Grammar}
    {keep : Grammar → Workspace → Workspace} {fault : Fault} {after : Workspace} :
    keptOr none site home? part keep workspace = .error fault after ↔
      part.link home? (workspace.begun site) = .error fault after := by
  rw [keptOr, bind_eq_error_iff, build_eq]
  refine or_iff_left ?_
  rintro ⟨built, between, _, hkeep⟩
  cases hkeep

theorem partContent_eq (part : Grammar) (workspace : Workspace) :
    partContent part workspace
      = keptOr none (.part part) none part (fun _ => id) (workspace.entered (.part part)) := by
  have hbind : build (.part part) none part
      = build (.part part) none part >>= fun built => modify id >>= fun _ => pure built :=
    (bind_pure _).symm
  show build (.part part) none part (workspace.entered (.part part)) = _
  rw [hbind]
  rfl

theorem cellContent_eq {place : Nat} {body : Grammar} (hbody : workspace.body? place = some body) :
    cellContent place workspace
      = keptOr (workspace.cellContent? place) (.cell place) none body
          (fun built => (·.fillCell place built)) (workspace.entered (.cell place)) := by
  obtain ⟨⟨body, built?⟩, hcell, rfl⟩ := Option.map_eq_some_iff.1 hbody
  show (demand .unbuilt workspace.cells[place]? >>= fun cell => _)
    (workspace.entered (.cell place)) = _
  rw [Workspace.cellContent?, hcell, Option.bind_some]
  cases built? <;> rfl

theorem cellContent_eq_error {place : Nat} (hbody : workspace.body? place = none) :
    cellContent place workspace
      = (throw .unbuilt : Run Grammar) (workspace.entered (.cell place)) := by
  show (demand .unbuilt workspace.cells[place]? >>= fun cell => _)
    (workspace.entered (.cell place)) = _
  rw [Option.map_eq_none_iff.1 hbody]
  rfl

theorem cellContent_eq_ok {place : Nat} {built : Grammar} {after : Workspace}
    (hrun : cellContent place workspace = .ok built after) :
    ∃ cell, workspace.cells[place]? = some cell ∧
      ((cell.built? = some built ∧ after = workspace.entered (.cell place)) ∨
        cell.built? = none ∧ ∃ between,
          build (.cell place) none cell.body (workspace.entered (.cell place))
            = .ok built between ∧
          after = between.fillCell place built) := by
  cases hcell : workspace.cells[place]? with
  | none =>
      rw [cellContent_eq_error (by rw [Workspace.body?, hcell]; rfl)] at hrun
      cases hrun
  | some cell =>
      have hbody : workspace.body? place = some cell.body := by
        rw [Workspace.body?, hcell]
        rfl
      rw [cellContent_eq hbody, Workspace.cellContent?, hcell] at hrun
      exact ⟨cell, rfl, keptOr_eq_ok hrun⟩

theorem productionContent_eq {place index : Nat} {definition : Grammar}
    (hdefinition : workspace.productionContent? place index = none →
      workspace.definition? place index = some definition) :
    productionContent place index workspace
      = keptOr (workspace.productionContent? place index) (.production place index) (some place)
          definition (fun built => (·.fillProduction place index built))
          (workspace.entered (.production place index)) := by
  have hsame : (workspace.entered (.production place index)).productionContent? place index
      = workspace.productionContent? place index := rfl
  rw [productionContent, noteEntry, modify_bind, get_bind, ← hsame]
  unfold Workspace.entered
  generalize hcontent? : Workspace.productionContent? _ place index = content?
  cases content? with
  | some built => rfl
  | none =>
      show (demand .unbuilt (workspace.definition? place index) >>= fun definition => _)
        (workspace.entered (.production place index)) = _
      rw [hdefinition hcontent?]
      rfl

theorem productionContent_of_kept {place index : Nat} {built : Grammar}
    (hkept : workspace.productionContent? place index = some built) :
    productionContent place index workspace
      = .ok built (workspace.entered (.production place index)) := by
  have hdefinition : workspace.productionContent? place index = none →
      workspace.definition? place index = some built := fun hempty => by
    rw [hkept] at hempty
    cases hempty
  rw [productionContent_eq hdefinition, hkept]
  rfl

theorem productionContent_eq_error {place index : Nat}
    (hcontent : workspace.productionContent? place index = none)
    (hdefinition : workspace.definition? place index = none) :
    productionContent place index workspace
      = (throw .unbuilt : Run Grammar) (workspace.entered (.production place index)) := by
  have hsame : (workspace.entered (.production place index)).productionContent? place index
      = none := hcontent
  rw [productionContent, noteEntry, modify_bind, get_bind]
  unfold Workspace.entered at hsame ⊢
  rw [hsame]
  show (demand .unbuilt (workspace.definition? place index) >>= fun definition => _)
    (workspace.entered (.production place index)) = _
  rw [hdefinition]
  rfl

theorem productionContent_eq_ok {place index : Nat} {built : Grammar} {after : Workspace}
    (hrun : productionContent place index workspace = .ok built after) :
    (workspace.productionContent? place index = some built ∧
        after = workspace.entered (.production place index)) ∨
      workspace.productionContent? place index = none ∧ ∃ definition between,
        workspace.definition? place index = some definition ∧
        build (.production place index) (some place) definition
          (workspace.entered (.production place index)) = .ok built between ∧
        after = between.fillProduction place index built := by
  cases hcontent : workspace.productionContent? place index with
  | some content =>
      rw [productionContent_of_kept hcontent] at hrun
      cases hrun
      exact .inl ⟨rfl, rfl⟩
  | none =>
      cases hdefinition : workspace.definition? place index with
      | none =>
          rw [productionContent_eq_error hcontent hdefinition] at hrun
          cases hrun
      | some definition =>
          rw [productionContent_eq fun _ => hdefinition, hcontent] at hrun
          obtain ⟨_, between, hbuild, hafter⟩ := (keptOr_eq_ok hrun).resolve_left (by simp)
          exact .inr ⟨rfl, definition, between, rfl, hbuild, hafter⟩

end Run

end TokenGrammar
