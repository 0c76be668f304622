import TokenGrammar.Proofs.Linking
import TokenGrammar.Proofs.Observation

/-!
# Induction over a parse

A parse goes through the constructions of what its root comprises, down to the leaves, and enters a
further construction wherever a link or a deferred part is reached. A property of outcomes holds of
every parse that ends if it is carried (`Carried`): leaves have it, operators pass it on from their
parts, and a grammar has it that stands for another one which has it. The depth of the parse, the
workspace meanwhile and the cells in it do not occur in such an argument; `Carried.parseWithin` is
the one induction on the depth.
-/

namespace TokenGrammar

namespace Run

variable {α β : Type}

/-! ### What runs yield that end -/

theorem exists_misses_of_pure {a : α} {post : List Diagnostic → α → Prop} (hpost : post [] a)
    (before : Workspace) (value : α) (after : Workspace)
    (hrun : (pure a : Run α) before = .ok value after) : ∃ misses, post misses value := by
  obtain ⟨rfl, rfl⟩ := pure_eq_ok_iff.1 hrun
  exact ⟨[], hpost⟩

theorem exists_misses_of_bind {run : Run α} {next : α → Run β}
    {between : List Diagnostic → α → Prop} {post : List Diagnostic → β → Prop}
    (hrun : ∀ before a after, run before = .ok a after → ∃ misses, between misses a)
    (hnext : ∀ misses a, between misses a → ∀ before b after, next a before = .ok b after →
      ∃ later, post (misses ++ later) b)
    (before : Workspace) (value : β) (after : Workspace)
    (hbind : (run >>= next) before = .ok value after) : ∃ misses, post misses value := by
  obtain ⟨a, now, hfirst, hsecond⟩ := bind_eq_ok_iff.1 hbind
  obtain ⟨misses, ha⟩ := hrun before a now hfirst
  obtain ⟨later, hb⟩ := hnext misses a ha now value after hsecond
  exact ⟨misses ++ later, hb⟩

end Run

/-- A property of the outcomes of the grammars that a root comprises, and of the leaves that failed
meanwhile, which parsing carries from parts to wholes. -/
structure Carried (workspace : Workspace) (root : Grammar) (chain : Chain)
    (post : Option Nat → Grammar → Cursor → List Diagnostic → Outcome Value → Prop) : Prop where
  leaf : ∀ {home? : Option Nat} {matcher : Leaf} (start : Cursor),
    workspace.Comprises root home? (.leaf matcher) →
    post home? (.leaf matcher) start (matcher.outcome chain start).missed
      (matcher.outcome chain start)
  unary : ∀ (observation : Observation Run) {home? : Option Nat} {operator : UnaryOperator}
    {part : Grammar} {p : Parser Run Value},
    workspace.Comprises root home? (.unary operator part) →
    (∀ start, observation.Yields (p chain start) (post home? part start)) → ∀ start,
    observation.Yields (operator.parser p chain start) (post home? (.unary operator part) start)
  binary : ∀ (observation : Observation Run) {home? : Option Nat} {operator : BinaryOperator}
    {first second : Grammar} {p q : Parser Run Value},
    workspace.Comprises root home? (.binary operator first second) →
    (∀ start, observation.Yields (p chain start) (post home? first start)) →
    (∀ start, observation.Yields (q chain start) (post home? second start)) → ∀ start,
    observation.Yields (operator.parser p q chain start)
      (post home? (.binary operator first second) start)
  bind : ∀ (observation : Observation Run) {home? : Option Nat} {part : Grammar} {next : Selector}
    {p : Parser Run Value} {q : Value → Parser Run Value},
    workspace.Comprises root home? (.bind part next) →
    (∀ start, observation.Yields (p chain start) (post home? part start)) →
    (∀ value start, observation.Yields (q value chain start)
      (post home? (next.select value) start)) → ∀ start,
    observation.Yields (p.bind q chain start) (post home? (.bind part next) start)
  stands : ∀ {home? home'? : Option Nat} {grammar grammar' : Grammar} {start : Cursor}
    {misses : List Diagnostic} {outcome : Outcome Value},
    workspace.Comprises root home? grammar →
    workspace.StandsFor root home? grammar home'? grammar' →
    post home'? grammar' start misses outcome → post home? grammar start misses outcome

/-- What runs yield that start when the workspace has got at least as far as a base. -/
def Run.observation (workspace : Workspace) (root : Grammar) (base : Workspace) :
    Observation Run where
  Yields run post := ∀ before value after, workspace.Follows root before → base.Grows before →
    run before = .ok value after → workspace.Follows root after ∧ before.Grows after ∧
      ∃ misses, after.journal.misses = misses.reverse ++ before.journal.misses ∧ post misses value
  pure hpost before value after hfollows _ hrun := by
    obtain ⟨rfl, rfl⟩ := Run.pure_eq_ok_iff.1 hrun
    exact ⟨hfollows, .refl _, [], rfl, hpost⟩
  bind hrun hnext before value after hfollows hbase hbind := by
    obtain ⟨a, between, hfirst, hsecond⟩ := Run.bind_eq_ok_iff.1 hbind
    obtain ⟨hfollows', hgrows, misses, hmisses, ha⟩ := hrun before a between hfollows hbase hfirst
    obtain ⟨hfollows'', hgrows', later, hlater, hb⟩ :=
      hnext misses a ha between value after hfollows' (hbase.trans hgrows) hsecond
    refine ⟨hfollows'', hgrows.trans hgrows', misses ++ later, ?_, hb⟩
    rw [hlater, hmisses, List.reverse_append, List.append_assoc]

/-- What a link leads to, opened to be entered, and what is held meanwhile. -/
def Link.opened (held : List Grammar) : Link → Run (List Grammar × Grammar)
  | .rule place => do
      return (held, ← Run.demand .unsetRule ((← get).pattern? place))
  | .handle place => do
      Run.demandAlive held (.slot place) .droppedRule
      return (.linked (.rule place) :: held, ← Run.demand .unsetRule ((← get).pattern? place))
  | .cell place => return (held, ← Run.cellContent place)
  | .production place index => do
      let built ← Run.productionContent place index
      return (built :: held, built)
  | .reference place index => do
      Run.demandAlive held (.module place) .droppedModule
      let built ← Run.productionContent place index
      return (.linked (.production place index) :: built :: held, built)

/-- Following a link is opening it and entering what it leads to. -/
theorem Link.parser_eq_opened (enter : Enter) (held : List Grammar) (target : Link) (chain : Chain)
    (start : Cursor) : target.parser enter held chain start =
      target.opened held >>= fun opened => enter opened.1 opened.2 chain start := by
  cases target <;> simp only [Link.parser, Link.opened, bind_assoc, pure_bind]

/-- What opening a link comes to if it comes to an end. -/
inductive Link.Opening (held : List Grammar) (before : Workspace) :
    Link → List Grammar × Grammar → Workspace → Prop where
  | rule {slot : Nat} {pattern : Grammar} (hpattern : before.pattern? slot = some pattern) :
      Opening held before (.rule slot) (held, pattern) before
  | handle {slot : Nat} {pattern : Grammar} (halive : before.isAlive held (.slot slot))
      (hpattern : before.pattern? slot = some pattern) :
      Opening held before (.handle slot) (.linked (.rule slot) :: held, pattern) before
  | cell {place : Nat} {built : Grammar} {after : Workspace}
      (hcontent : Run.cellContent place before = .ok built after) :
      Opening held before (.cell place) (held, built) after
  | production {place index : Nat} {built : Grammar} {after : Workspace}
      (hcontent : Run.productionContent place index before = .ok built after) :
      Opening held before (.production place index) (built :: held, built) after
  | reference {place index : Nat} {built : Grammar} {after : Workspace}
      (halive : before.isAlive held (.module place))
      (hcontent : Run.productionContent place index before = .ok built after) :
      Opening held before (.reference place index)
        (.linked (.production place index) :: built :: held, built) after

theorem Link.opening_of_opened {held : List Grammar} {target : Link}
    {opened : List Grammar × Grammar} {before after : Workspace}
    (hrun : target.opened held before = .ok opened after) :
    target.Opening held before opened after := by
  cases target with
  | rule slot =>
      rw [Link.opened, Run.get_bind] at hrun
      obtain ⟨pattern, _, hdemand, hpure⟩ := Run.bind_eq_ok_iff.1 hrun
      obtain ⟨hpattern, rfl⟩ := Run.demand_eq_ok_iff.1 hdemand
      cases hpure
      exact .rule hpattern
  | handle slot =>
      obtain ⟨_, _, hdemand, hfound⟩ := Run.bind_eq_ok_iff.1 hrun
      obtain ⟨halive, rfl⟩ := Run.demandAlive_eq_ok hdemand
      rw [Run.get_bind] at hfound
      obtain ⟨pattern, _, hdemand, hpure⟩ := Run.bind_eq_ok_iff.1 hfound
      obtain ⟨hpattern, rfl⟩ := Run.demand_eq_ok_iff.1 hdemand
      cases hpure
      exact .handle halive hpattern
  | cell place =>
      obtain ⟨built, _, hcontent, hpure⟩ := Run.bind_eq_ok_iff.1 hrun
      cases hpure
      exact .cell hcontent
  | production place index =>
      obtain ⟨built, _, hcontent, hpure⟩ := Run.bind_eq_ok_iff.1 hrun
      cases hpure
      exact .production hcontent
  | reference place index =>
      obtain ⟨_, _, hdemand, hfound⟩ := Run.bind_eq_ok_iff.1 hrun
      obtain ⟨halive, rfl⟩ := Run.demandAlive_eq_ok hdemand
      obtain ⟨built, _, hcontent, hpure⟩ := Run.bind_eq_ok_iff.1 hfound
      cases hpure
      exact .reference halive hcontent

section Contents

variable {workspace : Workspace} {root : Grammar} {before after : Workspace} {built : Grammar}
  {home? : Option Nat}

theorem Workspace.Follows.entered_advances (h : workspace.Follows root before) (site : Site) :
    Advances workspace root before (before.entered site) :=
  ⟨h.modifyJournal _, .refl before, rfl⟩

theorem Run.build_builds {site : Site} {part : Grammar} {at? : Option Nat} {grammar : Grammar}
    (hcomprises : workspace.Comprises root home? part)
    (hpresents : workspace.Presents home? part at? grammar) (h : workspace.Follows root before)
    (hrun : Run.build site at? grammar before = .ok built after) :
    Linked workspace root home? part before built after := by
  rw [Run.build_eq] at hrun
  have hlinked := Grammar.link_builds part hcomprises hpresents (h.modifyJournal _) hrun
  exact hlinked.after ⟨h.modifyJournal _, .refl before, rfl⟩

theorem Run.partContent_builds {part grammar : Grammar}
    (hcomprises : workspace.Comprises root home? (.deferred part))
    (hpresents : workspace.Presents home? part none grammar) (h : workspace.Follows root before)
    (hrun : Run.partContent grammar before = .ok built after) :
    Opens workspace root home? (.deferred part) before built after := by
  have hentered := h.entered_advances (.part grammar)
  have hlinked := Run.build_builds (hcomprises.unfolded rfl) hpresents hentered.follows hrun
  exact ⟨home?, part, .unfolded rfl, hlinked.after hentered⟩

/-- That a cell serves a grammar: it holds a construction of what the grammar stands for, if it
holds anything, and otherwise that waits in it. -/
def Workspace.CellServes (workspace : Workspace) (root : Grammar) (now : Workspace) (place : Nat)
    (cell : Cell) (home? : Option Nat) (grammar : Grammar) : Prop :=
  ∃ home'? part, workspace.StandsFor root home? grammar home'? part ∧
    (∀ built, cell.built? = some built → Builds workspace root now.body? home'? part built) ∧
    (cell.built? = none → workspace.cellContent? place = none ∧
      workspace.Presents home'? part none cell.body)

/-- A cell that was opened meanwhile serves whatever stands for the part that waits in it. -/
theorem Workspace.Follows.serves_of_opened {now : Workspace} {place : Nat} {cell : Cell}
    {home'? : Option Nat} {grammar part : Grammar} (h : workspace.Follows root now)
    (hcell : now.cells[place]? = some cell) (hplace : workspace.cells.size ≤ place)
    (hcomprises : workspace.Comprises root home'? part)
    (hpresents : workspace.Presents home'? part none cell.body)
    (hstands : workspace.StandsFor root home? grammar home'? part) :
    workspace.CellServes root now place cell home? grammar := by
  have hempty : workspace.cellContent? place = none := by simp [Workspace.cellContent?, hplace]
  refine ⟨home'?, part, hstands, fun built hbuilt => ?_, fun _ => ⟨hempty, hpresents⟩⟩
  obtain hsame | hbuilds := h.cells place cell built hcell hbuilt
  · rw [hempty] at hsame
    cases hsame
  · exact hbuilds home'? part hcomprises hpresents

theorem Workspace.Follows.serves_link {now : Workspace} {place : Nat} {cell : Cell}
    (h : workspace.Follows root now) (hcell : now.cells[place]? = some cell)
    (hcomprises : workspace.Comprises root home? (.linked (.cell place))) :
    workspace.CellServes root now place cell home? (.linked (.cell place)) := by
  by_cases hplace : place < workspace.cells.size
  · obtain ⟨content, hcontent, hbody, hkept⟩ :=
      h.keptCells place workspace.cells[place] (Array.getElem?_eq_getElem hplace)
    rw [hcell] at hcontent
    cases hcontent
    cases hfirst : workspace.cells[place].built? with
    | some built =>
        have hunfold : workspace.meaning? home? (.linked (.cell place)) = some (none, built) := by
          simp [Workspace.meaning?, Workspace.target?, hplace, hfirst]
        refine ⟨none, built, .unfolded hunfold, fun built' hbuilt' => ?_, fun hempty => ?_⟩
        · rw [hkept built hfirst] at hbuilt'
          cases hbuilt'
          exact .refl _ built
        · rw [hkept built hfirst] at hempty
          cases hempty
    | none =>
        have hunfold : workspace.meaning? home? (.linked (.cell place))
            = some (none, workspace.cells[place].body) := by
          simp [Workspace.meaning?, Workspace.target?, hplace, hfirst]
        have hpresents : workspace.Presents none workspace.cells[place].body none cell.body :=
          .inl ⟨hbody, rfl⟩
        have hempty : workspace.cellContent? place = none := by
          simp [Workspace.cellContent?, hplace, hfirst]
        refine ⟨none, _, .unfolded hunfold, fun built hbuilt => ?_, fun _ => ⟨hempty, hpresents⟩⟩
        obtain hsame | hbuilds := h.cells place cell built hcell hbuilt
        · rw [hempty] at hsame
          cases hsame
        · exact hbuilds none _ (hcomprises.unfolded hunfold) hpresents
  · obtain ⟨home'?, part, honce, hpresents⟩ := h.opened place cell (Nat.le_of_not_lt hplace) hcell
    exact h.serves_of_opened hcell (Nat.le_of_not_lt hplace) (honce.unfolded rfl) hpresents
      (.opened (Nat.le_of_not_lt hplace) honce)

theorem Run.cellContent_builds {place : Nat} {grammar : Grammar}
    (hcomprises : workspace.Comprises root home? grammar) (h : workspace.Follows root before)
    (hserves : ∀ now cell, workspace.Follows root now → before.Grows now →
      now.cells[place]? = some cell → workspace.CellServes root now place cell home? grammar)
    (hrun : Run.cellContent place before = .ok built after) :
    Opens workspace root home? grammar before built after := by
  have hentered := h.entered_advances (.cell place)
  refine Opens.after hentered ?_
  obtain ⟨cell, hcell, hcontent⟩ := Run.cellContent_eq_ok hrun
  obtain ⟨home'?, part, hstands, hheld, hwaiting⟩ :=
    hserves _ cell hentered.follows hentered.grows hcell
  obtain ⟨hbuilt, rfl⟩ | ⟨hbuilt, between, hbuild, rfl⟩ := hcontent
  · exact .of_standsFor hentered.follows hstands (hheld _ hbuilt)
  · obtain ⟨hempty, hpresents⟩ := hwaiting hbuilt
    have hlinked :=
      Run.build_builds (hcomprises.standsFor hstands) hpresents hentered.follows hbuild
    have hbody : between.body? place = some cell.body :=
      hlinked.grows place cell.body (Option.map_eq_some_iff.2 ⟨cell, hcell, rfl⟩)
    have hfilled := hlinked.follows.fillCell hbody hempty fun _ _ hcomprises' hpresents' =>
      (Run.build_builds hcomprises' hpresents' hentered.follows hbuild).builds
    have hgrows := between.grows_fillCell place built
    exact ⟨home'?, part, hstands, ⟨hfilled, hlinked.grows.trans hgrows, hlinked.misses⟩,
      hlinked.builds.mono hgrows⟩

theorem Workspace.Follows.productionContent?_eq_none {now : Workspace} {place index : Nat}
    (h : workspace.Follows root now) (hempty : now.productionContent? place index = none) :
    workspace.productionContent? place index = none := by
  refine Option.eq_none_iff_forall_ne_some.2 fun content hfirst => ?_
  rw [h.keptProductions place index content hfirst] at hempty
  cases hempty

section Productions

variable {target : Link} {place index : Nat}
  (htarget : target = .production place index ∨ target = .reference place index)

include htarget

/-- Both kinds of links to a production lead to what is kept of it. -/
theorem Workspace.meaning?_of_kept (home? : Option Nat) {content : Grammar}
    (hcontent : workspace.productionContent? place index = some content) :
    workspace.meaning? home? (.linked target) = some (none, content) := by
  obtain rfl | rfl := htarget <;> simp [Workspace.meaning?, Workspace.target?, hcontent]

theorem Workspace.meaning?_of_definition (home? : Option Nat) {definition : Grammar}
    (hempty : workspace.productionContent? place index = none)
    (hdefinition : workspace.definition? place index = some definition) :
    workspace.meaning? home? (.linked target) = some (some place, definition) := by
  obtain rfl | rfl := htarget <;>
    simp [Workspace.meaning?, Workspace.target?, hempty, hdefinition]

theorem Run.productionContent_builds (hcomprises : workspace.Comprises root home? (.linked target))
    (h : workspace.Follows root before)
    (hrun : Run.productionContent place index before = .ok built after) :
    Opens workspace root home? (.linked target) before built after := by
  have hentered := h.entered_advances (.production place index)
  refine Opens.after hentered ?_
  obtain ⟨hcontent, rfl⟩ | ⟨hempty, definition, between, hdefinition, hbuild, rfl⟩ :=
    Run.productionContent_eq_ok hrun
  · cases hfirst : workspace.productionContent? place index with
    | some content =>
        obtain rfl := Option.some.inj ((h.keptProductions _ _ _ hfirst).symm.trans hcontent)
        have hmeaning := Workspace.meaning?_of_kept htarget home? hfirst
        exact .of_standsFor hentered.follows (.unfolded hmeaning) (.refl _ _)
    | none =>
        obtain hsame | ⟨definition, hdefinition, hbuilds⟩ := h.productions place index _ hcontent
        · rw [hfirst] at hsame
          cases hsame
        · have hmeaning := Workspace.meaning?_of_definition htarget home? hfirst hdefinition
          exact .of_standsFor hentered.follows (.unfolded hmeaning) hbuilds
  · have hfirst := h.productionContent?_eq_none hempty
    rw [h.definition?] at hdefinition
    have hmeaning := Workspace.meaning?_of_definition htarget home? hfirst hdefinition
    have hlinked := Run.build_builds (hcomprises.unfolded hmeaning) (.refl workspace _ _)
      hentered.follows hbuild
    exact ⟨some place, definition, .unfolded hmeaning,
      ⟨hlinked.follows.fillProduction hfirst hdefinition hlinked.builds, hlinked.grows,
        hlinked.misses⟩, hlinked.builds⟩

end Productions

end Contents

/-! ### The induction -/

section Parsing

variable {workspace : Workspace} {root : Grammar} {chain : Chain}
  {post : Option Nat → Grammar → Cursor → List Diagnostic → Outcome Value → Prop} {enter : Enter}

def Enter.Yields (workspace : Workspace) (root : Grammar) (chain : Chain)
    (post : Option Nat → Grammar → Cursor → List Diagnostic → Outcome Value → Prop)
    (enter : Enter) : Prop :=
  ∀ (base : Workspace) (held : List Grammar) {home? : Option Nat} {grammar built : Grammar}
    (start : Cursor), workspace.Comprises root home? grammar →
    Builds workspace root base.body? home? grammar built →
    (Run.observation workspace root base).Yields (enter held built chain start)
      (post home? grammar start)

theorem Enter.Yields.of_entered (henter : enter.Yields workspace root chain post)
    {base : Workspace} {run : Run (Outcome Value)} (start : Cursor)
    {condition : List Diagnostic → Outcome Value → Prop}
    (hrun : ∀ before value after, workspace.Follows root before → base.Grows before →
      run before = .ok value after → ∃ home? grammar held built between,
        workspace.Comprises root home? grammar ∧
          (∀ misses outcome, post home? grammar start misses outcome → condition misses outcome) ∧
          Linked workspace root home? grammar before built between ∧
          enter held built chain start between = .ok value after) :
    (Run.observation workspace root base).Yields run condition := by
  intro before value after hfollows hbase hvalue
  obtain ⟨_, _, held, built, between, hcomprises, hcondition, hlinked, hentered⟩ :=
    hrun before value after hfollows hbase hvalue
  obtain ⟨hfollows', hgrows, misses, hmisses, hpost⟩ :=
    henter between held start hcomprises hlinked.builds between value after hlinked.follows
      (.refl _) hentered
  exact ⟨hfollows', hlinked.grows.trans hgrows, misses, by rw [hmisses, hlinked.misses],
    hcondition _ _ hpost⟩

theorem Carried.of_opened (h : Carried workspace root chain post)
    (henter : enter.Yields workspace root chain post) {base : Workspace} {home? : Option Nat}
    {grammar : Grammar} {run : Run (Outcome Value)} {start : Cursor}
    (hcomprises : workspace.Comprises root home? grammar)
    (hrun : ∀ before value after, workspace.Follows root before → base.Grows before →
      run before = .ok value after → ∃ held built between,
        Opens workspace root home? grammar before built between ∧
          enter held built chain start between = .ok value after) :
    (Run.observation workspace root base).Yields run (post home? grammar start) := by
  refine henter.of_entered start fun before value after hfollows hbase hvalue => ?_
  obtain ⟨held, built, between, hopens, hentered⟩ := hrun before value after hfollows hbase hvalue
  obtain ⟨home'?, grammar', hstands, hlinked⟩ := hopens
  exact ⟨home'?, grammar', held, built, between, hcomprises.standsFor hstands,
    fun _ _ hpost => h.stands hcomprises hstands hpost, hlinked, hentered⟩

theorem Run.yields_parseNoting (base : Workspace) (matcher : Leaf) (start : Cursor)
    {condition : List Diagnostic → Outcome Value → Prop}
    (hpost : condition (matcher.outcome chain start).missed (matcher.outcome chain start)) :
    (Run.observation workspace root base).Yields (matcher.parseNoting chain start) condition := by
  intro before value after hfollows _ hrun
  rw [Leaf.parseNoting_eq] at hrun
  cases hrun
  refine ⟨hfollows.modifyJournal _, .refl before, (matcher.outcome chain start).missed, ?_, hpost⟩
  cases matcher.outcome chain start <;> rfl

/-- Tracing a part changes neither its outcome nor what was missed. -/
theorem Run.yields_traced {base : Workspace} {held : List Grammar} {label : String}
    {part : Grammar} {p : Parser Run Value} {start : Cursor}
    {condition : List Diagnostic → Outcome Value → Prop}
    (hp : (Run.observation workspace root base).Yields (p chain start) condition) :
    (Run.observation workspace root base).Yields (Run.traced held label part p chain start)
      condition := by
  intro before value after hfollows hbase hrun
  obtain ⟨now, _, hget, hrun⟩ := Run.bind_eq_ok_iff.1 hrun
  cases hget
  obtain ⟨_, _, hdemand, hrun⟩ := Run.bind_eq_ok_iff.1 hrun
  obtain ⟨_, rfl⟩ := Run.demand_eq_ok_iff.1 hdemand
  obtain ⟨_, _, hnote, hrun⟩ := Run.bind_eq_ok_iff.1 hrun
  cases hnote
  obtain ⟨outcome, between, hpart, hrun⟩ := Run.bind_eq_ok_iff.1 hrun
  obtain ⟨_, _, hnote, hpure⟩ := Run.bind_eq_ok_iff.1 hrun
  cases hnote
  obtain ⟨rfl, rfl⟩ := Run.pure_eq_ok_iff.1 hpure
  obtain ⟨hfollows', hgrows, misses, hmisses, hpost⟩ :=
    hp _ outcome between (hfollows.modifyJournal _) hbase hpart
  exact ⟨hfollows'.modifyJournal _, hgrows, misses, hmisses, hpost⟩

theorem Workspace.Follows.opens_pattern {home? : Option Nat} {target : Link} {slot : Nat}
    (htarget : target = .rule slot ∨ target = .handle slot) {before : Workspace}
    {pattern : Grammar} (h : workspace.Follows root before)
    (hpattern : before.pattern? slot = some pattern) :
    Opens workspace root home? (.linked target) before pattern before := by
  rw [h.pattern?] at hpattern
  have hunfold : workspace.meaning? home? (.linked target) = some (none, pattern) := by
    obtain rfl | rfl := htarget <;> simp [Workspace.meaning?, Workspace.target?, hpattern]
  exact .of_standsFor h (.unfolded hunfold) (.refl _ pattern)

theorem Link.opened_builds {held : List Grammar} {home? : Option Nat} {target : Link}
    {before after : Workspace} {opened : List Grammar × Grammar}
    (hcomprises : workspace.Comprises root home? (.linked target))
    (h : workspace.Follows root before) (hrun : target.opened held before = .ok opened after) :
    Opens workspace root home? (.linked target) before opened.2 after := by
  cases Link.opening_of_opened hrun with
  | rule hpattern => exact h.opens_pattern (.inl rfl) hpattern
  | handle _ hpattern => exact h.opens_pattern (.inr rfl) hpattern
  | cell hcontent =>
      exact Run.cellContent_builds hcomprises h
        (fun now cell hnow _ hcell => hnow.serves_link hcell hcomprises) hcontent
  | production hcontent => exact Run.productionContent_builds (.inl rfl) hcomprises h hcontent
  | reference _ hcontent => exact Run.productionContent_builds (.inr rfl) hcomprises h hcontent

/-- Opening the cell in which a part waits that was opened meanwhile yields a construction of it. -/
theorem Link.opened_cell_builds {held : List Grammar} {home? : Option Nat} {place : Nat}
    {part waiting : Grammar} {base before after : Workspace} {opened : List Grammar × Grammar}
    (hcomprises : workspace.Comprises root home? (.deferredOnce part))
    (hplace : workspace.cells.size ≤ place) (hbody : base.body? place = some waiting)
    (hpresents : workspace.Presents home? part none waiting) (h : workspace.Follows root before)
    (hbase : base.Grows before) (hrun : (Link.cell place).opened held before = .ok opened after) :
    Opens workspace root home? (.deferredOnce part) before opened.2 after := by
  cases Link.opening_of_opened hrun with
  | cell hcontent =>
      refine Run.cellContent_builds hcomprises h (fun now cell hnow hgrows hcell => ?_) hcontent
      have hwaiting := (hbase.trans hgrows) _ _ hbody
      rw [Workspace.body?, hcell] at hwaiting
      cases hwaiting
      exact hnow.serves_of_opened hcell hplace (hcomprises.unfolded rfl) hpresents (.unfolded rfl)

/-- Following a link yields what is carried if opening it yields a construction. -/
theorem Carried.link (h : Carried workspace root chain post)
    (henter : enter.Yields workspace root chain post) {base : Workspace} {held : List Grammar}
    {home? : Option Nat} {grammar : Grammar} {target : Link} {start : Cursor}
    (hcomprises : workspace.Comprises root home? grammar)
    (hopens : ∀ before opened after, workspace.Follows root before → base.Grows before →
      target.opened held before = .ok opened after →
        Opens workspace root home? grammar before opened.2 after) :
    (Run.observation workspace root base).Yields (target.parser enter held chain start)
      (post home? grammar start) := by
  refine h.of_opened henter hcomprises fun before value after hfollows hbase hrun => ?_
  rw [Link.parser_eq_opened] at hrun
  obtain ⟨opened, _, hopened, hrun⟩ := Run.bind_eq_ok_iff.1 hrun
  exact ⟨_, opened.2, _, hopens before opened _ hfollows hbase hopened, hrun⟩

theorem Run.yields_throw (base : Workspace) {α : Type} (fault : Fault)
    (condition : List Diagnostic → α → Prop) :
    (Run.observation workspace root base).Yields (throw fault : Run α) condition := by
  intro before value after _ _ hrun
  cases hrun

/-- What is carried holds of a construction if it holds of all that is entered from it. -/
theorem Carried.parser (h : Carried workspace root chain post)
    (henter : enter.Yields workspace root chain post) {base : Workspace} {held : List Grammar}
    {home? : Option Nat} {grammar built : Grammar}
    (hbuilds : Builds workspace root base.body? home? grammar built)
    (hcomprises : workspace.Comprises root home? grammar) (start : Cursor) :
    (Run.observation workspace root base).Yields (built.parser enter held chain start)
      (post home? grammar start) := by
  induction hbuilds generalizing start with
  | leaf => exact Run.yields_parseNoting base _ start (h.leaf start hcomprises)
  | unary _ ih => exact h.unary _ hcomprises (ih hcomprises.part) start
  | binary _ _ ihfirst ihsecond =>
      exact h.binary _ hcomprises (ihfirst hcomprises.first) (ihsecond hcomprises.second) start
  | bind _ hnext ih =>
      refine h.bind _ hcomprises (ih hcomprises.selecting) (fun value start => ?_) start
      have hcomprises := hcomprises.selected value
      refine henter.of_entered start fun before outcome after hfollows _ hrun => ?_
      obtain ⟨selected, _, hlink, hrun⟩ := Run.bind_eq_ok_iff.1 hrun
      exact ⟨_, _, _, selected, _, hcomprises, fun _ _ hpost => hpost,
        Grammar.link_builds _ hcomprises (hnext value) hfollows hlink, hrun⟩
  | traced _ ih =>
      refine Run.yields_traced (Observation.weaken _ (ih (hcomprises.unfolded rfl) start) ?_)
      exact fun misses outcome hpost => h.stands hcomprises (.unfolded rfl) hpost
  | deferred hpart =>
      refine h.of_opened henter hcomprises fun before outcome after hfollows _ hrun => ?_
      obtain ⟨content, _, hcontent, hrun⟩ := Run.bind_eq_ok_iff.1 hrun
      exact ⟨_, content, _, Run.partContent_builds hcomprises hpart hfollows hcontent, hrun⟩
  | opened hplace hbody hpart =>
      exact h.link henter hcomprises fun before opened after hfollows hbase hopened =>
        Link.opened_cell_builds hcomprises hplace hbody hpart hfollows hbase hopened
  | linked =>
      exact h.link henter hcomprises fun before opened after hfollows _ hopened =>
        Link.opened_builds hcomprises hfollows hopened
  | standing _ hstands _ ih =>
      exact Observation.weaken _ (ih (hcomprises.standsFor hstands) start)
        fun misses outcome hpost => h.stands hcomprises hstands hpost
  | named | siblingOr | shared | deferredOnce => exact Run.yields_throw base _ _

theorem Carried.parseWithin (h : Carried workspace root chain post) (depth : Nat) :
    Enter.Yields workspace root chain post (Grammar.parseWithin depth) := by
  induction depth with
  | zero => exact fun base _ _ _ _ _ _ _ => Run.yields_throw base _ _
  | succ depth ih =>
      intro base held home? grammar built start hcomprises hbuilds
      exact h.parser ih hbuilds hcomprises start

/-- **What is carried holds of every parse that ends**, with the leaves that failed meanwhile. -/
theorem Carried.of_parseWithin (h : Carried workspace root chain post) {depth : Nat}
    {held : List Grammar} {start : Cursor} {outcome : Outcome Value} {after : Workspace}
    (hrun : root.parseWithin depth held chain start workspace = .ok outcome after) :
    ∃ misses, after.journal.misses = misses.reverse ++ workspace.journal.misses ∧
      post none root start misses outcome := by
  have hyields := h.parseWithin depth workspace held start .root (.refl _ root)
  obtain ⟨_, _, hmisses⟩ :=
    hyields workspace outcome after (.refl workspace root) (.refl workspace) hrun
  exact hmisses

end Parsing

end TokenGrammar
