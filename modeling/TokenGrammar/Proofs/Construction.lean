import TokenGrammar.Proofs.Unfolding
import TokenGrammar.Grammar.Parsing

/-!
# What building yields

A run builds the deferred parts that it reaches: names give way to links, and a part that is built
once gives way to a cell. What was built still is a construction of the grammar it was built from,
part by part, and the workspace meanwhile follows the one at the beginning: patterns, names and
definitions are the same, and whatever it has built and kept since then is a construction of what
it was built from. Linking is the step that has to respect all this, and `link_builds` says that it
does.
-/

namespace TokenGrammar

namespace Workspace

/-- How a part comes to be built: with the siblings of its home, or anchored before and then without
any. -/
def Presents (workspace : Workspace) (home? : Option Nat) (part : Grammar) (at? : Option Nat)
    (grammar : Grammar) : Prop :=
  grammar = part ∧ at? = home? ∨ grammar = part.anchor (workspace.siblingsAt home?) ∧ at? = none

def body? (workspace : Workspace) (place : Nat) : Option Grammar :=
  workspace.cells[place]?.map (·.body)

def Grows (before after : Workspace) : Prop :=
  ∀ place body, before.body? place = some body → after.body? place = some body

theorem Grows.refl (workspace : Workspace) : workspace.Grows workspace := fun _ _ h => h

theorem Grows.trans {before between after : Workspace} (h : before.Grows between)
    (h' : between.Grows after) : before.Grows after := fun place body hbody =>
  h' place body (h place body hbody)

end Workspace

/-- That the second grammar is a construction of the first one in its home. Which parts wait in
which cells is all that has to be known of the workspace meanwhile. A link is built as it is; what
it leads to is another construction. -/
inductive Builds (workspace : Workspace) (root : Grammar) (body? : Nat → Option Grammar) :
    Option Nat → Grammar → Grammar → Prop where
  | leaf {home? : Option Nat} {matcher : Leaf} :
      Builds workspace root body? home? (.leaf matcher) (.leaf matcher)
  | unary {home? : Option Nat} {operator : UnaryOperator} {part built : Grammar} :
      Builds workspace root body? home? part built →
      Builds workspace root body? home? (.unary operator part) (.unary operator built)
  | binary {home? : Option Nat} {operator : BinaryOperator} {p q p' q' : Grammar} :
      Builds workspace root body? home? p p' → Builds workspace root body? home? q q' →
      Builds workspace root body? home? (.binary operator p q) (.binary operator p' q')
  | bind {home? : Option Nat} {part built : Grammar} {next next' : Selector} :
      Builds workspace root body? home? part built →
      (∀ value, workspace.Presents home? (next.select value) none (next'.select value)) →
      Builds workspace root body? home? (.bind part next) (.bind built next')
  | traced {home? : Option Nat} {label : String} {part built : Grammar} :
      Builds workspace root body? home? part built →
      Builds workspace root body? home? (.traced label part) (.traced label built)
  | deferred {home? : Option Nat} {part waiting : Grammar} :
      workspace.Presents home? part none waiting →
      Builds workspace root body? home? (.deferred part) (.deferred waiting)
  | opened {home? : Option Nat} {place : Nat} {part waiting : Grammar} :
      workspace.cells.size ≤ place → body? place = some waiting →
      workspace.Presents home? part none waiting →
      Builds workspace root body? home? (.deferredOnce part) (.linked (.cell place))
  | linked {home? : Option Nat} {target : Link} :
      Builds workspace root body? home? (.linked target) (.linked target)
  | standing {home? home'? : Option Nat} {grammar grammar' built : Grammar} :
      (∀ target, grammar ≠ .linked target) →
      workspace.StandsFor root home? grammar home'? grammar' →
      Builds workspace root body? home'? grammar' built →
      Builds workspace root body? home? grammar built
  | named {home? : Option Nat} {name : Name} :
      Builds workspace root body? home? (.named name) (.named name)
  | siblingOr {home? : Option Nat} {name : String} {otherwise : Grammar} :
      Builds workspace root body? home? (.siblingOr name otherwise) (.siblingOr name otherwise)
  | shared {home? : Option Nat} {name : String} {part : Grammar} :
      Builds workspace root body? home? (.shared name part) (.shared name part)
  | deferredOnce {home? : Option Nat} {part : Grammar} :
      Builds workspace root body? home? (.deferredOnce part) (.deferredOnce part)

namespace Workspace

/-- The workspace meanwhile, seen from the one in which the parsing of a root began. -/
structure Follows (workspace : Workspace) (root : Grammar) (now : Workspace) : Prop where
  slots : now.slots = workspace.slots
  rules : now.rules = workspace.rules
  moduleNames : now.moduleNames = workspace.moduleNames
  definition? : ∀ module index, now.definition? module index = workspace.definition? module index
  productionIndex? : ∀ module name,
    now.productionIndex? module name = workspace.productionIndex? module name
  parsers : ∀ label built, now.parsers.find? label = some built →
    workspace.parsers.find? label = some built ∨ ∃ home? part,
      workspace.Comprises root home? (.shared label part) ∧
        Builds workspace root now.body? home? part built
  productions : ∀ module index built, now.productionContent? module index = some built →
    workspace.productionContent? module index = some built ∨
      ∃ definition, workspace.definition? module index = some definition ∧
        Builds workspace root now.body? (some module) definition built
  keptProductions : ∀ module index built, workspace.productionContent? module index = some built →
    now.productionContent? module index = some built
  size_le : workspace.cells.size ≤ now.cells.size
  cells : ∀ (place : Nat) (cell : Cell) (built : Grammar),
    now.cells[place]? = some cell → cell.built? = some built →
    workspace.cellContent? place = some built ∨ ∀ home? part,
      workspace.Comprises root home? part → workspace.Presents home? part none cell.body →
        Builds workspace root now.body? home? part built
  keptCells : ∀ (place : Nat) (cell : Cell), workspace.cells[place]? = some cell →
    ∃ content, now.cells[place]? = some content ∧ content.body = cell.body ∧
      ∀ built, cell.built? = some built → content.built? = some built
  opened : ∀ (place : Nat) (cell : Cell), workspace.cells.size ≤ place →
    now.cells[place]? = some cell →
    ∃ home? part, workspace.Comprises root home? (.deferredOnce part) ∧
      workspace.Presents home? part none cell.body

end Workspace

/-! ### Presented parts -/

section Presents

variable {workspace : Workspace} {home? at? : Option Nat} {grammar : Grammar}

theorem Workspace.Presents.refl (workspace : Workspace) (home? : Option Nat) (grammar : Grammar) :
    workspace.Presents home? grammar home? grammar := .inl ⟨rfl, rfl⟩

theorem Workspace.Presents.anchor {part : Grammar}
    (h : workspace.Presents home? part at? grammar) :
    grammar.anchor (workspace.siblingsAt at?) = part.anchor (workspace.siblingsAt home?) := by
  obtain ⟨rfl, rfl⟩ | ⟨rfl, rfl⟩ := h
  · rfl
  · exact Grammar.anchor_anchor _ part

theorem Workspace.Presents.leaf {matcher : Leaf}
    (h : workspace.Presents home? (.leaf matcher) at? grammar) : grammar = .leaf matcher := by
  obtain ⟨rfl, _⟩ | ⟨rfl, _⟩ := h <;> rfl

theorem Workspace.Presents.unary {operator : UnaryOperator} {part : Grammar}
    (h : workspace.Presents home? (.unary operator part) at? grammar) :
    ∃ part', grammar = .unary operator part' ∧ workspace.Presents home? part at? part' := by
  obtain ⟨rfl, rfl⟩ | ⟨rfl, rfl⟩ := h
  · exact ⟨_, rfl, .inl ⟨rfl, rfl⟩⟩
  · exact ⟨_, rfl, .inr ⟨rfl, rfl⟩⟩

theorem Workspace.Presents.binary {operator : BinaryOperator} {first second : Grammar}
    (h : workspace.Presents home? (.binary operator first second) at? grammar) :
    ∃ first' second', grammar = .binary operator first' second' ∧
      workspace.Presents home? first at? first' ∧ workspace.Presents home? second at? second' := by
  obtain ⟨rfl, rfl⟩ | ⟨rfl, rfl⟩ := h
  · exact ⟨_, _, rfl, .inl ⟨rfl, rfl⟩, .inl ⟨rfl, rfl⟩⟩
  · exact ⟨_, _, rfl, .inr ⟨rfl, rfl⟩, .inr ⟨rfl, rfl⟩⟩

/-- The continuation of a presented part, once it is anchored, selects what is presented. -/
theorem Workspace.Presents.bind {part : Grammar} {next : Selector}
    (h : workspace.Presents home? (.bind part next) at? grammar) :
    ∃ part' next', grammar = .bind part' next' ∧ workspace.Presents home? part at? part' ∧
      ∀ value, workspace.Presents home? (next.select value) none
        ((next'.anchor (workspace.siblingsAt at?)).select value) := by
  obtain ⟨rfl, rfl⟩ | ⟨rfl, rfl⟩ := h
  · exact ⟨_, _, rfl, .inl ⟨rfl, rfl⟩, fun value => .inr ⟨Selector.select_anchor _ value next, rfl⟩⟩
  · refine ⟨_, _, rfl, .inr ⟨rfl, rfl⟩, fun value => .inr ⟨?_, rfl⟩⟩
    rw [← Selector.select_anchor]
    exact congrArg (·.select value) (Selector.anchor_anchor _ next)

theorem Workspace.Presents.traced {label : String} {part : Grammar}
    (h : workspace.Presents home? (.traced label part) at? grammar) :
    ∃ part', grammar = .traced label part' ∧ workspace.Presents home? part at? part' := by
  obtain ⟨rfl, rfl⟩ | ⟨rfl, rfl⟩ := h
  · exact ⟨_, rfl, .inl ⟨rfl, rfl⟩⟩
  · exact ⟨_, rfl, .inr ⟨rfl, rfl⟩⟩

theorem Workspace.Presents.deferred {part : Grammar}
    (h : workspace.Presents home? (.deferred part) at? grammar) :
    ∃ part', grammar = .deferred part' ∧ workspace.Presents home? part at? part' := by
  obtain ⟨rfl, rfl⟩ | ⟨rfl, rfl⟩ := h
  · exact ⟨_, rfl, .inl ⟨rfl, rfl⟩⟩
  · exact ⟨_, rfl, .inr ⟨rfl, rfl⟩⟩

theorem Workspace.Presents.deferredOnce {part : Grammar}
    (h : workspace.Presents home? (.deferredOnce part) at? grammar) :
    ∃ part', grammar = .deferredOnce part' ∧ workspace.Presents home? part at? part' := by
  obtain ⟨rfl, rfl⟩ | ⟨rfl, rfl⟩ := h
  · exact ⟨_, rfl, .inl ⟨rfl, rfl⟩⟩
  · exact ⟨_, rfl, .inr ⟨rfl, rfl⟩⟩

theorem Workspace.Presents.shared {label : String} {part : Grammar}
    (h : workspace.Presents home? (.shared label part) at? grammar) :
    ∃ part', grammar = .shared label part' ∧ workspace.Presents home? part at? part' := by
  obtain ⟨rfl, rfl⟩ | ⟨rfl, rfl⟩ := h
  · exact ⟨_, rfl, .inl ⟨rfl, rfl⟩⟩
  · exact ⟨_, rfl, .inr ⟨rfl, rfl⟩⟩

theorem Workspace.Presents.linked {target : Link}
    (h : workspace.Presents home? (.linked target) at? grammar) : grammar = .linked target := by
  obtain ⟨rfl, _⟩ | ⟨rfl, _⟩ := h <;> rfl

end Presents

/-! ### Constructions -/

section Builds

variable {workspace : Workspace} {root : Grammar}

theorem Builds.mono {body? body'? : Nat → Option Grammar}
    (hle : ∀ place body, body? place = some body → body'? place = some body)
    {home? : Option Nat} {grammar built : Grammar}
    (h : Builds workspace root body? home? grammar built) :
    Builds workspace root body'? home? grammar built := by
  induction h with
  | leaf => exact .leaf
  | unary _ ih => exact .unary ih
  | binary _ _ ihfirst ihsecond => exact .binary ihfirst ihsecond
  | bind _ hnext ih => exact .bind ih hnext
  | traced _ ih => exact .traced ih
  | deferred hpart => exact .deferred hpart
  | opened hplace hbody hpart => exact .opened hplace (hle _ _ hbody) hpart
  | linked => exact .linked
  | standing hlink hstands _ ih => exact .standing hlink hstands ih
  | named => exact .named
  | siblingOr => exact .siblingOr
  | shared => exact .shared
  | deferredOnce => exact .deferredOnce

theorem Builds.refl (body? : Nat → Option Grammar) :
    ∀ grammar : Grammar, Builds workspace root body? none grammar grammar
  | .leaf _ => .leaf
  | .unary _ part => .unary (Builds.refl body? part)
  | .binary _ first second => .binary (Builds.refl body? first) (Builds.refl body? second)
  | .bind part _ => .bind (Builds.refl body? part) fun _ => .inl ⟨rfl, rfl⟩
  | .traced _ part => .traced (Builds.refl body? part)
  | .deferred part => .deferred (.refl workspace none part)
  | .deferredOnce _ => .deferredOnce
  | .named _ => .named
  | .siblingOr _ _ => .siblingOr
  | .shared _ _ => .shared
  | .linked _ => .linked

end Builds

end TokenGrammar
