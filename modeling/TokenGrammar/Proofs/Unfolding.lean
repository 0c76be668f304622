import TokenGrammar.Grammar.Linking

/-!
# What a grammar stands for

Names, links and parts whose construction is put off add nothing to a language: such a grammar
stands for another one, and reads what that one reads. `Workspace.meaning?` says which one that is,
without building anything. A name stands for what it is bound to, a link for what it leads to, and
a part that is built later for itself. The home of a grammar is the module in whose definition it
occurs: siblings are names in their home, and in a deferred part they still are.

A grammar comprises what can be reached from it by taking parts, by unfolding, and by selecting a
continuation with any value.
-/

namespace TokenGrammar

namespace Workspace

def bound? (workspace : Workspace) (home? : Option Nat) : Name → Option Grammar
  | .rule label => (workspace.rules.find? label).map fun slot => .linked (.rule slot)
  | .handle label => (workspace.rules.find? label).map fun slot => .linked (.handle slot)
  | .parser label => workspace.parsers.find? label
  | .production owner label => do
      let place ← workspace.moduleNames.find? owner
      let index ← workspace.productionIndex? place label
      return .linked (.production place index)
  | .sibling label => (workspace.siblingsAt home? label).map .linked

/-- The grammar that a link leads to, with its home. What was built before counts as it was built,
and all else as it is defined. -/
def target? (workspace : Workspace) : Link → Option (Option Nat × Grammar)
  | .rule slot => (workspace.pattern? slot).map (none, ·)
  | .handle slot => (workspace.pattern? slot).map (none, ·)
  | .cell place => workspace.cells[place]?.map fun cell => (none, cell.built?.getD cell.body)
  | .production module index | .reference module index =>
      match workspace.productionContent? module index with
      | some built => some (none, built)
      | none => (workspace.definition? module index).map (some module, ·)

/-- The grammar for which another one stands, with its home. -/
def meaning? (workspace : Workspace) (home? : Option Nat) : Grammar → Option (Option Nat × Grammar)
  | .traced _ part | .deferred part | .deferredOnce part | .shared _ part => some (home?, part)
  | .named name => (workspace.bound? home? name).map (none, ·)
  | .siblingOr name otherwise =>
      match workspace.siblingsAt home? name with
      | some target => some (none, .linked target)
      | none => some (home?, otherwise)
  | .linked target => workspace.target? target
  | .leaf _ | .unary _ _ | .binary _ _ _ | .bind _ _ => none

/-- What can be reached from a grammar that was built, each with its home. -/
inductive Comprises (workspace : Workspace) (root : Grammar) : Option Nat → Grammar → Prop where
  | root : Comprises workspace root none root
  | part {home? : Option Nat} {operator : UnaryOperator} {part : Grammar} :
      Comprises workspace root home? (.unary operator part) →
      Comprises workspace root home? part
  | first {home? : Option Nat} {operator : BinaryOperator} {first second : Grammar} :
      Comprises workspace root home? (.binary operator first second) →
      Comprises workspace root home? first
  | second {home? : Option Nat} {operator : BinaryOperator} {first second : Grammar} :
      Comprises workspace root home? (.binary operator first second) →
      Comprises workspace root home? second
  | selecting {home? : Option Nat} {part : Grammar} {next : Selector} :
      Comprises workspace root home? (.bind part next) → Comprises workspace root home? part
  | selected {home? : Option Nat} {part : Grammar} {next : Selector} (value : Value) :
      Comprises workspace root home? (.bind part next) →
      Comprises workspace root home? (next.select value)
  | unfolded {home? home'? : Option Nat} {grammar grammar' : Grammar} :
      Comprises workspace root home? grammar →
      workspace.meaning? home? grammar = some (home'?, grammar') →
      Comprises workspace root home'? grammar'

/-- The ways in which a grammar may come to stand for another one while a root is parsed. Beside
unfolding there are two, which the workspace at the beginning does not show: a name may be bound to
a part that is stored on the way, and a cell may be opened for a part that is built once. -/
inductive StandsFor (workspace : Workspace) (root : Grammar) :
    Option Nat → Grammar → Option Nat → Grammar → Prop where
  | unfolded {home? home'? : Option Nat} {grammar grammar' : Grammar} :
      workspace.meaning? home? grammar = some (home'?, grammar') →
      StandsFor workspace root home? grammar home'? grammar'
  | stored {home? home'? : Option Nat} {label : String} {part : Grammar} :
      workspace.Comprises root home'? (.shared label part) →
      StandsFor workspace root home? (.named (.parser label)) home'? part
  | opened {home? home'? : Option Nat} {place : Nat} {part : Grammar} :
      workspace.cells.size ≤ place → workspace.Comprises root home'? (.deferredOnce part) →
      StandsFor workspace root home? (.linked (.cell place)) home'? part

theorem Comprises.standsFor {workspace : Workspace} {root : Grammar} {home? home'? : Option Nat}
    {grammar grammar' : Grammar} (hgrammar : workspace.Comprises root home? grammar)
    (hstands : workspace.StandsFor root home? grammar home'? grammar') :
    workspace.Comprises root home'? grammar' := by
  cases hstands with
  | unfolded hunfold => exact hgrammar.unfolded hunfold
  | stored hshared => exact hshared.unfolded rfl
  | opened _ honce => exact honce.unfolded rfl

end Workspace

/-! ### Anchoring -/

mutual

/-- What is anchored keeps no name that another module could take for its own. -/
theorem Grammar.anchor_anchor (siblings : Siblings) :
    ∀ grammar : Grammar, (grammar.anchor siblings).anchor (fun _ => none) = grammar.anchor siblings
  | .leaf _ => rfl
  | .unary _ part => by rw [Grammar.anchor, Grammar.anchor, part.anchor_anchor siblings]
  | .binary _ first second => by
      rw [Grammar.anchor, Grammar.anchor, first.anchor_anchor siblings,
        second.anchor_anchor siblings]
  | .bind part next => by
      rw [Grammar.anchor, Grammar.anchor, part.anchor_anchor siblings,
        next.anchor_anchor siblings]
  | .traced _ part => by rw [Grammar.anchor, Grammar.anchor, part.anchor_anchor siblings]
  | .deferred part => by rw [Grammar.anchor, Grammar.anchor, part.anchor_anchor siblings]
  | .deferredOnce part => by rw [Grammar.anchor, Grammar.anchor, part.anchor_anchor siblings]
  | .named (.sibling name) => by
      rw [Grammar.anchor]
      cases siblings name <;> rfl
  | .named (.rule _) => rfl
  | .named (.handle _) => rfl
  | .named (.parser _) => rfl
  | .named (.production _ _) => rfl
  | .siblingOr name otherwise => by
      rw [Grammar.anchor]
      cases siblings name with
      | none => exact otherwise.anchor_anchor siblings
      | some target => rfl
  | .shared _ part => by rw [Grammar.anchor, Grammar.anchor, part.anchor_anchor siblings]
  | .linked _ => rfl

theorem Selector.anchor_anchor (siblings : Siblings) :
    ∀ selector : Selector,
      (selector.anchor siblings).anchor (fun _ => none) = selector.anchor siblings
  | .succeed => rfl
  | .literal => rfl
  | .kind => rfl
  | .fail _ => rfl
  | .constant grammar => by rw [Selector.anchor, Selector.anchor, grammar.anchor_anchor siblings]
  | .exactly part => by rw [Selector.anchor, Selector.anchor, part.anchor_anchor siblings]
  | .separatedExactly part separator => by
      rw [Selector.anchor, Selector.anchor, part.anchor_anchor siblings,
        separator.anchor_anchor siblings]
  | .whenShown _ grammar otherwise => by
      rw [Selector.anchor, Selector.anchor, grammar.anchor_anchor siblings,
        otherwise.anchor_anchor siblings]
  | .keep selector => by
      rw [Selector.anchor, Selector.anchor, selector.anchor_anchor siblings]
  | .echo => rfl

end

/-- It makes no difference whether siblings are anchored before or after a value selects. -/
theorem Selector.select_anchor (siblings : Siblings) (value : Value) :
    ∀ selector : Selector,
      (selector.anchor siblings).select value = (selector.select value).anchor siblings
  | .succeed => rfl
  | .literal => rfl
  | .kind => rfl
  | .fail _ => rfl
  | .constant _ => rfl
  | .exactly _ => rfl
  | .separatedExactly _ _ => rfl
  | .whenShown text grammar otherwise => by
      rw [Selector.anchor, Selector.select, Selector.select]
      split
      · rfl
      · exact otherwise.select_anchor siblings value
  | .keep selector => by
      rw [Selector.anchor, Selector.select, Selector.select, Grammar.anchor,
        selector.select_anchor siblings value]
  | .echo =>
      (Selector.echoing_induction (motive := fun grammar => grammar.anchor siblings = grammar) rfl
        (fun _ _ hrest => congrArg (Grammar.binary _ _) hrest) _).symm

end TokenGrammar
