import TokenGrammar.Proofs.Mapping

/-!
# Grammars without commitment

Every operator that commits to a branch has an exhaustive one in its place: a choice that looks at
all branches, a part that may be left out wherever it can be read, a repetition of every length. The
uncommitted version of a grammar has these instead, in its selectors and in all that its workspace
holds as well. Taking uncommitted versions makes no difference to what a grammar stands for, so the
grammars that an uncommitted one comprises are uncommitted versions in their turn.
-/

namespace TokenGrammar

/-- The exhaustive operator in the place of one that commits. -/
def UnaryOperator.uncommitted : UnaryOperator → UnaryOperator
  | .optionalGreedy => .optional
  | .manyGreedy => .manyLongestFirst
  | operator => operator

def BinaryOperator.uncommitted : BinaryOperator → BinaryOperator
  | .orElse => .either
  | .separatedGreedy => .separated
  | .foldedGreedy fold => .folded fold
  | operator => operator

mutual

def Grammar.uncommitted : Grammar → Grammar
  | .leaf matcher => .leaf matcher
  | .unary operator part => .unary operator.uncommitted part.uncommitted
  | .binary operator first second =>
      .binary operator.uncommitted first.uncommitted second.uncommitted
  | .bind part next => .bind part.uncommitted next.uncommitted
  | .traced label part => .traced label part.uncommitted
  | .deferred part => .deferred part.uncommitted
  | .deferredOnce part => .deferredOnce part.uncommitted
  | .named name => .named name
  | .siblingOr name otherwise => .siblingOr name otherwise.uncommitted
  | .shared name part => .shared name part.uncommitted
  | .linked target => .linked target

def Selector.uncommitted : Selector → Selector
  | .succeed => .succeed
  | .literal => .literal
  | .kind => .kind
  | .fail message => .fail message
  | .constant grammar => .constant grammar.uncommitted
  | .exactly part => .exactly part.uncommitted
  | .separatedExactly part separator =>
      .separatedExactly part.uncommitted separator.uncommitted
  | .whenShown text grammar otherwise =>
      .whenShown text grammar.uncommitted otherwise.uncommitted
  | .keep selector => .keep selector.uncommitted
  | .echo => .echo

end

def Workspace.uncommitted (workspace : Workspace) : Workspace :=
  workspace.mapGrammars Grammar.uncommitted

theorem Selector.select_uncommitted (value : Value) (selector : Selector) :
    selector.uncommitted.select value = (selector.select value).uncommitted := by
  cases selector with
  | whenShown text grammar otherwise =>
      rw [Selector.uncommitted, Selector.select, Selector.select]
      split
      · rfl
      · exact otherwise.select_uncommitted value
  | keep selector =>
      rw [Selector.uncommitted, Selector.select, Selector.select, Grammar.uncommitted,
        selector.select_uncommitted value]
      rfl
  | echo =>
      exact (echoing_induction (motive := fun grammar => grammar.uncommitted = grammar) rfl
        (fun _ _ hrest => congrArg (Grammar.binary _ _) hrest) _).symm
  | _ => rfl

theorem Workspace.meaning?_uncommitted (workspace : Workspace) (home? : Option Nat)
    (grammar : Grammar) :
    workspace.uncommitted.meaning? home? grammar.uncommitted
      = (workspace.meaning? home? grammar).map fun found => (found.1, found.2.uncommitted) := by
  cases grammar with
  | leaf | unary | binary | bind | traced | deferred | deferredOnce | shared => rfl
  | named name =>
      rw [Grammar.uncommitted, meaning?, meaning?, uncommitted,
        workspace.bound?_mapGrammars fun _ => rfl]
      simp only [Option.map_map]
      rfl
  | siblingOr label otherwise =>
      rw [Grammar.uncommitted, meaning?, meaning?, uncommitted, siblingsAt_mapGrammars]
      cases workspace.siblingsAt home? label <;> rfl
  | linked target => exact workspace.target?_mapGrammars Grammar.uncommitted target

end TokenGrammar
