import TokenGrammar.Run

/-!
# Linking

Building a grammar replaces its names by links to what they are bound to at that moment. Parts whose
construction is put off, and those that a selector may select, keep their names until they are
built. The one exception are the names of siblings: they mean productions of the module whose
definition is being built, and outside of it they would mean nothing, so they are anchored to that
module at once. A sibling that the module does not have is missed where it is built, and not before.
-/

namespace TokenGrammar

/-- How the definition of a production finds its siblings. -/
abbrev Siblings := String → Option Link

mutual

/-- Replaces the names of siblings in a part whose construction is put off. -/
def Grammar.anchor (siblings : Siblings) : Grammar → Grammar
  | .leaf matcher => .leaf matcher
  | .unary operator part => .unary operator (part.anchor siblings)
  | .binary operator first second =>
      .binary operator (first.anchor siblings) (second.anchor siblings)
  | .bind part next => .bind (part.anchor siblings) (next.anchor siblings)
  | .traced label part => .traced label (part.anchor siblings)
  | .deferred part => .deferred (part.anchor siblings)
  | .deferredOnce part => .deferredOnce (part.anchor siblings)
  | .named (.sibling name) =>
      match siblings name with
      | some target => .linked target
      | none => .named (.sibling name)
  | .named name => .named name
  | .siblingOr name otherwise =>
      match siblings name with
      | some target => .linked target
      | none => otherwise.anchor siblings
  | .shared name part => .shared name (part.anchor siblings)
  | .linked target => .linked target

/-- Replaces the names of siblings in the grammars that a selector may select. -/
def Selector.anchor (siblings : Siblings) : Selector → Selector
  | .succeed => .succeed
  | .literal => .literal
  | .kind => .kind
  | .fail message => .fail message
  | .constant grammar => .constant (grammar.anchor siblings)
  | .exactly part => .exactly (part.anchor siblings)
  | .separatedExactly part separator =>
      .separatedExactly (part.anchor siblings) (separator.anchor siblings)
  | .whenShown text grammar otherwise =>
      .whenShown text (grammar.anchor siblings) (otherwise.anchor siblings)
  | .keep selector => .keep (selector.anchor siblings)
  | .echo => .echo

end

namespace Workspace

/-- The siblings in a module. Productions are referred to, not kept. -/
def siblings (workspace : Workspace) (home : Nat) : Siblings := fun name =>
  (workspace.productionIndex? home name).map (.reference home)

/-- The module whose definition is being built, if any, finds the siblings. -/
def siblingsAt (workspace : Workspace) (home? : Option Nat) : Siblings := fun name =>
  home?.bind fun home => workspace.siblings home name

end Workspace

namespace Name

def resolve (home? : Option Nat) (name : Name) : Run Grammar := do
  let workspace ← get
  match name with
  | .rule label =>
      return .linked (.rule (← Run.demand (.unbound name) (workspace.rules.find? label)))
  | .handle label =>
      return .linked (.handle (← Run.demand (.unbound name) (workspace.rules.find? label)))
  | .parser label => Run.demand (.unbound name) (workspace.parsers.find? label)
  | .production owner label =>
      let place ← Run.demand (.unbound name) (workspace.moduleNames.find? owner)
      let index ← Run.demand (.unbound name) (workspace.productionIndex? place label)
      return .linked (.production place index)
  | .sibling label =>
      return .linked (← Run.demand (.unknownProduction label) (workspace.siblingsAt home? label))

end Name

namespace Grammar

/-- Builds a grammar, from left to right. The home is the module whose definition it is, if it is
one. -/
def link (home? : Option Nat) : Grammar → Run Grammar
  | leaf matcher => return leaf matcher
  | unary operator part => return unary operator (← part.link home?)
  | binary operator first second => do
      let first ← first.link home?
      let second ← second.link home?
      return binary operator first second
  | bind part next => do
      let part ← part.link home?
      return bind part (next.anchor ((← get).siblingsAt home?))
  | traced label part => return traced label (← part.link home?)
  | deferred part => return deferred (part.anchor ((← get).siblingsAt home?))
  | deferredOnce part => do
      let body := part.anchor ((← get).siblingsAt home?)
      let place := (← get).cells.size
      modify (·.openCell body)
      return linked (.cell place)
  | named name => name.resolve home?
  | siblingOr name otherwise => do
      match (← get).siblingsAt home? name with
      | some target => return linked target
      | none => otherwise.link home?
  | shared name part => do
      let built ← part.link home?
      modify (·.storeParser name built)
      return built
  | linked target => return linked target

end Grammar

end TokenGrammar
