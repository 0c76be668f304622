import TokenGrammar.Workspace.Basic

/-!
# Ownership

Rules, cells and modules live as long as something keeps them: a name, a grammar that is being
parsed, or the content of another one that is itself alive. Two that keep each other are alive for
ever. So what is alive is the largest set whose members are all kept, by a root or by a member; it
is found by striking out, from everything there is, what nothing keeps, until nothing changes.
-/

namespace TokenGrammar

/-- What can be kept. -/
inductive Keepable where
  | slot (slot : Nat)
  | cell (cell : Nat)
  | module (module : Nat)
deriving DecidableEq, Repr

namespace Link

/-- What a link keeps. Handles and references keep nothing. -/
def kept? : Link → Option Keepable
  | .rule place => some (.slot place)
  | .handle _ => none
  | .cell place => some (.cell place)
  | .production place _ => some (.module place)
  | .reference _ _ => none

end Link

namespace Grammar

/-- What a grammar keeps. Parts whose construction is put off hold names, which keep nothing. -/
def keeps : Grammar → List Keepable
  | leaf _ => []
  | unary _ part => part.keeps
  | binary _ first second => first.keeps ++ second.keeps
  | bind part _ => part.keeps
  | traced _ part => part.keeps
  | deferred _ => []
  | deferredOnce _ => []
  | named _ => []
  | siblingOr _ _ => []
  | shared _ part => part.keeps
  | linked target => target.kept?.toList

end Grammar

namespace Workspace

def keptBy (workspace : Workspace) : Keepable → List Keepable
  | .slot place => ((workspace.pattern? place).map Grammar.keeps).getD []
  | .cell place => ((workspace.cellContent? place).map Grammar.keeps).getD []
  | .module place =>
      match (workspace.modules[place]?).bind (·.cache?) with
      | none => []
      | some cache => cache.toList.flatMap fun built? => (built?.map Grammar.keeps).getD []

def isKeptByName (workspace : Workspace) (keepable : Keepable) : Bool :=
  workspace.rules.any (fun binding => .slot binding.2 == keepable)
    || workspace.moduleNames.any (fun binding => .module binding.2 == keepable)
    || workspace.parsers.any (fun binding => binding.2.keeps.contains keepable)

/-- Whether something is kept from outside: by one of the grammars that are being parsed, or by a
name. -/
def isRoot (workspace : Workspace) (held : List Grammar) (keepable : Keepable) : Bool :=
  held.any (fun grammar => grammar.keeps.contains keepable) || workspace.isKeptByName keepable

def keepables (workspace : Workspace) : List Keepable :=
  (List.range workspace.slots.size).map .slot
    ++ (List.range workspace.cells.size).map .cell
    ++ (List.range workspace.modules.size).map .module

/-- Strikes out what nothing keeps, at most a number of times. -/
def survivors (workspace : Workspace) (held : List Grammar) :
    Nat → List Keepable → List Keepable
  | 0, alive => alive
  | rounds + 1, alive =>
      let kept := alive.flatMap workspace.keptBy
      let next := alive.filter fun keepable =>
        kept.contains keepable || workspace.isRoot held keepable
      if next.length = alive.length then alive else survivors workspace held rounds next

/-- Whether something is alive while some grammars are being parsed. A root is; all else is looked
for among the survivors. -/
def isAlive (workspace : Workspace) (held : List Grammar) (keepable : Keepable) : Bool :=
  workspace.isRoot held keepable
    || (workspace.survivors held workspace.keepables.length workspace.keepables).contains keepable

end Workspace

end TokenGrammar
