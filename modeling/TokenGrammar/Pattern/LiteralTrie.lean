/-!
# Tries of literals

Literals that are alternatives of each other share their beginnings in a trie. A literal that ends
at a node keeps apart the literals before and after it, because an earlier literal is preferred to a
later one that goes on. So the branches of a node form groups, and within a group no two begin
alike.
-/

namespace TokenGrammar

/-- How many states something takes, and how many bytes beyond those of the states. -/
structure Room where
  states : Nat := 0
  bytes : Nat := 0
deriving DecidableEq, Repr, Inhabited

namespace Room

def add (a b : Room) : Room := ⟨a.states + b.states, a.bytes + b.bytes⟩

instance : Add Room := ⟨add⟩

/-- The bytes of a transition that stands beside others in one state. -/
def transitionBytes : Nat := 8

/-- The bytes of an alternative of a state that only branches. -/
def alternativeBytes : Nat := 4

def forks (states alternatives : Nat) : Room := ⟨states, alternativeBytes * alternatives⟩

def transitions (count : Nat) : Room := ⟨1, transitionBytes * count⟩

def plain (states : Nat) : Room := ⟨states, 0⟩

end Room

namespace LiteralTrie

abbrev Bytes := List Nat

/-- Puts the rest of a literal to those that begin with the same byte. -/
def insert (byte : Nat) (rest : Bytes) : List (Nat × List Bytes) → List (Nat × List Bytes)
  | [] => [(byte, [rest])]
  | (other, rests) :: branches =>
      if other = byte then (other, rests ++ [rest]) :: branches
      else (other, rests) :: insert byte rest branches

/-- The groups of branches of a node, where an empty literal ends a group. An empty literal after
another one adds nothing while no branch has begun. -/
def groups (literals : List Bytes) : List (List (Nat × List Bytes)) :=
  let (ended, last) := literals.foldl (fun (ended, last) literal =>
    match literal with
    | byte :: rest => (ended, insert byte rest last)
    | [] => if last.isEmpty && ended.all List.isEmpty && !ended.isEmpty then (ended, last)
        else (last :: ended, [])) (([] : List (List (Nat × List Bytes))), [])
  (last :: ended).reverse

/-- The room of the states of a group: none if it is empty, and one otherwise. -/
def groupRoom (branches : List (Nat × List Bytes)) : Room :=
  match branches with
  | [] => {}
  | [_] => .plain 1
  | branches => .transitions branches.length

/-- The room of a node and the nodes below it, given how long the literals are at most. A node
branches into its groups and, between them, to the end. Below a branch that ends with its literals
there is no node. -/
def roomWithin : Nat → List Bytes → Room
  | 0, _ => {}
  | length + 1, literals =>
      let groups := groups literals
      let alternatives := (groups.filter (!·.isEmpty)).length + (groups.length - 1)
      let below := groups.flatten.map fun (_, rests) =>
        if rests.all List.isEmpty then {} else roomWithin length rests
      below.foldl (· + ·) ((groups.map groupRoom).foldl (· + ·) (.forks 1 alternatives))

def room (literals : List Bytes) : Room :=
  .plain 1 + roomWithin ((literals.map List.length).foldl max 0) literals

end LiteralTrie

end TokenGrammar
