import TokenGrammar.Workspace.Ownership

/-!
# Representations

The representation of a grammar shows its shape on one line. Transparent operators do not show, a
rule shows its pattern, a production its name, and a part that was not built yet shows that it was
not. A grammar that contains itself has no representation.
-/

namespace TokenGrammar

namespace Leaf

def text : Leaf → String
  | nothing => "<nil>"
  | succeed _ => "<succ>"
  | fail message => "<fail: " ++ message ++ ">"
  | literal text => Text.quoted text
  | kind name => "<" ++ name ++ ">"
  | range low high => "[" ++ low.toString ++ "-" ++ high.toString ++ "]"

end Leaf

namespace UnaryOperator

def text : UnaryOperator → String → String
  | mapped _, part => part
  | spanned _, part => part
  | optional, part => part ++ "?"
  | optionalGreedy, part => part ++ "?!"
  | manyShortestFirst, part => part ++ "*"
  | manyLongestFirst, part => part ++ "*"
  | manyGreedy, part => part ++ "*!"
  | exactly count, part => part ++ "\x7b" ++ toString count ++ "\x7d"
  | grouped, part => "amb(" ++ part ++ ")"
  | relabelled _, part => part
  | recovered _ _, part => part

end UnaryOperator

namespace BinaryOperator

def listText (part separator : String) : String :=
  part ++ " (" ++ separator ++ " " ++ part ++ ")"

def text : BinaryOperator → String → String → String
  | seq, first, second => first ++ " " ++ second
  | seqLeft, first, second => first ++ " " ++ second
  | seqRight, first, second => first ++ " " ++ second
  | either, first, second => "(" ++ first ++ " | " ++ second ++ ")"
  | orElse, first, second => "(" ++ first ++ " / " ++ second ++ ")"
  | separated, part, separator => listText part separator ++ "*"
  | separatedGreedy, part, separator => listText part separator ++ "*!"
  | separatedExactly count, part, separator =>
      listText part separator ++ "\x7b" ++ toString (count - 1) ++ "\x7d"
  | folded _, first, second => first ++ " " ++ second ++ "*"
  | foldedGreedy _, first, second => first ++ " " ++ second ++ "*!"

end BinaryOperator

namespace Name

def text : Name → String
  | rule name => name
  | handle name => name
  | parser name => name
  | production _ name => name
  | sibling name => name

end Name

namespace Grammar

def unbuiltText : String := "<lazy>"

/-- The representation of a grammar, given those of its links. -/
def text? (linkText? : Link → Option String) : Grammar → Option String
  | leaf matcher => some matcher.text
  | unary operator part => (part.text? linkText?).map operator.text
  | binary operator first second => do
      let first ← first.text? linkText?
      let second ← second.text? linkText?
      return operator.text first second
  | bind part _ => (part.text? linkText?).map (· ++ " => <dynamic>")
  | traced _ part => part.text? linkText?
  | deferred _ => some unbuiltText
  | deferredOnce _ => some unbuiltText
  | named name => some name.text
  | siblingOr name _ => some name
  | shared _ part => part.text? linkText?
  | linked target => linkText? target

end Grammar

namespace Workspace

/-- The representation of what a link leads to, through at most a number of further rules and
cells. -/
def linkText? (workspace : Workspace) (held : List Grammar) : Nat → Link → Option String
  | hops, .rule slot =>
      match workspace.pattern? slot, hops with
      | none, _ => some "<unset>"
      | some _, 0 => none
      | some pattern, hops + 1 => pattern.text? (linkText? workspace held hops)
  | _, .handle _ => some "..."
  | hops, .cell cell =>
      match workspace.cellContent? cell, hops with
      | none, _ => some Grammar.unbuiltText
      | some _, 0 => none
      | some built, hops + 1 => built.text? (linkText? workspace held hops)
  | _, .production module index => some ((workspace.productionName? module index).getD "")
  | _, .reference module index =>
      if workspace.isAlive held (.module module) then
        some ((workspace.productionName? module index).getD "")
      else some "<dropped>"

/-- The representation of a grammar. A representation that passes more rules and cells than there
are passes one of them twice, and has no end. -/
def textOf? (workspace : Workspace) (held : List Grammar) (grammar : Grammar) : Option String :=
  grammar.text? (workspace.linkText? held (workspace.slots.size + workspace.cells.size))

end Workspace

end TokenGrammar
