import TokenGrammar.Value

/-!
# Grammars

A grammar is a tree of operators over leaves that match tokens. Parts that are used again, or that
refer to themselves, are named: rules, stored parsers and the productions of modules. Names are
replaced by links when a grammar is built, except in the parts whose construction is put off until
they are reached.
-/

namespace TokenGrammar

inductive Leaf where
  | nothing
  | succeed (value : Value)
  | fail (message : String)
  | literal (text : String)
  | kind (name : String)
  | range (low high : Char)
deriving Inhabited

inductive UnaryOperator where
  | mapped (transform : Transform)
  | spanned (view : SpanView)
  | optional
  | optionalGreedy
  | manyShortestFirst
  | manyLongestFirst
  | manyGreedy
  | exactly (count : Nat)
  | grouped
  | relabelled (message : String)
  | recovered (message : String) (value : Value)
deriving Inhabited

inductive BinaryOperator where
  | seq
  | seqLeft
  | seqRight
  | either
  | orElse
  | separated
  | separatedGreedy
  | separatedExactly (count : Nat)
  | folded (fold : Fold)
  | foldedGreedy (fold : Fold)
deriving Inhabited, DecidableEq

/-- Where a name led when a grammar was built: to the slot of a rule, to the cell of a part that is
built once, or to a production of a module. Handles and references do not keep what they lead to;
the other links do. -/
inductive Link where
  | rule (slot : Nat)
  | handle (slot : Nat)
  | cell (cell : Nat)
  | production (module index : Nat)
  | reference (module index : Nat)
deriving Inhabited, DecidableEq, Repr

/-- A name that is looked up when a grammar is built. A sibling is a production of the module that
is being defined. -/
inductive Name where
  | rule (name : String)
  | handle (name : String)
  | parser (name : String)
  | production (module name : String)
  | sibling (name : String)
deriving Inhabited, DecidableEq, Repr

mutual

inductive Grammar where
  | leaf (matcher : Leaf)
  | unary (operator : UnaryOperator) (part : Grammar)
  | binary (operator : BinaryOperator) (first second : Grammar)
  /-- A part that decides how to go on. -/
  | bind (part : Grammar) (next : Selector)
  | traced (label : String) (part : Grammar)
  /-- A part that is built each time it is reached. -/
  | deferred (part : Grammar)
  /-- A part that is built the first time it is reached. -/
  | deferredOnce (part : Grammar)
  | named (name : Name)
  /-- A sibling if the module has it, and another grammar otherwise. -/
  | siblingOr (name : String) (otherwise : Grammar)
  /-- A part that is also stored under a name when it is built. -/
  | shared (name : String) (part : Grammar)
  | linked (target : Link)

/-- How the value of one part selects the grammar of the next. -/
inductive Selector where
  | succeed
  | literal
  | kind
  | fail (message : String)
  | constant (grammar : Grammar)
  | exactly (part : Grammar)
  | separatedExactly (part separator : Grammar)
  /-- A grammar for the values with a text, and another selector for all others. -/
  | whenShown (text : String) (grammar : Grammar) (otherwise : Selector)
  /-- Another selector, whose grammar's values are paired with the value that selected it. -/
  | keep (selector : Selector)
  /-- The items of a list, each as a literal with its text, and then their number. -/
  | echo

end

instance : Inhabited Grammar := ⟨.leaf default⟩

instance : Inhabited Selector := ⟨.succeed⟩

namespace Grammar

def nothing : Grammar := leaf .nothing

def between (opening part closing : Grammar) : Grammar :=
  binary .seqRight opening (binary .seqLeft part closing)

/-- One or more parts in sequence, with pairs nested to the right. -/
def sequence (first : Grammar) : List Grammar → Grammar
  | [] => first
  | second :: rest => binary .seq first (sequence second rest)

def alternatives (first : Grammar) : List Grammar → Grammar
  | [] => first
  | second :: rest => binary .either first (alternatives second rest)

/-- A part and any number of selectors, each on the values of what came before. -/
def bindAll (part : Grammar) (selectors : List Selector) : Grammar :=
  selectors.foldl bind part

end Grammar

namespace Selector

/-- The items of a list; any other value is an item itself. -/
def items : Value → List Value
  | .list items => items
  | value => [value]

/-- The number of times that a value stands for: none for a negative one. -/
def times (value : Value) : Nat := value.toWord.toInt.toNat

/-- The texts of some values, each as a literal, and then a last leaf. -/
def echoing (items : List Value) (last : Leaf) : Grammar :=
  items.foldr (fun item rest => .binary .seqRight (.leaf (.literal item.shown)) rest) (.leaf last)

/-- What holds of the last leaf, and of a literal in front of what it holds of, holds of an echo. -/
theorem echoing_induction {motive : Grammar → Prop} {last : Leaf} (hlast : motive (.leaf last))
    (hliteral : ∀ text rest, motive rest → motive (.binary .seqRight (.leaf (.literal text)) rest))
    (items : List Value) : motive (echoing items last) := by
  induction items with
  | nil => exact hlast
  | cons item items ih => exact hliteral item.shown _ ih

def select : Selector → Value → Grammar
  | succeed, value => .leaf (.succeed value)
  | literal, value => .leaf (.literal value.shown)
  | kind, value => .leaf (.kind value.shown)
  | fail message, value => .leaf (.fail (message ++ value.shown))
  | constant grammar, _ => grammar
  | exactly part, value => .unary (.exactly (times value)) part
  | separatedExactly part separator, value =>
      .binary (.separatedExactly (times value)) part separator
  | whenShown text grammar otherwise, value =>
      if value.shown == text then grammar else select otherwise value
  | keep selector, value => .unary (.mapped (.pairedAfter value)) (select selector value)
  | echo, value =>
      echoing (items value) (.succeed (.number (Int64.ofNat (items value).length)))

end Selector

end TokenGrammar
