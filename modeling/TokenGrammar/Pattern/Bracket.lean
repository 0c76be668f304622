import TokenGrammar.Pattern.Escape

/-!
# Bracketed classes

Inside brackets stand characters, ranges, escapes, named classes and nested brackets, and between
them the three operators on sets, which are all read from the left. The frames of the brackets and
operators that are still open form a stack.
-/

namespace TokenGrammar.Pattern

inductive SetOperator where
  | intersection
  | difference
  | symmetricDifference
deriving DecidableEq, Repr

/-- What stands side by side in a bracket: the characters, the number of items, and how deep the
deepest item nests. -/
structure Items where
  members : CharSet := .empty
  count : Nat := 0
  deepest : Nat := 0
deriving DecidableEq, Repr

/-- A set of characters with the depth of the text that describes it. -/
structure Operand where
  members : CharSet
  depth : Nat
deriving DecidableEq, Repr

/-- A bracket that waits for its end, with what its surroundings hold so far, or an operator that
waits for its second operand. -/
inductive BracketFrame where
  | opened (negate : Bool) (surroundings : Items)
  | operator (operator : SetOperator) (first : Operand)
deriving DecidableEq, Repr

namespace Items

def add (items : Items) (members : CharSet) (depth : Nat) : Items :=
  ⟨items.members.union members, items.count + 1, max items.deepest depth⟩

/-- The items as one set. Two or more of them nest one deeper than each on its own. -/
def operand (items : Items) : Operand :=
  ⟨items.members, if items.count < 2 then items.deepest else items.deepest + 1⟩

end Items

namespace SetOperator

def apply (operator : SetOperator) (caseless : Bool) (a b : Operand) : Operand :=
  let first := a.members.foldedIf caseless
  let second := b.members.foldedIf caseless
  let members := match operator with
    | intersection => first.intersection second
    | difference => first.difference second
    | symmetricDifference => first.symmetricDifference second
  ⟨members, max a.depth b.depth + 1⟩

end SetOperator

/-- The items before an operator or a closing bracket, with the operator that waits on top of the
stack applied to them. -/
def applyPending (flags : Flags) (stack : List BracketFrame) (items : Items) :
    Operand × List BracketFrame :=
  match stack with
  | .operator operator first :: stack =>
      (operator.apply flags.caseless first items.operand, stack)
  | stack => (items.operand, stack)

/-- Reads a named class such as `[:alpha:]`, after its opening bracket. -/
def readNamed (flags : Flags) (rest : List Char) : Option (CharSet × List Char) :=
  match rest with
  | ':' :: rest =>
      let (negate, rest) := match rest with
        | '^' :: rest => (true, rest)
        | rest => (false, rest)
      match rest.span (· != ':') with
      | (name, ':' :: ']' :: rest) =>
          (CharSet.bracketed? (String.ofList name)).map fun members =>
            ((members.foldedIf flags.caseless).complementIf negate, rest)
      | _ => none
  | _ => none

/-- Reads the hyphens at the beginning of a bracket, which stand for themselves. -/
def readHyphens (flags : Flags) : Nat → Items → List Char → Items × List Char
  | fuel + 1, items, '-' :: rest =>
      readHyphens flags fuel (items.add (.single '-') 0) (flags.skip rest)
  | _, items, rest => (items, rest)

/-- Reads the beginning of a bracket: whether it is negated, and the hyphens or the closing bracket
that stand for themselves there. -/
def readOpening (flags : Flags) (rest : List Char) : Bool × Items × List Char :=
  let rest := flags.skip rest
  let (negate, rest) := match rest with
    | '^' :: rest => (true, flags.skip rest)
    | rest => (false, rest)
  match readHyphens flags rest.length {} rest with
  | (items, ']' :: rest) =>
      if items.count = 0 then (negate, items.add (.single ']') 0, flags.skip rest)
      else (negate, items, ']' :: rest)
  | (items, rest) => (negate, items, rest)

def readAtom (flags : Flags) : List Char → Option (Atom × List Char)
  | [] => none
  | '\\' :: rest => readEscape flags rest
  | c :: rest => some (.literal c, rest)

/-- The character that follows the next one, past blanks in verbose text. -/
def peekAfter (flags : Flags) (rest : List Char) : Option Char :=
  if flags.verbose then
    match rest.dropWhile Text.isWhiteSpace with
    | '#' :: rest => (rest.dropWhile Text.isWhiteSpace).head?
    | rest => rest.head?
  else rest.head?

/-- Reads a character, a range or a class. A hyphen makes a range unless the bracket or another
hyphen follows it. -/
def readMember (flags : Flags) (rest : List Char) : Option (CharSet × List Char) := do
  let (atom, rest) ← readAtom flags rest
  let alone : Option CharSet := match atom with
    | .literal c => some (.single c)
    | .members members => some members
    | .look _ => none
  match flags.skip rest with
  | [] => none
  | '-' :: after =>
      if peekAfter flags after == some ']' || peekAfter flags after == some '-' then
        return (← alone, '-' :: after)
      else
        match atom, ← readAtom flags (flags.skip after) with
        | .literal first, (.literal last, rest) =>
            if first ≤ last then return (.range first last, rest) else none
        | _, _ => none
  | rest => return (← alone, rest)

def readBracket (flags : Flags) :
    Nat → List BracketFrame → Items → List Char → Option (Operand × List Char)
  | 0, _, _, _ => none
  | fuel + 1, stack, items, rest =>
      let readSecond (operator : SetOperator) (rest : List Char) :=
        let (first, stack) := applyPending flags stack items
        readBracket flags fuel (.operator operator first :: stack) {} rest
      match flags.skip rest with
      | [] => none
      | '[' :: rest =>
          match if stack.isEmpty then none else readNamed flags rest with
          | some (named, rest) => readBracket flags fuel stack (items.add named 0) rest
          | none =>
              let (negate, inner, rest) := readOpening flags rest
              readBracket flags fuel (.opened negate items :: stack) inner rest
      | ']' :: rest =>
          match applyPending flags stack items with
          | (inner, .opened negate surroundings :: stack) =>
              let members := (inner.members.foldedIf flags.caseless).complementIf negate
              if stack.isEmpty then some (⟨members, inner.depth + 1⟩, rest)
              else
                readBracket flags fuel stack (surroundings.add members (inner.depth + 1)) rest
          | _ => none
      | '&' :: '&' :: rest => readSecond .intersection rest
      | '-' :: '-' :: rest => readSecond .difference rest
      | '~' :: '~' :: rest => readSecond .symmetricDifference rest
      | rest => do
          let (member, rest) ← readMember flags rest
          readBracket flags fuel stack (items.add member 0) rest

end TokenGrammar.Pattern
