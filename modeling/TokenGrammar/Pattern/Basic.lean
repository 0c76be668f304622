import TokenGrammar.Pattern.CharSet

/-!
# Patterns

A pattern describes texts at the beginning of an input. Alternatives and repetitions are ordered:
of all the texts that a pattern describes, the one reached by the earliest choices is matched, and
a greedy repetition chooses to go on before it chooses to stop.

Patterns are built by functions that keep them in a normal form. A sequence and a choice nest to the
right and have at least two parts, a sequence has neither empty parts nor neighbouring literals, and
no set of characters has one member only.
-/

namespace TokenGrammar

/-- A condition on the two characters around a place, which reads neither. -/
inductive Look where
  | textStart
  | textEnd
  | lineStart
  | lineEnd
  | lineStartOrReturn
  | lineEndOrReturn
  | wordBoundary
  | noWordBoundary
  | wordStart
  | wordEnd
  | wordStartHalf
  | wordEndHalf
deriving DecidableEq, Repr

namespace Look

/-- Whether a condition holds between two characters, where none stands for the ends of the
text. -/
def holds (before after : Option Char) : Look → Bool
  | textStart => before.isNone
  | textEnd => after.isNone
  | lineStart => before.all (· == '\n')
  | lineEnd => after.all (· == '\n')
  | lineStartOrReturn =>
      before.all (· == '\n') || (before == some '\r' && after != some '\n')
  | lineEndOrReturn =>
      after.isNone || after == some '\r' || (after == some '\n' && before != some '\r')
  | wordBoundary => before.any CharSet.word.contains != after.any CharSet.word.contains
  | noWordBoundary => before.any CharSet.word.contains == after.any CharSet.word.contains
  | wordStart => !before.any CharSet.word.contains && after.any CharSet.word.contains
  | wordEnd => before.any CharSet.word.contains && !after.any CharSet.word.contains
  | wordStartHalf => !before.any CharSet.word.contains
  | wordEndHalf => !after.any CharSet.word.contains

end Look

inductive Pattern where
  | empty
  /-- A text that is not empty. -/
  | literal (text : List Char)
  | char (members : CharSet)
  | look (condition : Look)
  | seq (first rest : Pattern)
  | choice (first rest : Pattern)
  | repeated (body : Pattern) (least : Nat) (most? : Option Nat) (greedy : Bool)
  /-- A group that is counted, and may be named. What it matches is that of its body. -/
  | capture (index : Nat) (name? : Option String) (body : Pattern)
deriving DecidableEq, Repr, Inhabited

namespace Pattern

/-! ### Lengths and conditions -/

def minLength? : Pattern → Option Nat
  | empty => some 0
  | literal text => some text.length
  | char members => if members.isEmpty then none else some 1
  | look _ => some 0
  | seq first rest => do return (← first.minLength?) + (← rest.minLength?)
  | choice first rest => do return min (← first.minLength?) (← rest.minLength?)
  | repeated body least _ _ => do return (← body.minLength?) * least
  | capture _ _ body => body.minLength?

/-- Whether a pattern may describe the empty text. One with a part that describes no text may. -/
def mayBeEmpty (pattern : Pattern) : Bool := pattern.minLength?.getD 0 == 0

def isAlwaysEmpty : Pattern → Bool
  | empty => true
  | literal _ => false
  | char _ => false
  | look _ => true
  | seq first rest => first.isAlwaysEmpty && rest.isAlwaysEmpty
  | choice first rest => first.isAlwaysEmpty && rest.isAlwaysEmpty
  | repeated body _ most? _ => most?.isSome && body.isAlwaysEmpty
  | capture _ _ body => body.isAlwaysEmpty

/-- Whether a condition is asked for before the first character of every text. -/
def beginsWith (condition : Look) : Pattern → Bool
  | empty => false
  | literal _ => false
  | char _ => false
  | look other => other == condition
  | seq first rest =>
      first.beginsWith condition || (first.isAlwaysEmpty && rest.beginsWith condition)
  | choice first rest => first.beginsWith condition && rest.beginsWith condition
  | repeated body least _ _ => 0 < least && body.beginsWith condition
  | capture _ _ body => body.beginsWith condition

/-- Whether a condition is asked for after the last character of every text. -/
def endsWith (condition : Look) : Pattern → Bool
  | empty => false
  | literal _ => false
  | char _ => false
  | look other => other == condition
  | seq first rest => rest.endsWith condition || (rest.isAlwaysEmpty && first.endsWith condition)
  | choice first rest => first.endsWith condition && rest.endsWith condition
  | repeated body least _ _ => 0 < least && body.endsWith condition
  | capture _ _ body => body.endsWith condition

/-! ### Characters -/

/-- A character from a set. A set of one character is a literal. -/
def ofSet (members : CharSet) : Pattern :=
  match members.only? with
  | some c => literal [c]
  | none => char members

def onlyChar? : Pattern → Option Char
  | literal [c] => some c
  | _ => none

def members? : Pattern → Option CharSet
  | char members => some members
  | _ => none

/-! ### Sequences -/

def parts : Pattern → List Pattern
  | empty => []
  | seq first rest => first :: rest.parts
  | pattern => [pattern]

def joinLiterals (parts : List Pattern) : List Pattern :=
  parts.foldr (fun part rest =>
    match part, rest with
    | literal text, literal next :: rest => literal (text ++ next) :: rest
    | part, rest => part :: rest) []

def ofParts : List Pattern → Pattern
  | [] => empty
  | [part] => part
  | part :: parts => seq part (ofParts parts)

def concat (patterns : List Pattern) : Pattern := ofParts (joinLiterals (patterns.flatMap parts))

/-! ### Choices -/

def branches : Pattern → List Pattern
  | choice first rest => first :: rest.branches
  | pattern => [pattern]

def ofBranches : List Pattern → Pattern
  | [] => char .empty
  | [branch] => branch
  | branch :: branches => choice branch (ofBranches branches)

/-- A choice between branches that begin differently. Single characters, and sets of characters, are
joined to one set. -/
def union (branches : List Pattern) : Pattern :=
  match branches with
  | [branch] => branch
  | branches =>
      match branches.mapM onlyChar?, branches.mapM members? with
      | some chars, _ => ofSet (.ofPoints (chars.map (·.toNat)))
      | none, some sets => ofSet (sets.foldl CharSet.union .empty)
      | none, none => ofBranches branches

def commonStart : List Pattern → List Pattern → List Pattern
  | a :: as, b :: bs => if a = b then a :: commonStart as bs else []
  | _, _ => []

def sequenceParts? : Pattern → Option (List Pattern)
  | seq first rest => some (first :: rest.parts)
  | _ => none

/-- A choice, latest branch last. Where all branches are sequences, the parts that they have in
common at the beginning are drawn out of the choice. -/
def alternation (patterns : List Pattern) : Pattern :=
  let branches := patterns.flatMap branches
  match branches.mapM sequenceParts? with
  | some (first :: second :: rest) =>
      match (second :: rest).foldl commonStart first with
      | [] => union branches
      | common =>
          let rests := (first :: second :: rest).map fun parts =>
            concat (parts.drop common.length)
          concat (common ++ [union (rests.flatMap Pattern.branches)])
  | _ => union branches

/-! ### Repetitions -/

/-- A part that is repeated. The empty text is not repeated more than once. -/
def repetition (body : Pattern) (least : Nat) (most? : Option Nat) (greedy : Bool) : Pattern :=
  let (least, most?) :=
    if body.isAlwaysEmpty then (min least 1, some (min (most?.getD 1) 1)) else (least, most?)
  match least, most? with
  | 0, some 0 => empty
  | 1, some 1 => body
  | least, most? => repeated body least most? greedy

end Pattern

end TokenGrammar
