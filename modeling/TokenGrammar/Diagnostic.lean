import TokenGrammar.Token

/-!
# Diagnostics

A diagnostic says what went wrong and how far into the chain. Of several diagnostics the one that
lies furthest is the most informative, because the text before it was understood; the end of the
chain lies beyond every token, and among equally far ones the first seen is kept.
-/

namespace TokenGrammar

/-- What went wrong: a token did not fit, the bounds of a range were exchanged, the grammar itself
gave a message, or the chain went on after a complete reading. -/
inductive Cause where
  | unconsumed
  | invalidRange
  | custom
  | notAtEnd
deriving DecidableEq, Repr

/-- A diagnostic without a position lies at the end of the chain. -/
structure Diagnostic where
  cause : Cause
  position? : Option Position
  message : String
deriving DecidableEq, Repr

namespace Diagnostic

def unconsumed (chain : Chain) (cursor : Cursor) : Diagnostic where
  cause := .unconsumed
  position? := chain.position? cursor
  message := "Unable to consume token: " ++ (chain[cursor]?.map (·.text)).getD endMark

def invalidRange (low high : Char) (chain : Chain) (cursor : Cursor) : Diagnostic where
  cause := .invalidRange
  position? := chain.position? cursor
  message := "Invalid character range: " ++ low.toString ++ "-" ++ high.toString

def custom (message : String) (chain : Chain) (cursor : Cursor) : Diagnostic where
  cause := .custom
  position? := chain.position? cursor
  message := message

def notAtEnd (token : Token) : Diagnostic where
  cause := .notAtEnd
  position? := some token.position
  message := "The parser cannot reach the end of file, stops at \"" ++ token.text
    ++ "\" at position " ++ token.position.place ++ "."

def relabelled (message : String) (diagnostic : Diagnostic) : Diagnostic where
  cause := .custom
  position? := diagnostic.position?
  message := message

/-! ### How far a diagnostic lies -/

/-- Whether the first of two diagnostics lies strictly further into the chain. -/
def isBeyond (a b : Diagnostic) : Bool :=
  match a.position?, b.position? with
  | none, some _ => true
  | some p, some q => decide (q.index < p.index)
  | _, none => false

/-- The further of two diagnostics, the first one if neither is. -/
def further (a b : Diagnostic) : Diagnostic :=
  if b.isBeyond a then b else a

/-- The further of two possible diagnostics, where any diagnostic is better than none. -/
def furthest : Option Diagnostic → Option Diagnostic → Option Diagnostic
  | none, b => b
  | a, none => a
  | some a, some b => some (a.further b)

/-- The furthest diagnostic of each nonempty beginning of a list, when `seen` came before. -/
def progression (seen : Option Diagnostic) :
    List (Option Diagnostic) → List (Option Diagnostic)
  | [] => []
  | next :: rest => furthest seen next :: progression (furthest seen next) rest

@[simp] theorem furthest_none_left (b : Option Diagnostic) : furthest none b = b := by
  cases b <;> rfl

@[simp] theorem furthest_none_right (a : Option Diagnostic) : furthest a none = a := by
  cases a <;> rfl

@[simp] theorem furthest_some_some (a b : Diagnostic) :
    furthest (some a) (some b) = some (a.further b) := rfl

end Diagnostic

end TokenGrammar
