import TokenGrammar.Outcome

/-!
# Parsers and matchers

A parser reads a chain from a cursor and yields an outcome. It does so in a monad, which stands for
whatever reading may do besides: nothing at all, or building parts of a grammar that were put off.
Every combinator is written once for all monads, so its laws hold in each of them.

The matchers of this module look at one token and never at the monad.
-/

namespace TokenGrammar

abbrev Parser (m : Type → Type) (α : Type) := Chain → Cursor → m (Outcome α)

namespace Parser

variable {m : Type → Type} [Monad m] {α β : Type}

@[inline] def succeed (value : α) : Parser m α := fun _ start =>
  return .success [.still start value] none

@[inline] def fail (message : String) : Parser m α := fun chain start =>
  return .failure (.custom message chain start)

@[inline] def consume (accepts : Token → Bool) : Parser m Occurrence := fun chain start =>
  return match chain[start]? with
    | some token =>
        if accepts token then .success [⟨start, start + 1, ⟨start, token⟩⟩] none
        else .failure (.unconsumed chain start)
    | none => .failure (.unconsumed chain start)

def literal (text : String) : Parser m Occurrence := consume (·.text == text)

def kind (kind : String) : Parser m Occurrence := consume (·.kind == kind)

def isBetween (low high : Char) (text : String) : Bool :=
  match text.toList with
  | [c] => decide (low ≤ c) && decide (c ≤ high)
  | _ => false

/-- Reads a token that is one character between the bounds. Exchanged bounds fail on every input,
and say so. -/
def range (low high : Char) : Parser m Occurrence := fun chain start =>
  if high < low then return .failure (.invalidRange low high chain start)
  else consume (fun token => isBetween low high token.text) chain start

@[inline] def map (f : α → β) (p : Parser m α) : Parser m β := fun chain start =>
  return (← p chain start).map f

/-- Changes the value of every candidate, with a view of the candidate and of the chain. -/
@[inline] def mapCandidate (f : Chain → Candidate α → β) (p : Parser m α) : Parser m β :=
  fun chain start =>
    return (← p chain start).mapCandidates
      (·.map fun candidate => candidate.map fun _ => f chain candidate)

end Parser

end TokenGrammar
