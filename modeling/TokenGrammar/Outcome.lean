import TokenGrammar.Diagnostic

/-!
# Outcomes

Reading a grammar from a cursor yields every way to read it, in the order in which they were
explored, or the one most informative diagnostic. A success may carry a diagnostic too: that of a
branch that was tried and given up.
-/

namespace TokenGrammar

/-- One way to read a stretch of the chain. -/
structure Candidate (α : Type) where
  start : Cursor
  stop : Cursor
  value : α
deriving DecidableEq, Repr

inductive Outcome (α : Type) where
  | success (candidates : List (Candidate α)) (carried? : Option Diagnostic)
  | failure (diagnostic : Diagnostic)
deriving DecidableEq, Repr

variable {α β : Type}

namespace Candidate

def still (cursor : Cursor) (value : α) : Candidate α := ⟨cursor, cursor, value⟩

def isStill (candidate : Candidate α) : Bool := candidate.start == candidate.stop

def map (f : α → β) (candidate : Candidate α) : Candidate β :=
  ⟨candidate.start, candidate.stop, f candidate.value⟩

/-- The same reading, as the last part of one that began at `start`. -/
def startingAt (start : Cursor) (candidate : Candidate α) : Candidate α :=
  { candidate with start }

end Candidate

namespace Outcome

def candidates : Outcome α → List (Candidate α)
  | success candidates _ => candidates
  | failure _ => []

/-- The diagnostic of a failure, or the one that a success carries. -/
def diagnostic? : Outcome α → Option Diagnostic
  | success _ carried? => carried?
  | failure diagnostic => some diagnostic

def isSuccess : Outcome α → Bool
  | success .. => true
  | failure _ => false

def mapCandidates (f : List (Candidate α) → List (Candidate β)) : Outcome α → Outcome β
  | success candidates carried? => success (f candidates) carried?
  | failure diagnostic => failure diagnostic

def map (f : α → β) : Outcome α → Outcome β :=
  mapCandidates (·.map (·.map f))

/-- A success if any candidate survived. Otherwise a failure with the diagnostic that was found, and
where none was, the token at `start` is to blame. -/
def settle (chain : Chain) (start : Cursor) (candidates : List (Candidate α))
    (diagnostic? : Option Diagnostic) : Outcome α :=
  if candidates.isEmpty then failure (diagnostic?.getD (.unconsumed chain start))
  else success candidates diagnostic?

/-- The outcome of a reading that began at `start`, met a diagnostic, and went on in several ways:
the candidates of all of them in order, with the furthest diagnostic. -/
def gather (chain : Chain) (start : Cursor) (diagnostic? : Option Diagnostic)
    (parts : List (Outcome α)) : Outcome α :=
  settle chain start (parts.flatMap fun part => part.candidates.map (·.startingAt start))
    (parts.foldl (fun seen part => Diagnostic.furthest seen part.diagnostic?) diagnostic?)

def toExcept : Outcome α → Except Diagnostic (List (Candidate α))
  | success candidates _ => .ok candidates
  | failure diagnostic => .error diagnostic

/-! ### What the operations do to candidates and diagnostic -/

@[simp] theorem candidates_success (candidates : List (Candidate α))
    (carried? : Option Diagnostic) : (success candidates carried?).candidates = candidates := rfl

@[simp] theorem candidates_failure (diagnostic : Diagnostic) :
    (failure diagnostic : Outcome α).candidates = [] := rfl

@[simp] theorem diagnostic?_success (candidates : List (Candidate α))
    (carried? : Option Diagnostic) : (success candidates carried?).diagnostic? = carried? := rfl

@[simp] theorem diagnostic?_failure (diagnostic : Diagnostic) :
    (failure diagnostic : Outcome α).diagnostic? = some diagnostic := rfl

@[simp] theorem candidates_mapCandidates (f : List (Candidate α) → List (Candidate β))
    (hnil : f [] = []) (outcome : Outcome α) :
    (outcome.mapCandidates f).candidates = f outcome.candidates := by
  cases outcome <;> simp [mapCandidates, hnil]

@[simp] theorem diagnostic?_mapCandidates (f : List (Candidate α) → List (Candidate β))
    (outcome : Outcome α) : (outcome.mapCandidates f).diagnostic? = outcome.diagnostic? := by
  cases outcome <;> rfl

@[simp] theorem candidates_map (f : α → β) (outcome : Outcome α) :
    (outcome.map f).candidates = outcome.candidates.map (·.map f) :=
  candidates_mapCandidates _ rfl outcome

@[simp] theorem diagnostic?_map (f : α → β) (outcome : Outcome α) :
    (outcome.map f).diagnostic? = outcome.diagnostic? :=
  diagnostic?_mapCandidates _ outcome

@[simp] theorem candidates_settle (chain : Chain) (start : Cursor)
    (candidates : List (Candidate α)) (diagnostic? : Option Diagnostic) :
    (settle chain start candidates diagnostic?).candidates = candidates := by
  cases candidates <;> rfl

@[simp] theorem isSuccess_settle (chain : Chain) (start : Cursor)
    (candidates : List (Candidate α)) (diagnostic? : Option Diagnostic) :
    (settle chain start candidates diagnostic?).isSuccess = !candidates.isEmpty := by
  cases candidates <;> rfl

theorem diagnostic?_settle (chain : Chain) (start : Cursor) (candidates : List (Candidate α))
    (diagnostic? : Option Diagnostic) :
    (settle chain start candidates diagnostic?).diagnostic?
      = if candidates.isEmpty then some (diagnostic?.getD (.unconsumed chain start))
        else diagnostic? := by
  cases candidates <;> rfl

theorem map_settle (f : α → β) (chain : Chain) (start : Cursor) (candidates : List (Candidate α))
    (diagnostic? : Option Diagnostic) :
    (settle chain start candidates diagnostic?).map f
      = settle chain start (candidates.map (·.map f)) diagnostic? := by
  cases candidates <;> rfl

end Outcome

end TokenGrammar
