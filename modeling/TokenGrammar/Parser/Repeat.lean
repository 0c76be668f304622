import TokenGrammar.Parser.Sequence

/-!
# Repetition

A run is a list of steps, each read from the end of the one before. Runs are explored by levels: a
level holds the runs of one length in order, and the next level extends each of them by each
candidate of the step. A step that ends where it began is dropped, so every step reads a token and
there are at most as many levels as tokens, and one more. While they grow, runs hold their values
latest first.
-/

namespace TokenGrammar

variable {m : Type → Type} [Monad m] {α β : Type}

def Candidate.extend (run : Candidate (List α)) (step : Candidate α) : Candidate (List α) :=
  ⟨run.start, step.stop, step.value :: run.value⟩

/-- A run with its values in the order in which they were read. -/
def Candidate.inOrder (run : Candidate (List α)) : Candidate (List α) :=
  run.map List.reverse

/-- The ways in which runs go on: each run with the outcome of one more step at its end. -/
abbrev Steps (α : Type) := List (Candidate (List α) × Outcome α)

namespace Steps

def all (steps : Steps α) : List (Candidate (List α)) :=
  steps.flatMap fun (run, outcome) => outcome.candidates.map run.extend

/-- Every run extended by every step that ends elsewhere than it began. -/
def advancing (steps : Steps α) : List (Candidate (List α)) :=
  steps.flatMap fun (run, outcome) =>
    (outcome.candidates.filter fun step => step.stop != run.stop).map run.extend

/-- The furthest diagnostic of the steps and of what came before them. -/
def diagnosticAfter (seen : Option Diagnostic) (steps : Steps α) : Option Diagnostic :=
  steps.foldl (fun seen (_, outcome) => Diagnostic.furthest seen outcome.diagnostic?) seen

end Steps

namespace Parser

@[specialize] def stepAll (p : Parser m α) (chain : Chain) (runs : List (Candidate (List α))) :
    m (Steps α) :=
  runs.mapM fun run => do return (run, ← p chain run.stop)

/-- Explores at most a number of levels. Yields all runs, the last one of the last level first. -/
@[specialize] def explore (p : Parser m α) (chain : Chain) :
    Nat → List (Candidate (List α)) → List (Candidate (List α)) → Option Diagnostic →
      m (List (Candidate (List α)) × Option Diagnostic)
  | 0, level, explored, seen => return (level.reverse ++ explored, seen)
  | levels + 1, level, explored, seen =>
      if level.isEmpty then return (explored, seen)
      else do
        let steps ← stepAll p chain level
        explore p chain levels steps.advancing (level.reverse ++ explored)
          (steps.diagnosticAfter seen)

@[specialize] def manyShortestFirst (p : Parser m α) : Parser m (List α) :=
  fun chain start => do
    let (runs, seen) ← explore p chain (chain.remaining start + 1) [.still start []] [] none
    return .success (runs.reverse.map (·.inOrder)) seen

@[specialize] def manyLongestFirst (p : Parser m α) : Parser m (List α) := fun chain start =>
  return (← manyShortestFirst p chain start).mapCandidates List.reverse

/-- Climbs at most a number of levels and stops at the first that has no next one. -/
@[specialize] def climb (p : Parser m α) (chain : Chain) :
    Nat → List (Candidate (List α)) → Option Diagnostic →
      m (List (Candidate (List α)) × Option Diagnostic)
  | 0, level, seen => return (level, seen)
  | levels + 1, level, seen => do
      let steps ← stepAll p chain level
      if steps.advancing.isEmpty then return (level, steps.diagnosticAfter seen)
      else climb p chain levels steps.advancing (steps.diagnosticAfter seen)

/-- As many steps as possible: the runs of the last level. -/
@[specialize] def manyGreedy (p : Parser m α) : Parser m (List α) := fun chain start => do
  let (runs, seen) ← climb p chain (chain.remaining start + 1) [.still start []] none
  return .success (runs.map (·.inOrder)) seen

/-- A number of steps more, which may be still. Gives up at the first level without runs. -/
@[specialize] def exactlyFrom (p : Parser m α) (chain : Chain) (start : Cursor) :
    Nat → List (Candidate (List α)) → Option Diagnostic → m (Outcome (List α))
  | 0, level, seen => return .success (level.map (·.inOrder)) seen
  | count + 1, level, seen => do
      let steps ← stepAll p chain level
      if steps.all.isEmpty then return .settle chain start [] (steps.diagnosticAfter seen)
      else exactlyFrom p chain start count steps.all (steps.diagnosticAfter seen)

@[specialize] def exactly (count : Nat) (p : Parser m α) : Parser m (List α) :=
  fun chain start => exactlyFrom p chain start count [.still start []] none

/-! ### Lists with separators -/

/-- One or more parts with separators between them, every length, the longest first. -/
@[inline] def separated (p : Parser m α) (separator : Parser m β) : Parser m (List α) :=
  (seq p (manyLongestFirst (seqRight separator p))).map fun (first, rest) => first :: rest

@[inline] def separatedGreedy (p : Parser m α) (separator : Parser m β) : Parser m (List α) :=
  (seq p (manyGreedy (seqRight separator p))).map fun (first, rest) => first :: rest

@[inline] def separatedExactly (count : Nat) (p : Parser m α) (separator : Parser m β) :
    Parser m (List α) :=
  match count with
  | 0 => succeed []
  | 1 => p.map fun value => [value]
  | count + 2 =>
      (seq p (exactly (count + 1) (seqRight separator p))).map fun (first, rest) => first :: rest

/-! ### Folds from the left -/

/-- One first part and every number of further ones, the longest first, folded from the left: the
readings of a production that begins with itself. -/
@[inline] def folded (f : α → β → α) (p : Parser m α) (q : Parser m β) : Parser m α :=
  (seq p (manyLongestFirst q)).map fun (first, rest) => rest.foldl f first

/-- One first part and as many further ones as possible, folded from the left. -/
@[inline] def foldedGreedy (f : α → β → α) (p : Parser m α) (q : Parser m β) : Parser m α :=
  (seq p (manyGreedy q)).map fun (first, rest) => rest.foldl f first

end Parser

end TokenGrammar
