import TokenGrammar.Inspect

/-!
# Traces

A traced part reports when it is entered and when it is left. A trace is a list of such events; as
text it is a debugging aid for a reader, with the places where the candidates stop and the
diagnostic of the outcome.
-/

namespace TokenGrammar

inductive TraceEvent where
  | entered (label parser : String) (cursor : Cursor)
  | left (label : String) (stops : List Cursor) (diagnostic? : Option Diagnostic)
deriving DecidableEq, Repr

namespace Chain

def describe (chain : Chain) (cursor : Cursor) : String :=
  match chain[cursor]? with
  | some token => Text.quoted token.text ++ " at " ++ token.position.place
  | none => endMark

end Chain

namespace TraceEvent

/-- What is left of a part that had an outcome. -/
def ofOutcome {α : Type} (label : String) (outcome : Outcome α) : TraceEvent :=
  left label (outcome.candidates.map (·.stop)) outcome.diagnostic?

def diagnosticText (diagnostic : Diagnostic) : String :=
  let place := (diagnostic.position?.map Position.place).getD endMark
  "|\n| ==> !!! error at " ++ place ++ ": " ++ diagnostic.message ++ "\n|  |  "
    ++ diagnostic.inspect ++ "\n"

def text (chain : Chain) : TraceEvent → String
  | entered label parser cursor =>
      "[" ++ label ++ "] enter\n| ==> parser: " ++ parser ++ "\n| ==> at: "
        ++ chain.describe cursor ++ "\n|\n"
  | left label stops diagnostic? =>
      "| ==> [" ++ label ++ "] exit with " ++ toString stops.length ++ " candidate(s)\n"
        ++ String.join (stops.map fun stop => "|  |  stops before " ++ chain.describe stop ++ "\n")
        ++ (diagnostic?.map diagnosticText).getD ""
        ++ "= note: this trace was output as a debugging aid because "
        ++ "`cfg(feature = \"trace-stderr\")`.\n\n"

end TraceEvent

end TokenGrammar
