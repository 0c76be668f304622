import TokenGrammar.Outcome
import TokenGrammar.Text.Quoted

/-!
# The long form of values

For inspection, tokens, diagnostics and outcomes are written with the names of all their parts. A
token also knows the tokens after it, which the long form leaves out with two dots.
-/

namespace TokenGrammar

def recordText (name : String) (parts : List String) : String :=
  name ++ " \x7b " ++ ", ".intercalate parts ++ " \x7d"

def partText (name value : String) : String := name ++ ": " ++ value

def optionText {α : Type} (text : α → String) : Option α → String
  | none => "None"
  | some value => "Some(" ++ text value ++ ")"

namespace Position

def inspect (position : Position) : String :=
  recordText "TokenPosition" [
    partText "index" (toString position.index),
    partText "row_begin" (toString position.rowBegin),
    partText "column_begin" (toString position.columnBegin),
    partText "row_end" (toString position.rowEnd),
    partText "column_end" (toString position.columnEnd)]

end Position

namespace Token

def inspect (token : Token) : String :=
  recordText "Token" [
    partText "kind" token.kind,
    partText "text" (Text.quoted token.text),
    partText "pos" token.position.inspect,
    ".."]

end Token

namespace Cause

def name : Cause → String
  | unconsumed => "Unconsumed"
  | invalidRange => "InvalidRange"
  | custom => "Custom"
  | notAtEnd => "NotAtEnd"

end Cause

namespace Diagnostic

def inspect (diagnostic : Diagnostic) : String :=
  recordText "ParseError" [
    partText "kind" diagnostic.cause.name,
    partText "pos" (optionText Position.inspect diagnostic.position?),
    partText "message" (Text.quoted diagnostic.message)]

end Diagnostic

namespace Outcome

def inspectCandidate {α : Type} (chain : Chain) (candidate : Candidate α) : String :=
  recordText "ParseResult" [
    partText "first_token" (optionText Token.inspect chain[candidate.start]?),
    partText "next_token" (optionText Token.inspect chain[candidate.stop]?),
    partText "result" "()"]

def inspect {α : Type} (chain : Chain) : Outcome α → String
  | success candidates carried? =>
      recordText "Suc" [
        partText "candidates"
          ("[" ++ ", ".intercalate (candidates.map (inspectCandidate chain)) ++ "]"),
        partText "error" (optionText Diagnostic.inspect carried?)]
  | failure diagnostic => "Err(" ++ diagnostic.inspect ++ ")"

end Outcome

end TokenGrammar
