import TokenGrammar.Pattern.Reader
import TokenGrammar.Pattern.Search
import TokenGrammar.Token

/-!
# Lexers

A lexer cuts an input into lexemes. At every offset the first rule in the order of declaration that
finds a text which is not empty gives the next lexeme: everything from the offset to the end of that
text. The lexemes of rules that are kept become the tokens of a chain. Tokenizing needs a rule at
every offset and fails at the first where there is none.
-/

namespace TokenGrammar

/-- A rule as it is declared. The lexemes of a rule that is not kept are left out of the chain. -/
structure LexicalRule where
  keep : Bool
  pattern : String
  kind : String
deriving DecidableEq, Repr

/-- A rule ready for use: what it finds depends only on the rest of the input. -/
structure Scanner where
  keep : Bool
  kind : String
  find? : List Char → Option Span

abbrev Lexer := List Scanner

/-- A rule whose pattern is none, by its place among the rules. -/
structure InvalidRule where
  index : Nat
  pattern : String
deriving DecidableEq, Repr

namespace InvalidRule

def message (invalid : InvalidRule) : String :=
  "invalid pattern `" ++ invalid.pattern ++ "` for lexer rule " ++ toString invalid.index

end InvalidRule

namespace LexicalRule

def anchoredSource (pattern : String) : String := "^(?:" ++ pattern ++ ")"

def compile? (rule : LexicalRule) : Option Scanner := do
  let pattern ← Pattern.read? (anchoredSource rule.pattern)
  let program := Program.ofPattern pattern
  return ⟨rule.keep, rule.kind, program.find?⟩

end LexicalRule

/-- The rest of the input where no rule finds a lexeme. -/
structure Untokenized where
  position : Position
  rest : String
deriving DecidableEq, Repr

namespace Untokenized

def message (untokenized : Untokenized) : String :=
  "Unable to tokenize the rest of the input: " ++ untokenized.rest

end Untokenized

/-! ### Places in the input -/

/-- A row and a column, both counted from one. -/
structure Place where
  row : Nat
  column : Nat
deriving DecidableEq, Repr

namespace Place

def origin : Place := ⟨1, 1⟩

/-- The place after a character: a line break begins a row. -/
def next (place : Place) (c : Char) : Place :=
  if c == '\n' then ⟨place.row + 1, 1⟩ else ⟨place.row, place.column + 1⟩

def after (place : Place) (text : List Char) : Place := text.foldl next place

end Place

def byteLength (text : List Char) : Nat :=
  text.foldl (fun bytes char => bytes + char.utf8Size) 0

def Position.ofText (index : Nat) (place : Place) (text : List Char) : Position :=
  let stop := place.after text
  ⟨index, place.row, place.column, stop.row, stop.column⟩

namespace Lexer

/-- A lexer from rules in the order of their precedence, or the first rule whose pattern is
invalid. -/
def ofRulesFrom (index : Nat) : List LexicalRule → Except InvalidRule Lexer
  | [] => .ok []
  | rule :: rules =>
      match rule.compile? with
      | none => .error ⟨index, rule.pattern⟩
      | some scanner => (ofRulesFrom (index + 1) rules).map (scanner :: ·)

def ofRules (rules : List LexicalRule) : Except InvalidRule Lexer := ofRulesFrom 0 rules

def lexemeLength? (scanner : Scanner) (rest : List Char) : Option Nat :=
  (scanner.find? rest).bind fun span => if span.start < span.stop then some span.stop else none

def lexeme? (lexer : Lexer) (rest : List Char) : Option (Scanner × Nat) :=
  lexer.findSome? fun scanner =>
    (lexemeLength? scanner rest).map fun length => (scanner, length)

theorem pos_of_lexemeLength? {scanner : Scanner} {rest : List Char} {length : Nat}
    (hlength : lexemeLength? scanner rest = some length) : 0 < length := by
  obtain ⟨span, _, hspan⟩ := Option.bind_eq_some_iff.mp hlength
  split at hspan
  · cases hspan
    omega
  · simp at hspan

theorem pos_of_lexeme? {lexer : Lexer} {rest : List Char} {scanner : Scanner} {length : Nat}
    (hlexeme : lexer.lexeme? rest = some (scanner, length)) : 0 < length := by
  obtain ⟨_, _, hmap⟩ := List.exists_of_findSome?_eq_some hlexeme
  obtain ⟨_, hlength, heq⟩ := Option.map_eq_some_iff.mp hmap
  cases heq
  exact pos_of_lexemeLength? hlength

theorem length_drop_lexeme_lt {lexer : Lexer} {rest : List Char} {scanner : Scanner} {length : Nat}
    (hrest : rest ≠ []) (hlexeme : lexer.lexeme? rest = some (scanner, length)) :
    (rest.drop length).length < rest.length := by
  have hpos := pos_of_lexeme? hlexeme
  have hlength : 0 < rest.length := List.length_pos_iff.mpr hrest
  simp only [List.length_drop]
  omega

/-- Tokenizes the rest of an input behind the tokens found so far. -/
def tokenizeFrom (lexer : Lexer) (index : Nat) (place : Place) (tokens : Chain)
    (rest : List Char) : Except Untokenized Chain :=
  if hempty : rest = [] then .ok tokens
  else
    match hlexeme : lexer.lexeme? rest with
    | none => .error ⟨.ofText index place [], String.ofList rest⟩
    | some (scanner, length) =>
        let text := rest.take length
        let tokens :=
          if scanner.keep then
            tokens.push ⟨scanner.kind, String.ofList text, .ofText index place text⟩
          else tokens
        have _hshorter := length_drop_lexeme_lt hempty hlexeme
        tokenizeFrom lexer (index + byteLength text) (place.after text) tokens (rest.drop length)
termination_by rest.length
decreasing_by exact _hshorter

def tokenize (lexer : Lexer) (input : String) : Except Untokenized Chain :=
  tokenizeFrom lexer 0 .origin #[] input.toList

end Lexer

end TokenGrammar
