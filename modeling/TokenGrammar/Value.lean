import TokenGrammar.Token

/-!
# Values

Grammars compute one type of values. Every value has a text, which is what selectors compare and
functions build on, and an integer, which is read from the text where the value is no number
itself. Arithmetic is that of 64-bit words.
-/

namespace TokenGrammar

inductive Value where
  | unit
  | text (content : String)
  | number (word : Int64)
  | list (items : List Value)
  | pair (first second : Value)
  | absent
  | present (value : Value)
  | token (occurrence : Occurrence)
deriving Inhabited

namespace Value

def ofOption : Option Value → Value
  | none => absent
  | some value => present value

def ofPair (parts : Value × Value) : Value := pair parts.1 parts.2

mutual

/-- The text of a value. A token is its own text. -/
def shown : Value → String
  | unit => "()"
  | text content => content
  | number word => toString word.toInt
  | list items => "[" ++ ", ".intercalate (shownAll items) ++ "]"
  | pair first second => "(" ++ shown first ++ " " ++ shown second ++ ")"
  | absent => "none"
  | present value => "some(" ++ shown value ++ ")"
  | token occurrence => occurrence.token.text

def shownAll : List Value → List String
  | [] => []
  | item :: items => shown item :: shownAll items

end

def natural? (digits : List Char) : Option Nat :=
  if digits.isEmpty || !digits.all Char.isDigit then none
  else some (digits.foldl (fun value c => 10 * value + (c.toNat - '0'.toNat)) 0)

/-- The word that a text stands for: decimal digits, after a sign or none, that do not exceed a
word. -/
def word? (text : String) : Option Int64 := do
  let (sign, digits) := match text.toList with
    | '-' :: digits => ((-1 : Int), digits)
    | '+' :: digits => (1, digits)
    | digits => (1, digits)
  let number := sign * (← natural? digits : Nat)
  if Int64.minValue.toInt ≤ number && number ≤ Int64.maxValue.toInt then some (.ofInt number)
  else none

/-- The integer of a value: that of the second part of a pair, and zero where the text of a value is
no integer. -/
def toWord : Value → Int64
  | number word => word
  | pair _ second => toWord second
  | value => (word? value.shown).getD 0

end Value

/-! ### Functions on values -/

/-- What a grammar may do to the value of a part. -/
inductive Transform where
  | identity
  | shown
  | word
  | kind
  | length
  | sum
  | increment
  | negate
  | first
  | second
  | constant (value : Value)
  | wrapped (before after : String)
  | pairedAfter (before : Value)
deriving Inhabited

namespace Transform

def apply : Transform → Value → Value
  | identity, value => value
  | shown, value => .text value.shown
  | word, value => .number value.toWord
  | kind, .token occurrence => .text occurrence.token.kind
  | kind, value => value
  | length, .list items => .number (Int64.ofNat items.length)
  | length, _ => .number 0
  | sum, .list items => .number (items.foldl (fun total item => total + item.toWord) 0)
  | sum, value => .number value.toWord
  | increment, value => .number (value.toWord + 1)
  | negate, value => .number (-value.toWord)
  | first, .pair a _ => a
  | first, value => value
  | second, .pair _ b => b
  | second, value => value
  | constant value, _ => value
  | wrapped before after, value => .text (before ++ value.shown ++ after)
  | pairedAfter before, value => .pair before value

end Transform

/-- How a fold from the left takes in the next value. -/
inductive Fold where
  | add
  | subtract
  | multiply
  | bracketed
  | pair
  | keep
  | operator
deriving Inhabited, DecidableEq

namespace Fold

def apply : Fold → Value → Value → Value
  | add, total, next => .number (total.toWord + next.toWord)
  | subtract, total, next => .number (total.toWord - next.toWord)
  | multiply, total, next => .number (total.toWord * next.toWord)
  | bracketed, total, next => .text ("(" ++ total.shown ++ " " ++ next.shown ++ ")")
  | pair, total, next => .pair total next
  | keep, total, _ => total
  | operator, total, .pair sign operand =>
      match sign.shown with
      | "+" => .number (total.toWord + operand.toWord)
      | "-" => .number (total.toWord - operand.toWord)
      | "*" => .number (total.toWord * operand.toWord)
      | _ => total
  | operator, total, _ => total

end Fold

/-- What a grammar may add to a value about the stretch of the chain it was read from: the byte
offsets of its two ends, or the texts of its tokens. -/
inductive SpanView where
  | offsets
  | texts
deriving Inhabited, DecidableEq

namespace SpanView

def offsetAt (chain : Chain) (cursor : Cursor) : Value :=
  .ofOption ((chain.position? cursor).map fun position => .number (Int64.ofNat position.index))

def apply (view : SpanView) (chain : Chain) (start stop : Cursor) (value : Value) : Value :=
  match view with
  | offsets => .pair value (.pair (offsetAt chain start) (offsetAt chain stop))
  | texts =>
      .pair value (.list ((chain.extract start stop).toList.map fun token => .text token.text))

end SpanView

end TokenGrammar
