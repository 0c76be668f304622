import TokenGrammar.Text.Category.Letter
import TokenGrammar.Text.Category.Mark
import TokenGrammar.Text.Category.Number
import TokenGrammar.Text.Category.Punctuation
import TokenGrammar.Text.Category.Separator
import TokenGrammar.Text.Category.Symbol
import TokenGrammar.Text.Ranges

/-!
# General categories

Every code point belongs to exactly one of thirty categories, which form seven groups. The classes
of characters that patterns speak of are unions of these categories and of a few code points
besides. The tables follow version 16 of the Unicode character database.
-/

namespace TokenGrammar.Text

inductive Category where
  | uppercase | lowercase | titlecase | modifierLetter | otherLetter
  | nonspacingMark | spacingMark | enclosingMark
  | decimalNumber | letterNumber | otherNumber
  | connector | dash | opening | closing | initialQuote | finalQuote | otherPunctuation
  | mathSymbol | currencySymbol | modifierSymbol | otherSymbol
  | spaceSeparator | lineSeparator | paragraphSeparator
  | control | format | surrogate | privateUse | unassigned
deriving DecidableEq, Repr

namespace Category

def ranges : Category → Array (Nat × Nat)
  | uppercase => uppercaseRanges
  | lowercase => lowercaseRanges
  | titlecase => titlecaseRanges
  | modifierLetter => modifierLetterRanges
  | otherLetter => otherLetterRanges
  | nonspacingMark => nonspacingMarkRanges
  | spacingMark => spacingMarkRanges
  | enclosingMark => enclosingMarkRanges
  | decimalNumber => decimalNumberRanges
  | letterNumber => letterNumberRanges
  | otherNumber => otherNumberRanges
  | connector => connectorRanges
  | dash => dashRanges
  | opening => openingRanges
  | closing => closingRanges
  | initialQuote => initialQuoteRanges
  | finalQuote => finalQuoteRanges
  | otherPunctuation => otherPunctuationRanges
  | mathSymbol => mathSymbolRanges
  | currencySymbol => currencySymbolRanges
  | modifierSymbol => modifierSymbolRanges
  | otherSymbol => otherSymbolRanges
  | spaceSeparator => spaceSeparatorRanges
  | lineSeparator => lineSeparatorRanges
  | paragraphSeparator => paragraphSeparatorRanges
  | control => controlRanges
  | format => formatRanges
  | surrogate => surrogateRanges
  | privateUse => privateUseRanges
  | unassigned => unassignedRanges

/-! ### The groups -/

def casedLetters : List Category := [uppercase, lowercase, titlecase]

def letters : List Category := [lowercase, uppercase, otherLetter, modifierLetter, titlecase]

def marks : List Category := [nonspacingMark, spacingMark, enclosingMark]

def numbers : List Category := [decimalNumber, letterNumber, otherNumber]

def punctuation : List Category :=
  [connector, dash, opening, closing, initialQuote, finalQuote, otherPunctuation]

def symbols : List Category := [mathSymbol, currencySymbol, modifierSymbol, otherSymbol]

def separators : List Category := [spaceSeparator, lineSeparator, paragraphSeparator]

def others : List Category := [control, format, surrogate, privateUse, unassigned]

end Category

/-! ### Blanks and words -/

def whiteSpaceRanges : Array (Nat × Nat) := #[
  (0x9, 0xd), (0x20, 0x20), (0x85, 0x85), (0xa0, 0xa0), (0x1680, 0x1680), (0x2000, 0x200a),
  (0x2028, 0x2029), (0x202f, 0x202f), (0x205f, 0x205f), (0x3000, 0x3000)]

def isWhiteSpace (c : Char) : Bool := covers whiteSpaceRanges c.toNat

/-- The word characters that are neither letters, marks, digits nor connectors: the two joiners
and the letters in circles and squares. -/
def joinedWordRanges : Array (Nat × Nat) := #[
  (0x200c, 0x200d), (0x24b6, 0x24e9), (0x1f130, 0x1f149), (0x1f150, 0x1f169), (0x1f170, 0x1f189)]

/-- The categories of letters, marks, digits and connectors, of which words are made up together
with the joined word characters. -/
def wordCategories : List Category :=
  Category.letters ++ Category.marks ++ [.decimalNumber, .letterNumber, .connector]

end TokenGrammar.Text
