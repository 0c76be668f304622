import TokenGrammar.Pattern.CharSet

/-!
# Names of classes

Inside brackets a class can be named between two colons, and after an escape a class of characters
is named by a property: a general category, or the set of all, all ASCII or all assigned characters.
Names of properties are compared without regard to case and separators.
-/

namespace TokenGrammar.CharSet

def ofCharRanges (ranges : List (Char × Char)) : CharSet :=
  ofRanges (ranges.map fun (first, last) => (first.toNat, last.toNat))

/-- The classes that are named inside brackets, between two colons. -/
def bracketed? : String → Option CharSet
  | "alnum" => some (ofCharRanges [('0', '9'), ('A', 'Z'), ('a', 'z')])
  | "alpha" => some (ofCharRanges [('A', 'Z'), ('a', 'z')])
  | "ascii" => some ascii
  | "blank" => some (ofCharRanges [('\t', '\t'), (' ', ' ')])
  | "cntrl" => some (ofCharRanges [('\x00', '\x1f'), ('\x7f', '\x7f')])
  | "digit" => some (range '0' '9')
  | "graph" => some (range '!' '~')
  | "lower" => some (range 'a' 'z')
  | "print" => some (range ' ' '~')
  | "punct" => some (ofCharRanges [('!', '/'), (':', '@'), ('[', '\x60'), ('{', '~')])
  | "space" => some (ofCharRanges [('\t', '\r'), (' ', ' ')])
  | "upper" => some (range 'A' 'Z')
  | "word" => some (ofCharRanges [('0', '9'), ('A', 'Z'), ('_', '_'), ('a', 'z')])
  | "xdigit" => some (ofCharRanges [('0', '9'), ('A', 'F'), ('a', 'f')])
  | _ => none

open Text (Category)

/-- The categories with a name, short or long, in small letters and without separators. -/
def categoriesNamed? : String → Option (List Category)
  | "lu" | "uppercaseletter" => some [.uppercase]
  | "ll" | "lowercaseletter" => some [.lowercase]
  | "lt" | "titlecaseletter" => some [.titlecase]
  | "lm" | "modifierletter" => some [.modifierLetter]
  | "lo" | "otherletter" => some [.otherLetter]
  | "mn" | "nonspacingmark" => some [.nonspacingMark]
  | "mc" | "spacingmark" => some [.spacingMark]
  | "me" | "enclosingmark" => some [.enclosingMark]
  | "nd" | "decimalnumber" | "digit" => some [.decimalNumber]
  | "nl" | "letternumber" => some [.letterNumber]
  | "no" | "othernumber" => some [.otherNumber]
  | "pc" | "connectorpunctuation" => some [.connector]
  | "pd" | "dashpunctuation" => some [.dash]
  | "ps" | "openpunctuation" => some [.opening]
  | "pe" | "closepunctuation" => some [.closing]
  | "pi" | "initialpunctuation" => some [.initialQuote]
  | "pf" | "finalpunctuation" => some [.finalQuote]
  | "po" | "otherpunctuation" => some [.otherPunctuation]
  | "sm" | "mathsymbol" => some [.mathSymbol]
  | "sc" | "currencysymbol" => some [.currencySymbol]
  | "sk" | "modifiersymbol" => some [.modifierSymbol]
  | "so" | "othersymbol" => some [.otherSymbol]
  | "zs" | "spaceseparator" => some [.spaceSeparator]
  | "zl" | "lineseparator" => some [.lineSeparator]
  | "zp" | "paragraphseparator" => some [.paragraphSeparator]
  | "cc" | "control" | "cntrl" => some [.control]
  | "cf" | "format" => some [.format]
  | "co" | "privateuse" => some [.privateUse]
  | "cn" | "unassigned" => some [.unassigned]
  | "lc" | "casedletter" => some Category.casedLetters
  | "l" | "letter" => some Category.letters
  | "m" | "mark" | "combiningmark" => some Category.marks
  | "n" | "number" => some Category.numbers
  | "p" | "punctuation" | "punct" => some Category.punctuation
  | "s" | "symbol" => some Category.symbols
  | "z" | "separator" => some Category.separators
  | "c" | "other" => some Category.others
  | _ => none

/-- The part of a name that is compared: its ASCII characters in small letters, without spaces,
hyphens and underscores. -/
def plainName (name : List Char) : String :=
  let counts (c : Char) := c.toNat < 128 && !(c == ' ' || c == '_' || c == '-')
  String.ofList ((name.filter counts).map Char.toLower)

/-- Drops a leading `is` from a name, except where a single `c` is left: that names a property of
its own. -/
def propertyName : List Char → String
  | i :: s :: rest =>
      if i.toLower == 'i' && s.toLower == 's' && plainName rest != "c" then plainName rest
      else plainName (i :: s :: rest)
  | name => plainName name

def property? (name : List Char) : Option CharSet :=
  match propertyName name with
  | "any" => some any
  | "ascii" => some ascii
  | "assigned" => some (ofCategories [.unassigned]).complement
  | plain => (categoriesNamed? plain).map ofCategories

/-- The class that a property with a value stands for: only the general category has values. -/
def propertyValue? (property value : List Char) : Option CharSet :=
  match propertyName property with
  | "gc" | "generalcategory" => property? value
  | _ => none

end TokenGrammar.CharSet
