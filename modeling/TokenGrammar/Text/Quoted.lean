import TokenGrammar.Text.Visible

/-!
# Quoted text

Diagnostics and representations show text between double quotes. Quotes and backslashes are
escaped, a few controls have short escapes, and every other character that is not visible is written
as its code point.
-/

namespace TokenGrammar.Text

def lowerHex (n : Nat) : String := String.ofList (Nat.toDigits 16 n)

def quotedChar (c : Char) : String :=
  match c with
  | '"' => "\\\""
  | '\\' => "\\\\"
  | '\n' => "\\n"
  | '\r' => "\\r"
  | '\t' => "\\t"
  | '\x00' => "\\0"
  | c =>
      if isVisible c then c.toString else "\\u\x7b" ++ lowerHex c.toNat ++ "\x7d"

/-- Text between double quotes, with everything invisible escaped. -/
def quoted (text : String) : String :=
  "\"" ++ String.join (text.toList.map quotedChar) ++ "\""

end TokenGrammar.Text
