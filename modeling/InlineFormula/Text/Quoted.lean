import InlineFormula.Text.Printable

/-!
Quoted text, as messages show a text whose ends must be visible. Single quotes stand around it
unless it holds a single quote and no double one. A character that cannot be printed is written
by its code point in the shortest of three widths.
-/

namespace InlineFormula.Text

def singleQuote : Char := '\x27'

def doubleQuote : Char := '\x22'

def backslash : Char := '\x5c'

/-- Double quotes spare a text with single quotes from escapes; otherwise single quotes are used. -/
def quoteFor (text : List Char) : Char :=
  if text.contains singleQuote && !text.contains doubleQuote then doubleQuote else singleQuote

/-- The lower-case hexadecimal digits of a number, padded on the left with zeros. -/
def paddedHex (width value : Nat) : List Char :=
  let digits := Nat.toDigits 16 value
  List.replicate (width - digits.length) '0' ++ digits

/-- The letter before the digits tells their number: two after `x`, four after `u`, eight
after `U`. -/
def codeEscape (char : Char) : List Char :=
  if char.toNat < 0x100 then backslash :: 'x' :: paddedHex 2 char.toNat
  else if char.toNat < 0x10000 then backslash :: 'u' :: paddedHex 4 char.toNat
  else backslash :: 'U' :: paddedHex 8 char.toNat

def escapeChar (quote char : Char) : List Char :=
  if char = quote ∨ char = backslash then [backslash, char]
  else if char = '\n' then [backslash, 'n']
  else if char = '\r' then [backslash, 'r']
  else if char = '\t' then [backslash, 't']
  else if isPrintable char then [char]
  else codeEscape char

def quoted (text : String) : String :=
  let quote := quoteFor text.toList
  String.ofList (quote :: text.toList.flatMap (escapeChar quote) ++ [quote])

end InlineFormula.Text
