import StyleValue.Text.Printable

/-!
# Quoted text

A text is quoted between single quotes, or between double quotes when it holds a single quote and no
double quote.  The backslash and the quote in use are escaped by a backslash, tab, line feed and
carriage return by a letter, and every other character that is not printable by its code point in
hexadecimal, of two, four or eight digits.
-/

namespace StyleValue.Text

/-- The `count` lowest hexadecimal digits of `n`, the highest one first. -/
def hexDigits : (count n : Nat) → List Char
  | 0, _ => []
  | count + 1, n => hexDigits count (n / 16) ++ [Nat.digitChar (n % 16)]

/-- A character by its code point. -/
def codePointEscape (c : Char) : List Char :=
  if c.toNat < 0x100 then
    '\\' :: 'x' :: hexDigits 2 c.toNat
  else if c.toNat < 0x10000 then
    '\\' :: 'u' :: hexDigits 4 c.toNat
  else
    '\\' :: 'U' :: hexDigits 8 c.toNat

/-- A character inside quotes. -/
def escape (quote c : Char) : List Char :=
  if c = quote ∨ c = '\\' then ['\\', c]
  else if c = '\t' then ['\\', 't']
  else if c = '\n' then ['\\', 'n']
  else if c = '\r' then ['\\', 'r']
  else if isPrintable c then [c]
  else codePointEscape c

def singleQuote : Char := '\x27'

def doubleQuote : Char := '\x22'

/-- The quote that a text is put between. -/
def quoteFor (text : List Char) : Char :=
  if text.contains singleQuote && !text.contains doubleQuote then doubleQuote else singleQuote

/-- A text between quotes. -/
def quoted (text : String) : String :=
  let quote := quoteFor text.toList
  String.ofList (quote :: text.toList.flatMap (escape quote) ++ [quote])

end StyleValue.Text
