import EntityScaffold.Text.PrintTable

/-!
Text quoted for a message. Single quotes are used unless the text holds a single quote and no
double one; inside, the backslash and the quote in use are escaped, line breaks and tabs have their
letter, and a character that cannot be seen is written by its number.
-/
namespace EntityScaffold.Text

def singleQuote : Char := '\x27'

def doubleQuote : Char := '\x22'

def hexDigit (d : Nat) : Char :=
  if d < 10 then Char.ofNat (48 + d) else Char.ofNat (87 + d)

def hexDigits : Nat → Nat → List Char
  | 0, _ => []
  | width + 1, n => hexDigits width (n / 16) ++ [hexDigit (n % 16)]

def escapedNumber (n : Nat) : List Char :=
  if n < 0x100 then ['\\', 'x'] ++ hexDigits 2 n
  else if n < 0x10000 then ['\\', 'u'] ++ hexDigits 4 n
  else ['\\', 'U'] ++ hexDigits 8 n

def escapedIn (quote c : Char) : List Char :=
  if c = quote ∨ c = '\\' then ['\\', c]
  else if c = '\n' then ['\\', 'n']
  else if c = '\r' then ['\\', 'r']
  else if c = '\t' then ['\\', 't']
  else if inSpans unprintableSpans c then escapedNumber c.toNat
  else [c]

def quoteFor (cs : List Char) : Char :=
  if cs.contains singleQuote && !cs.contains doubleQuote then doubleQuote else singleQuote

def quotedChars (cs : List Char) : List Char :=
  let q := quoteFor cs
  q :: cs.flatMap (escapedIn q) ++ [q]

def quoted (s : String) : String := String.ofList (quotedChars s.toList)

end EntityScaffold.Text
