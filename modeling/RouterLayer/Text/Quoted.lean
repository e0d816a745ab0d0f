import RouterLayer.Text.Printable

set_option autoImplicit false

namespace RouterLayer.Text

def hexDigit (n : Nat) : CodePoint :=
  ("0123456789abcdef" : Text).getD n '0'

def hexDigits : Nat → Nat → Text
  | 0, _ => []
  | width + 1, n => hexDigits width (n / 16) ++ [hexDigit (n % 16)]

/-- The shortest of the three escapes by code that has room for the code. -/
def codeEscape (c : CodePoint) : Text :=
  if c.code < 0x100 then "\\x" ++ hexDigits 2 c.code
  else if c.code < 0x10000 then "\\u" ++ hexDigits 4 c.code
  else "\\U" ++ hexDigits 8 c.code

def quotedPoint (quote c : CodePoint) : Text :=
  if c = quote || c = '\\' then ['\\', c]
  else if c = '\n' then ['\\', 'n']
  else if c = '\r' then ['\\', 'r']
  else if c = '\t' then ['\\', 't']
  else if isPrintable c then [c]
  else codeEscape c

def quoteOf (s : Text) : CodePoint :=
  if s.contains (.char '\'') && !s.contains (.char '"') then '"' else '\''

def quoted (s : Text) : Text :=
  quoteOf s :: s.flatMap (quotedPoint (quoteOf s)) ++ [quoteOf s]

def escapeSurrogates (s : Text) : Text :=
  s.flatMap fun
    | .char c => [.char c]
    | .surrogate index => codeEscape (.surrogate index)

end RouterLayer.Text
