import PageBuilder.Text.Letters
import PageBuilder.Text.Printable

/-! # Text literals

Text between quotes, as it appears inside a printed list or record. Single quotes are used unless
the text holds a single quote and no double quote; characters that are not printable are written
by code point. -/

namespace PageBuilder.Text

/-- The quote around a text. -/
def literalQuote (cs : List Char) : Char :=
  if cs.contains '\'' && !cs.contains '"' then '"' else '\''

/-- One character between quotes. -/
def literalChar (quote c : Char) : List Char :=
  if c = quote || c = '\\' then ['\\', c]
  else if c = '\n' then ['\\', 'n']
  else if c = '\r' then ['\\', 'r']
  else if c = '\t' then ['\\', 't']
  else if isPrintable c then [c]
  else if c.toNat < 0x100 then '\\' :: 'x' :: hexDigits 2 c.toNat
  else if c.toNat < 0x10000 then '\\' :: 'u' :: hexDigits 4 c.toNat
  else '\\' :: 'U' :: hexDigits 8 c.toNat

/-- A text with its quotes. -/
def literal (s : String) : List Char :=
  let cs := s.toList
  let quote := literalQuote cs
  quote :: (cs.flatMap (literalChar quote) ++ [quote])

end PageBuilder.Text
