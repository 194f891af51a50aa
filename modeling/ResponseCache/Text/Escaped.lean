import ResponseCache.Text.Printable
import ResponseCache.Text.GraphemeExtend
/-!
# Escaped quoting of texts

A text is shown between double quotes. Inside, the null, tab, carriage return and line feed
characters are written as backslash escapes, as are the backslash and the double quote. A
character that extends the grapheme before it, or that has no visible form of its own (controls,
format characters, separators other than the space, private use and unassigned code points), is
written as `\u{h}` with its code point in lower-case hexadecimal without leading zeros. Every other
character stands for itself.

The two classes are those of Unicode 17.0, given in their own modules.
-/

namespace ResponseCache
namespace Text

/-- Lower-case hexadecimal digits of a number, without leading zeros. -/
def hexDigits (n : Nat) : List Char := Nat.toDigits 16 n

/-- The written form of one character inside a quoted text. -/
def escapeChar (c : Char) : List Char :=
  if c = Char.ofNat 0 then ['\\', '0']
  else if c = '\t' then ['\\', 't']
  else if c = '\r' then ['\\', 'r']
  else if c = '\n' then ['\\', 'n']
  else if c = '\\' then ['\\', '\\']
  else if c = '"' then ['\\', '"']
  else if isGraphemeExtend c || isInvisible c then
    ['\\', 'u', Char.ofNat 123] ++ hexDigits c.toNat ++ [Char.ofNat 125]
  else [c]

/-- A text between double quotes, with the characters escaped as `escapeChar` says. -/
def quote (s : String) : String :=
  String.ofList ('"' :: s.toList.flatMap escapeChar ++ ['"'])

/-- A character between single quotes: escaped as inside a quoted text, except that the single
quote is escaped and the double quote is not. -/
def quoteChar (c : Char) : String :=
  let body := if c = Char.ofNat 39 then ['\\', Char.ofNat 39]
    else if c = '"' then ['"'] else escapeChar c
  String.ofList (Char.ofNat 39 :: body ++ [Char.ofNat 39])


end Text
end ResponseCache
