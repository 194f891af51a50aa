import ResponseCache.Text.Blank
import ResponseCache.Text.Escaped
/-!
# INI documents

An INI document is read character by character. Blanks between items are skipped. A line whose
first character is `;` or `#` is a comment; a comment anywhere else is refused. `[name]` opens a
section; a key is read up to `=` or `:`, and its value from there to the end of the line. A value
may be quoted with `"` or `'`, and text after the closing quote is kept. Backslash escapes
`\0 \a \b \t \r \n`, `\xHHHH` and a backslash before a line break (which joins the lines) are
understood everywhere; a backslash before any other character stands for that character. Names
and values are trimmed of blanks.

Errors give the line and column (both from 1) where reading stopped.
-/

namespace ResponseCache
namespace Config
namespace Ini

/-- A reading position: the line (from 0) and column (from 1, and 0 for a line break) of the
current character. -/
structure Pos where
  /-- The line, counted from 0. -/
  line : Nat := 0
  /-- The column, counted from 1; 0 for a line break. -/
  col : Nat := 0
deriving DecidableEq, Repr

/-- The position of the character after `c`. -/
def Pos.next (p : Pos) (c : Char) : Pos := if c = '\n' then ⟨p.line + 1, 0⟩ else ⟨p.line, p.col + 1⟩

/-- The reader: the text from the current character on, and the current position. -/
structure Reader where
  /-- The text from the current character on. -/
  rest : List Char
  /-- The position of the current character. -/
  pos : Pos

namespace Reader

/-- A reader at the first character of a text. -/
def start (cs : List Char) : Reader :=
  match cs with
  | [] => ⟨[], {}⟩
  | c :: _ => ⟨cs, Pos.next {} c⟩

/-- The current character, if any. -/
def current (r : Reader) : Option Char := r.rest.head?

/-- Moves to the next character. -/
def bump (r : Reader) : Reader :=
  match r.rest with
  | [] => r
  | _ :: rest => ⟨rest, match rest with
    | c :: _ => r.pos.next c
    | [] => r.pos⟩

end Reader

/-- Why a document could not be read, and where. -/
structure ParseError where
  /-- The line, from 1. -/
  line : Nat
  /-- The column, from 1. -/
  col : Nat
  /-- What went wrong. -/
  message : String
deriving DecidableEq, Repr

/-- The text of a reading error. -/
def ParseError.text (e : ParseError) : String :=
  Nat.repr e.line ++ ":" ++ Nat.repr e.col ++ " " ++ e.message

/-- An error at the reader's position. -/
def Reader.fail (r : Reader) (msg : String) : ParseError := ⟨r.pos.line + 1, r.pos.col + 1, msg⟩

/-- The written form of an optional character. -/
def optionCharText : Option Char → String
  | some c => "Some(" ++ Text.quoteChar c ++ ")"
  | none => "None"

/-- The error for a text that ended while one of `stops` was expected. -/
def eofError (stops : List (Option Char)) (r : Reader) : ParseError :=
  r.fail ("expecting \"[" ++ ", ".intercalate (stops.map optionCharText) ++ "]\" but found EOF.")

/-- The character an escape letter stands for. -/
def escaped (c : Char) : Char :=
  if c = '0' then Char.ofNat 0 else if c = 'a' then Char.ofNat 7 else if c = 'b' then Char.ofNat 8
  else if c = 't' then '\t' else if c = 'r' then '\r' else if c = 'n' then '\n' else c

/-- The value of hexadecimal text with an optional plus sign. -/
def hexValue? (cs : List Char) : Option Nat :=
  let digits := match cs with
    | '+' :: rest => rest
    | _ => cs
  if digits.isEmpty then none
  else digits.foldl (fun acc c => acc.bind fun n =>
    if c.isDigit then some (n * 16 + (c.toNat - 48))
    else if 'a' ≤ c ∧ c ≤ 'f' then some (n * 16 + (c.toNat - 87))
    else if 'A' ≤ c ∧ c ≤ 'F' then some (n * 16 + (c.toNat - 55))
    else none) (some 0)

/-- Reads the four characters of a `\x` escape, the reader being at the `x`. -/
def readHexEscape (stops : List (Option Char)) : Nat → Reader → List Char →
    Except ParseError (Char × Reader)
  | 0, r, code =>
    match hexValue? code.reverse with
    | some n => if n < 0xD800 ∨ (0xDFFF < n ∧ n < 0x110000) then .ok (Char.ofNat n, r)
      else .error (r.fail "unknown character in \\xHH form")
    | none => .error (r.fail "unknown character in \\xHH form")
  | k + 1, r, code =>
    let r := r.bump
    match r.current with
    | none => .error (eofError stops r)
    | some c =>
      if c = '\\' then
        let r := r.bump
        if r.current != some '\n' then
          .error (r.fail ("expecting \"\\\\n\" but found \"" ++ optionCharText r.current ++ "\"."))
        else readHexEscape stops k r (c :: code)
      else readHexEscape stops k r (c :: code)

/-- Reads up to one of `stops` (`none` standing for the end of the text), with escapes. -/
def scanUntil (stops : List (Option Char)) : Nat → Reader → List Char →
    Except ParseError (String × Reader)
  | 0, r, acc => .ok (String.ofList acc.reverse, r)
  | fuel + 1, r, acc =>
    if stops.contains r.current then .ok (String.ofList acc.reverse, r)
    else match r.current with
      | none => .error (eofError stops r)
      | some '\\' =>
        let r := r.bump
        match r.current with
        | none => .error (eofError stops r)
        | some '\n' => scanUntil stops fuel r.bump acc
        | some 'x' =>
          match readHexEscape stops 4 r [] with
          | .ok (c, r) => scanUntil stops fuel r.bump (c :: acc)
          | .error e => .error e
        | some c => scanUntil stops fuel r.bump (escaped c :: acc)
      | some c => scanUntil stops fuel r.bump (c :: acc)

/-- Reads up to one of `stops`, with fuel enough for the rest of the text. -/
def scan (stops : List (Option Char)) (r : Reader) : Except ParseError (String × Reader) :=
  scanUntil stops (r.rest.length + 1) r []

/-- Skips blanks, line breaks included. -/
def skipBlanks : Nat → Reader → Reader
  | 0, r => r
  | fuel + 1, r =>
    match r.current with
    | some c => if Text.isBlank c then skipBlanks fuel r.bump else r
    | none => r

/-- Skips blanks other than line breaks and carriage returns. -/
def skipLineBlanks : Nat → Reader → Reader
  | 0, r => r
  | fuel + 1, r =>
    match r.current with
    | some c => if c = '\t' ∨ (Text.isBlank c ∧ c ≠ '\n' ∧ c ≠ '\r') then skipLineBlanks fuel r.bump else r
    | none => r

/-- Skips a comment through its line break. -/
def skipComment : Nat → Reader → Reader
  | 0, r => r
  | fuel + 1, r =>
    match r.current with
    | some c => if c = '\n' then r.bump else skipComment fuel r.bump
    | none => r

/-- The stops of a value: the end of the line or of the text. -/
def lineEnd : List (Option Char) := [some '\n', some '\r', none]

/-- Reads a value, the reader being at its `=` or `:`. -/
def readValue (r : Reader) : Except ParseError (String × Reader) := do
  let r := skipLineBlanks (r.rest.length + 1) r.bump
  match r.current with
  | none => return ("", r)
  | some q =>
    if q = '"' ∨ q = Char.ofNat 39 then
      let (inner, r) ← scan [some q] r.bump
      let (tail, r) ← scan lineEnd r.bump
      return (inner ++ tail, r)
    else scan lineEnd r

/-- Reads a section name, the reader being at its `[`. -/
def readSection (r : Reader) : Except ParseError (String × Reader) := do
  let (name, r) ← scan [some ']'] r.bump
  return (name, if r.current == some ']' then r.bump else r)

/-- One section of a document, with its entries in order; `none` names the part before the
first section. -/
structure Section where
  /-- The section's name. -/
  name : Option String
  /-- The entries, in order; a key may repeat. -/
  entries : List (String × String) := []
deriving DecidableEq, Repr

/-- Adds an entry to the last section. -/
def addEntry (doc : List Section) (entry : String × String) : List Section :=
  match doc.reverse with
  | [] => [⟨none, [entry]⟩]
  | last :: before => (({ last with entries := last.entries ++ [entry] }) :: before).reverse

/-- Reads the items of a document; `key` is a key read and still waiting for its value. -/
def readItems : Nat → Reader → String → List Section → Except ParseError (List Section)
  | 0, _, _, doc => .ok doc
  | fuel + 1, r, key, doc => do
    let r := skipBlanks (r.rest.length + 1) r
    match r.current with
    | none => return doc
    | some c =>
      if c = ';' ∨ c = '#' then
        if r.pos.col > 1 then throw (r.fail "doesn't support inline comment")
        readItems fuel (skipComment (r.rest.length + 1) r) key doc
      else if c = '[' then
        let (name, r) ← readSection r
        readItems fuel r key (doc ++ [⟨some (Text.trim name), []⟩])
      else if c = '=' ∨ c = ':' then
        if key.isEmpty then throw (r.fail "missing key")
        let (value, r) ← readValue r
        readItems fuel r "" (addEntry doc (key, Text.trim value))
      else
        let (k, r) ← scan [some '=', some ':'] r
        readItems fuel r (Text.trim k) doc

/-- Reads a document: its sections in order, the part before the first section first. -/
def parse (text : String) : Except ParseError (List Section) :=
  let cs := text.toList
  readItems (cs.length + 1) (Reader.start cs) "" [⟨none, []⟩]

end Ini
end Config
end ResponseCache
