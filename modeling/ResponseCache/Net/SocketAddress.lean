/-!
# Socket addresses

A socket address is an IPv4 address and a port, `a.b.c.d:port`, or an IPv6 address in brackets
with an optional numeric zone and a port, `[addr%zone]:port`. IPv4 parts are decimal numbers up
to 255 without leading zeros; IPv6 groups are one to four hexadecimal digits, with at most one
`::` standing for one or more zero groups and an optional IPv4 address in the last two groups.
A port is a decimal number below 65536, and leading zeros are allowed there.

A listen text that is no socket address is looked up as `host:port`. The lookup is refused
before any name service is asked when there is no colon, or when the text after the last colon
is no port.
-/

namespace ResponseCache
namespace Net

/-- The value of a digit in base `radix`, for radix 10 or 16. -/
def digitValue (radix : Nat) (c : Char) : Option Nat :=
  if '0' ≤ c ∧ c ≤ '9' then some (c.toNat - 48)
  else if radix = 16 ∧ 'a' ≤ c ∧ c ≤ 'f' then some (c.toNat - 87)
  else if radix = 16 ∧ 'A' ≤ c ∧ c ≤ 'F' then some (c.toNat - 55)
  else none

/-- The digits at the front of a text, in base `radix`. -/
def takeDigits (radix : Nat) : List Char → List Nat × List Char
  | [] => ([], [])
  | c :: rest =>
    match digitValue radix c with
    | some d => let (ds, r) := takeDigits radix rest; (d :: ds, r)
    | none => ([], c :: rest)

/-- Reads a number at the front of a text: at least one digit, at most `maxDigits` when given,
a value below `bound`, and no leading zero unless `zeroPrefix`. -/
def readNumber (radix bound : Nat) (maxDigits : Option Nat) (zeroPrefix : Bool)
    (cs : List Char) : Option (Nat × List Char) :=
  let (ds, rest) := takeDigits radix cs
  let value := ds.foldl (fun acc d => acc * radix + d) 0
  if ds.isEmpty then none
  else if (maxDigits.map fun m => decide (ds.length > m)).getD false then none
  else if value ≥ bound then none
  else if !zeroPrefix && ds.head? == some 0 && ds.length > 1 then none
  else some (value, rest)

/-- Reads an IPv4 address at the front of a text. -/
def readIpv4 (cs : List Char) : Option (List Nat × List Char) := do
  let (a, r) ← readNumber 10 256 (some 3) false cs
  let r ← match r with | '.' :: r => some r | _ => none
  let (b, r) ← readNumber 10 256 (some 3) false r
  let r ← match r with | '.' :: r => some r | _ => none
  let (c, r) ← readNumber 10 256 (some 3) false r
  let r ← match r with | '.' :: r => some r | _ => none
  let (d, r) ← readNumber 10 256 (some 3) false r
  return ([a, b, c, d], r)

/-- Reads up to `limit` colon-separated IPv6 groups; an IPv4 address may stand for the last
two. Gives the groups read, whether an IPv4 address ended them, and the rest. -/
def readGroups : Nat → Nat → List Char → List Nat × Bool × List Char
  | 0, _, cs => ([], false, cs)
  | fuel + 1, i, cs =>
    let afterSep := if i > 0 then (match cs with | ':' :: r => some r | _ => none) else some cs
    match afterSep with
    | none => ([], false, cs)
    | some body =>
      let v4 := if fuel ≥ 1 then readIpv4 body else none
      match v4 with
      | some ([a, b, c, d], r) => ([a * 256 + b, c * 256 + d], true, r)
      | _ =>
        match readNumber 16 65536 (some 4) true body with
        | some (g, r) =>
          let (gs, v4end, rest) := readGroups fuel (i + 1) r
          (g :: gs, v4end, rest)
        | none => ([], false, cs)

/-- Reads an IPv6 address at the front of a text. -/
def readIpv6 (cs : List Char) : Option (List Char) :=
  let (head, headV4, r) := readGroups 8 0 cs
  if head.length = 8 then some r
  else if headV4 then none
  else match r with
    | ':' :: ':' :: r =>
      let (_, _, r) := readGroups (8 - (head.length + 1)) 0 r
      some r
    | _ => none

/-- Reads a port after a colon at the front of a text. -/
def readPort (cs : List Char) : Option (Nat × List Char) :=
  match cs with
  | ':' :: r => readNumber 10 65536 none true r
  | _ => none

/-- Whether a text is exactly an IPv4 socket address. -/
def isV4SocketAddress (cs : List Char) : Bool :=
  match readIpv4 cs with
  | some (_, r) => match readPort r with
    | some (_, []) => true
    | _ => false
  | none => false

/-- Whether a text is exactly a bracketed IPv6 socket address. -/
def isV6SocketAddress (cs : List Char) : Bool :=
  match cs with
  | '[' :: r =>
    match readIpv6 r with
    | some r =>
      let r := match r with
        | '%' :: z => (readNumber 10 4294967296 none true z).map Prod.snd |>.getD ('%' :: z)
        | _ => r
      match r with
      | ']' :: r => match readPort r with
        | some (_, []) => true
        | _ => false
      | _ => false
    | none => false
  | _ => false

/-- Whether a text is a socket address. -/
def isSocketAddress (s : String) : Bool :=
  isV4SocketAddress s.toList || isV6SocketAddress s.toList

/-- Why a listen text cannot be looked up. -/
inductive LookupError where
  /-- No colon separates a host from a port. -/
  | invalidAddress
  /-- The text after the last colon is no port. -/
  | invalidPort
deriving DecidableEq, Repr

/-- The text of a lookup error. -/
def LookupError.message : LookupError → String
  | .invalidAddress => "invalid socket address"
  | .invalidPort => "invalid port value"

/-- Splits a text at its last colon. -/
def splitLastColon (s : String) : Option (String × String) :=
  let rev := s.toList.reverse
  let portRev := rev.takeWhile (· != ':')
  if portRev.length = rev.length then none
  else some (String.ofList (rev.drop (portRev.length + 1)).reverse, String.ofList portRev.reverse)

/-- Whether a text is a port: an optional plus sign and decimal digits below 65536. -/
def isPortText (s : String) : Bool :=
  let digits := match s.toList with
    | '+' :: rest => rest
    | cs => cs
  !digits.isEmpty && digits.all Char.isDigit &&
    digits.foldl (fun acc c => acc * 10 + (c.toNat - 48)) 0 < 65536

/-- The host and port a listen text names, or why it names none. -/
def hostAndPort (s : String) : Except LookupError (String × String) :=
  match splitLastColon s with
  | none => .error .invalidAddress
  | some (host, port) => if isPortText port then .ok (host, port) else .error .invalidPort

end Net
end ResponseCache
