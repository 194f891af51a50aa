import ResponseCache.Http.Message
import ResponseCache.Text.Ascii
import ResponseCache.Text.Blank
/-!
# HTTP/1.1 messages on the wire

A request is read from the bytes a connection has received so far: a request line
`METHOD target HTTP/1.x`, header lines `name: value`, an empty line, and a body. The body is as
long as Content-Length says, or comes in chunks when the last transfer coding is `chunked`; a
request with neither has no body. A line ends at a line feed, and a carriage return right before
it belongs to the line end. Empty lines before the request line are skipped, and the spaces and
tabs around a header value are not part of it.

A response is written as a status line with its reason phrase, its header lines, a
`content-length` line unless it has one or its status has no body, a `connection: close` line
when the connection ends after it, an empty line and the body (none for HEAD).

The main statements: a head is read up to its first empty line and every byte after that line
is left for the body, and a fixed-length body leaves every byte after it for the next request.
-/

namespace ResponseCache
namespace Http
namespace Wire

/-- The byte that ends a line. -/
def lineFeed : UInt8 := 10

/-- The byte that may stand right before a line end. -/
def carriageReturn : UInt8 := 13

/-- A line without the carriage return that may end it. -/
def dropReturn (line : List UInt8) : List UInt8 :=
  if line.getLast? = some carriageReturn then line.dropLast else line

/-- Whether a line is empty once its carriage return is dropped. -/
def isBlankLine (line : List UInt8) : Bool := (dropReturn line).isEmpty

/-- The first line of some bytes, without its line feed, and the bytes after it; `none` while
no line feed has come. -/
def takeLine : List UInt8 → Option (List UInt8 × List UInt8)
  | [] => none
  | b :: rest =>
    if b = lineFeed then some ([], rest)
    else (takeLine rest).map fun (line, after) => (b :: line, after)

/-- Reads the lines of a head: empty lines before the first text are skipped, and the head ends
at the next empty line. Gives the lines without their ends and the bytes after the empty line;
`none` while the empty line has not come. -/
def readHead (bytes : List UInt8) : Option (List (List UInt8) × List UInt8) :=
  let segments := bytes.splitOn lineFeed
  let ended := segments.dropLast
  let lead := (ended.takeWhile isBlankLine).length
  match (ended.drop lead).findIdx? isBlankLine with
  | none => none
  | some i =>
    some (((ended.drop lead).take i).map dropReturn,
      [lineFeed].intercalate (segments.drop (lead + i + 1)))

/-- The most bytes a head may take before the request is refused. -/
def maxHeadBytes : Nat := 409600

/-- Why a request could not be read. -/
inductive WireError where
  /-- The request line is not `method target version`. -/
  | requestLine
  /-- The method is not a token. -/
  | method
  /-- The protocol version is neither HTTP/1.0 nor HTTP/1.1. -/
  | version
  /-- The target is no URI. -/
  | target (e : UriError)
  /-- A header line is not `name: value` with a valid name and value. -/
  | headerLine
  /-- The head is longer than a server reads. -/
  | headTooLarge
  /-- The length of the body cannot be told. -/
  | framing
  /-- A chunk of a chunked body is malformed. -/
  | chunk
deriving DecidableEq, Repr

/-- The status that answers a request that could not be read. -/
def WireError.status : WireError → Nat
  | .version => 505
  | .headTooLarge => 431
  | _ => 400

/-- The head of a request: everything before its body. -/
structure RequestHead where
  /-- The method. -/
  method : Method
  /-- The target. -/
  uri : Uri
  /-- The minor protocol version: 0 for HTTP/1.0, 1 for HTTP/1.1. -/
  minor : Nat
  /-- The header fields, in order. -/
  headers : Headers

/-- The text of some bytes when they are all ASCII. -/
def asciiText? (bs : List UInt8) : Option String :=
  if bs.all (· < 128) then some (String.ofList (bs.map fun b => Char.ofNat b.toNat)) else none

/-- Reads a request line: method, target and version, separated by single spaces. -/
def readRequestLine (line : List UInt8) : Except WireError (Method × Uri × Nat) :=
  match line.splitOn 32 with
  | [m, t, v] => do
    let method ← match (asciiText? m).bind Method.ofText? with
      | some x => pure x
      | none => throw .method
    let minor ← match asciiText? v with
      | some "HTTP/1.1" => pure 1
      | some "HTTP/1.0" => pure 0
      | _ => throw .version
    let uri ← (Uri.ofBytes t).mapError .target
    return (method, uri, minor)
  | _ => throw .requestLine

/-- Whether a byte is a space or a tab. -/
def isBlankByte (b : UInt8) : Bool := b = 32 || b = 9

/-- Some bytes without the spaces and tabs at either end. -/
def trimBlankBytes (bs : List UInt8) : List UInt8 :=
  ((bs.dropWhile isBlankByte).reverse.dropWhile isBlankByte).reverse

/-- Reads a header line: a name, a colon, and a value with blanks around it. -/
def readHeaderLine (line : List UInt8) : Except WireError (HeaderName × HeaderValue) :=
  let (name, rest) := line.span (· != 58)
  match (asciiText? name).bind HeaderName.ofText?, rest with
  | some n, _ :: value =>
    match HeaderValue.ofBytes? (trimBlankBytes value) with
    | some v => .ok (n, v)
    | none => .error .headerLine
  | _, _ => .error .headerLine

/-- Reads a head from its lines. -/
def readRequestHead : List (List UInt8) → Except WireError RequestHead
  | [] => .error .requestLine
  | first :: fields => do
    let (method, uri, minor) ← readRequestLine first
    let headers ← fields.foldlM (fun hs line => do
      let (n, v) ← readHeaderLine line
      return hs.append n v) Headers.empty
    return ⟨method, uri, minor, headers⟩

/-- The comma-separated, trimmed, lowered elements of every line of a header. -/
def tokens (hs : Headers) (name : HeaderName) : List String :=
  ((hs.texts name).flatMap (Text.splitAll ',')).map fun t => Text.lower (Text.trim t)

/-- Whether the connection stays open after the answer to a request: HTTP/1.1 unless the
request says `close`, HTTP/1.0 only when it says `keep-alive`. -/
def RequestHead.keepsAlive (h : RequestHead) : Bool :=
  let said := tokens h.headers HeaderName.connection
  if h.minor = 0 then said.contains "keep-alive" else !said.contains "close"

/-- How the length of a body is told. -/
inductive Framing where
  /-- There is no body. -/
  | empty
  /-- The body has this many bytes. -/
  | length (n : Nat)
  /-- The body comes in chunks. -/
  | chunked
deriving DecidableEq, Repr

/-- Reads a decimal Content-Length value. -/
def lengthValue? (s : String) : Option Nat :=
  let cs := (Text.trim s).toList
  if !cs.isEmpty && cs.all Char.isDigit then some (Text.digitsValue cs) else none

/-- How a request's body is framed: chunked when the last transfer coding is `chunked`, else by
the Content-Length values, which must all agree. -/
def framingOf (hs : Headers) : Except WireError Framing :=
  let codings := tokens hs HeaderName.transferEncoding
  if !codings.isEmpty then
    if codings.getLast? = some "chunked" then .ok .chunked else .error .framing
  else
    match ((hs.texts HeaderName.contentLength).flatMap (Text.splitAll ',')).mapM lengthValue? with
    | none => .error .framing
    | some [] => .ok .empty
    | some (n :: more) => if more.all (· = n) then .ok (.length n) else .error .framing

/-- The outcome of reading a part of a message from the bytes received so far. -/
inductive Reading (α : Type) where
  /-- More bytes are needed. -/
  | incomplete
  /-- The bytes cannot be read. -/
  | malformed (e : WireError)
  /-- The part, and the bytes after it. -/
  | complete (value : α) (rest : List UInt8)

/-- The value of a hexadecimal digit. -/
def hexValue (b : UInt8) : Option Nat :=
  if 48 ≤ b ∧ b ≤ 57 then some (b.toNat - 48)
  else if 97 ≤ b ∧ b ≤ 102 then some (b.toNat - 87)
  else if 65 ≤ b ∧ b ≤ 70 then some (b.toNat - 55)
  else none

/-- Reads the size of a chunk from its size line: hexadecimal digits before any extension. -/
def chunkSize? (line : List UInt8) : Option Nat :=
  let digits := trimBlankBytes ((dropReturn line).takeWhile (· != 59))
  if digits.isEmpty then none
  else digits.foldlM (fun acc b => (hexValue b).map (acc * 16 + ·)) 0

/-- Skips trailer lines up to the empty line that ends a chunked body; each round takes a line,
so `fuel` rounds of at least the number of bytes suffice. -/
def skipTrailer : Nat → List UInt8 → Reading Unit
  | 0, _ => .malformed .chunk
  | fuel + 1, bytes =>
    match takeLine bytes with
    | none => .incomplete
    | some (line, rest) => if isBlankLine line then .complete () rest else skipTrailer fuel rest

/-- Reads chunks after the data `body` read so far; each round takes a size line, so `fuel`
rounds of at least the number of bytes suffice. -/
def readChunks : Nat → List UInt8 → List UInt8 → Reading (List UInt8)
  | 0, _, _ => .malformed .chunk
  | fuel + 1, body, bytes =>
    match takeLine bytes with
    | none => .incomplete
    | some (line, rest) =>
      match chunkSize? line with
      | none => .malformed .chunk
      | some 0 =>
        match skipTrailer (rest.length + 1) rest with
        | .complete () after => .complete body after
        | .incomplete => .incomplete
        | .malformed e => .malformed e
      | some n =>
        if rest.length < n then .incomplete
        else
          match takeLine (rest.drop n) with
          | none => .incomplete
          | some (ending, after) =>
            if isBlankLine ending then readChunks fuel (body ++ rest.take n) after
            else .malformed .chunk

/-- Reads a body with the given framing. -/
def readBody (f : Framing) (bytes : List UInt8) : Reading (List UInt8) :=
  match f with
  | .empty => .complete [] bytes
  | .length n => if bytes.length < n then .incomplete else .complete (bytes.take n) (bytes.drop n)
  | .chunked => readChunks (bytes.length + 1) [] bytes

/-- Reads a request from the bytes received so far: its head and body, and the bytes after it. -/
def readRequest (bytes : List UInt8) : Reading (RequestHead × List UInt8) :=
  match readHead bytes with
  | none => if bytes.length > maxHeadBytes then .malformed .headTooLarge else .incomplete
  | some (lines, rest) =>
    match readRequestHead lines with
    | .error e => .malformed e
    | .ok head =>
      match framingOf head.headers with
      | .error e => .malformed e
      | .ok f =>
        match readBody f rest with
        | .complete body after => .complete (head, body) after
        | .incomplete => .incomplete
        | .malformed e => .malformed e

/-- The request a head and a body make. -/
def RequestHead.toRequest (h : RequestHead) (body : List UInt8) : Request :=
  ⟨h.method, h.uri, h.headers, body⟩

/-- The reason phrase of a registered status code. -/
def reasonPhrase : Nat → Option String
  | 100 => some "Continue"
  | 101 => some "Switching Protocols"
  | 102 => some "Processing"
  | 103 => some "Early Hints"
  | 200 => some "OK"
  | 201 => some "Created"
  | 202 => some "Accepted"
  | 203 => some "Non Authoritative Information"
  | 204 => some "No Content"
  | 205 => some "Reset Content"
  | 206 => some "Partial Content"
  | 207 => some "Multi-Status"
  | 208 => some "Already Reported"
  | 226 => some "IM Used"
  | 300 => some "Multiple Choices"
  | 301 => some "Moved Permanently"
  | 302 => some "Found"
  | 303 => some "See Other"
  | 304 => some "Not Modified"
  | 305 => some "Use Proxy"
  | 307 => some "Temporary Redirect"
  | 308 => some "Permanent Redirect"
  | 400 => some "Bad Request"
  | 401 => some "Unauthorized"
  | 402 => some "Payment Required"
  | 403 => some "Forbidden"
  | 404 => some "Not Found"
  | 405 => some "Method Not Allowed"
  | 406 => some "Not Acceptable"
  | 407 => some "Proxy Authentication Required"
  | 408 => some "Request Timeout"
  | 409 => some "Conflict"
  | 410 => some "Gone"
  | 411 => some "Length Required"
  | 412 => some "Precondition Failed"
  | 413 => some "Payload Too Large"
  | 414 => some "URI Too Long"
  | 415 => some "Unsupported Media Type"
  | 416 => some "Range Not Satisfiable"
  | 417 => some "Expectation Failed"
  | 418 => some "I'm a teapot"
  | 421 => some "Misdirected Request"
  | 422 => some "Unprocessable Entity"
  | 423 => some "Locked"
  | 424 => some "Failed Dependency"
  | 425 => some "Too Early"
  | 426 => some "Upgrade Required"
  | 428 => some "Precondition Required"
  | 429 => some "Too Many Requests"
  | 431 => some "Request Header Fields Too Large"
  | 451 => some "Unavailable For Legal Reasons"
  | 500 => some "Internal Server Error"
  | 501 => some "Not Implemented"
  | 502 => some "Bad Gateway"
  | 503 => some "Service Unavailable"
  | 504 => some "Gateway Timeout"
  | 505 => some "HTTP Version Not Supported"
  | 506 => some "Variant Also Negotiates"
  | 507 => some "Insufficient Storage"
  | 508 => some "Loop Detected"
  | 510 => some "Not Extended"
  | 511 => some "Network Authentication Required"
  | _ => none

/-- The status line of a response. -/
def statusLine (status : Nat) : String :=
  "HTTP/1.1 " ++ Nat.repr status ++ " " ++ (reasonPhrase status).getD "<unknown status code>"

/-- Whether a response with this status never carries a body. -/
def isBodiless (status : Nat) : Bool := status < 200 || status = 204 || status = 304

/-- A line of text with its line end. -/
def textLine (s : String) : List UInt8 := s.toUTF8.toList ++ [carriageReturn, lineFeed]

/-- Writes a response; `headOnly` leaves the body out (the answer to HEAD), and `close` says
that the connection ends after it. -/
def render (r : Response) (headOnly close : Bool) : List UInt8 :=
  let fields := r.headers.fields.flatMap fun (n, v) =>
    n.text.toUTF8.toList ++ [58, 32] ++ v.bytes ++ [carriageReturn, lineFeed]
  let length :=
    if isBodiless r.status || r.headers.contains HeaderName.contentLength then []
    else textLine ("content-length: " ++ Nat.repr r.body.length)
  let connection := if close then textLine "connection: close" else []
  textLine (statusLine r.status) ++ fields ++ length ++ connection ++
    [carriageReturn, lineFeed] ++ (if headOnly || isBodiless r.status then [] else r.body)

theorem takeLine_append (line rest : List UInt8) (h : lineFeed ∉ line) :
    takeLine (line ++ lineFeed :: rest) = some (line, rest) := by
  induction line with
  | nil => simp [takeLine]
  | cons b more induction =>
      have hb : b ≠ lineFeed := fun e => h (by simp [e])
      have hmore : lineFeed ∉ more := fun m => h (by simp [m])
      simp [takeLine, hb, induction hmore]

theorem readBody_length (n : Nat) (body rest : List UInt8) (h : body.length = n) :
    readBody (.length n) (body ++ rest) = .complete body rest := by
  subst h
  simp [readBody]

end Wire
end Http
end ResponseCache
