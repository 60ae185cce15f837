/-!
# Text checks of the shared layer

The string tests the ports and the controller apply to identifiers: trimmed
emptiness, lower-case SHA-256 digests, binding names, UUIDv7 idempotency keys
and the percent-encoding of a path segment.
-/

namespace FormspecWeb.Shared

/-- White space and line terminators, as `String.prototype.trim` removes them. -/
def isTrimmed (c : Char) : Bool :=
  let n := c.toNat
  (9 ≤ n && n ≤ 13) || n == 0x20 || n == 0xA0 || n == 0x1680 || (0x2000 ≤ n && n ≤ 0x200A)
    || n == 0x2028 || n == 0x2029 || n == 0x202F || n == 0x205F || n == 0x3000 || n == 0xFEFF

/-- `Boolean(value.trim())`. -/
def hasText (value : String) : Bool := value.toList.any (!isTrimmed ·)

def truthy (value : String) : Bool := value != ""

def isLowerHex (c : Char) : Bool := ('0' ≤ c && c ≤ '9') || ('a' ≤ c && c ≤ 'f')

def isHex (c : Char) : Bool := isLowerHex c || ('A' ≤ c && c ≤ 'F')

def isAsciiLetter (c : Char) : Bool := ('a' ≤ c && c ≤ 'z') || ('A' ≤ c && c ≤ 'Z')

def isAsciiDigit (c : Char) : Bool := '0' ≤ c && c ≤ '9'

/-- `/^[a-f0-9]{64}$/`. -/
def isSha256Hex (value : String) : Bool :=
  value.toList.length == 64 && value.toList.all isLowerHex

/-- `/^sha256:[a-f0-9]{64}$/`. -/
def isSha256Digest (value : String) : Bool :=
  value.startsWith "sha256:" && isSha256Hex (value.drop 7).toString

/-- `/^[A-Za-z][A-Za-z0-9_-]*$/`. -/
def isBindingName (value : String) : Bool :=
  match value.toList with
  | [] => false
  | c :: cs => isAsciiLetter c
      && cs.all fun d => isAsciiLetter d || isAsciiDigit d || d == '_' || d == '-'

def uuidV7Position (c : Char) (i : Nat) : Bool :=
  if i == 8 || i == 13 || i == 18 || i == 23 then c == '-'
  else if i == 14 then c == '7'
  else if i == 19 then c == '8' || c == '9' || c == 'a' || c == 'b' || c == 'A' || c == 'B'
  else isHex c

/-- `validateUuid(value) && uuidVersion(value) === 7`. -/
def isUuidV7IdempotencyKey (value : String) : Bool :=
  value.toList.length == 36 && value.toList.zipIdx.all fun (c, i) => uuidV7Position c i

/-- Printable ASCII, up to 256 characters and not blank at an end: a header returns it as it is. -/
def isLosslessHttpIdempotencyKey (value : String) : Bool :=
  let chars := value.toList
  !chars.isEmpty && chars.head?.all (!isTrimmed ·) && chars.getLast?.all (!isTrimmed ·)
    && chars.all (fun c => 0x20 ≤ c.toNat && c.toNat ≤ 0x7E) && chars.length ≤ 256

/-- `Number.isSafeInteger` of an integer. -/
def isSafeInteger (n : Int) : Bool := -9007199254740991 ≤ n && n ≤ 9007199254740991

private def upperHexDigit (n : Nat) : Char :=
  if n < 10 then Char.ofNat (48 + n) else Char.ofNat (55 + n)

/-- The characters `encodeURIComponent` keeps. -/
def isUriUnreserved (c : Char) : Bool :=
  isAsciiLetter c || isAsciiDigit c || "-_.!~*'()".toList.contains c

def utf8Bytes (c : Char) : List Nat :=
  let n := c.toNat
  if n < 0x80 then [n]
  else if n < 0x800 then [0xC0 + n / 64, 0x80 + n % 64]
  else if n < 0x10000 then [0xE0 + n / 4096, 0x80 + n / 64 % 64, 0x80 + n % 64]
  else [0xF0 + n / 262144, 0x80 + n / 4096 % 64, 0x80 + n / 64 % 64, 0x80 + n % 64]

def encodeURIComponent (value : String) : String :=
  String.ofList (value.toList.flatMap fun c =>
    if isUriUnreserved c then [c]
    else (utf8Bytes c).flatMap fun b => ['%', upperHexDigit (b / 16), upperHexDigit (b % 16)])

end FormspecWeb.Shared
