import FormspecWeb.Shared.Text
import Mathlib.Data.List.Lex

/-!
# Base64 and UTF-16

Base64 texts as a buffer reads and writes them: reading accepts both alphabets, passes over other
characters and ends at the first padding character. The code units of a text, which give its length
and the order of a sort.
-/

namespace FormspecWeb.Shared

namespace Base64

def digit (n : Nat) : Char :=
  if n < 26 then Char.ofNat (65 + n)
  else if n < 52 then Char.ofNat (71 + n)
  else if n < 62 then Char.ofNat (n - 4)
  else if n = 62 then '+' else '/'

def value? (c : Char) : Option Nat :=
  if 'A' ≤ c && c ≤ 'Z' then some (c.toNat - 65)
  else if 'a' ≤ c && c ≤ 'z' then some (c.toNat - 71)
  else if isAsciiDigit c then some (c.toNat + 4)
  else if c == '+' || c == '-' then some 62
  else if c == '/' || c == '_' then some 63
  else none

/-- `bytes.toString('base64')`. -/
def encode : List UInt8 → List Char
  | a :: b :: c :: rest =>
    let n := a.toNat * 65536 + b.toNat * 256 + c.toNat
    [digit (n / 262144), digit (n / 4096 % 64), digit (n / 64 % 64), digit (n % 64)] ++ encode rest
  | [a, b] =>
    let n := a.toNat * 1024 + b.toNat * 4
    [digit (n / 4096), digit (n / 64 % 64), digit (n % 64), '=']
  | [a] => [digit (a.toNat / 4), digit (a.toNat % 4 * 16), '=', '=']
  | [] => []

def decodeValues : List Nat → List UInt8
  | a :: b :: c :: d :: rest =>
    let n := a * 262144 + b * 4096 + c * 64 + d
    [UInt8.ofNat (n / 65536), UInt8.ofNat (n / 256), UInt8.ofNat n] ++ decodeValues rest
  | [a, b, c] =>
    let n := a * 1024 + b * 16 + c / 4
    [UInt8.ofNat (n / 256), UInt8.ofNat n]
  | [a, b] => [UInt8.ofNat (a * 4 + b / 16)]
  | _ => []

/-- `Buffer.from(text, 'base64')`. -/
def decode (text : List Char) : List UInt8 :=
  decodeValues ((text.takeWhile (· != '=')).filterMap value?)

end Base64

def codeUnits (text : String) : List Nat :=
  text.toList.flatMap fun c =>
    let n := c.toNat
    if n < 0x10000 then [n] else [0xD800 + (n - 0x10000) / 1024, 0xDC00 + (n - 0x10000) % 1024]

/-- `texts.sort()`. -/
def sortTexts (texts : List String) : List String :=
  texts.mergeSort fun a b => decide (codeUnits a ≤ codeUnits b)

end FormspecWeb.Shared
