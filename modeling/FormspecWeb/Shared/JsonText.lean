/-!
# JSON texts

Printing and reading of JSON, on texts of UTF-16 code units. A text may hold surrogates without their
other half: printing escapes them. What is read is read off the front of a text, so that a value's
text can be followed by anything. How a number is written is left to a number format, of which only
its characters matter here and that it reads back what it prints.
-/

namespace FormspecWeb.Shared.JsonText

abbrev Text := List Nat

def units (value : String) : Text := value.toList.map Char.toNat

inductive Json (ν : Type) where
  | null
  | bool (value : Bool)
  | number (value : ν)
  | string (value : Text)
  | array (entries : List (Json ν))
  | object (members : List (Text × Json ν))

variable {ν : Type}

def isNumberUnit (u : Nat) : Bool :=
  (48 ≤ u && u ≤ 57) || u == 45 || u == 43 || u == 46 || u == 101 || u == 69

structure NumberFormat (ν : Type) where
  print : ν → Text
  read : Text → Option ν
  reread : ν → ν
  print_units : ∀ n, (print n).all isNumberUnit
  print_ne : ∀ n, print n ≠ []
  read_print : ∀ n, read (print n) = some (reread n)

def hexUnit (n : Nat) : Nat := if n < 10 then 48 + n else 87 + n

/-- `\uXXXX`. -/
def escapeUnit (u : Nat) : Text :=
  [92, 117, hexUnit (u / 4096 % 16), hexUnit (u / 256 % 16), hexUnit (u / 16 % 16), hexUnit (u % 16)]

def isHighSurrogate (u : Nat) : Bool := 0xD800 ≤ u && u < 0xDC00

def isLowSurrogate (u : Nat) : Bool := 0xDC00 ≤ u && u < 0xE000

def printUnit (u : Nat) : Text :=
  if u = 34 then [92, 34]
  else if u = 92 then [92, 92]
  else if u = 8 then [92, 98]
  else if u = 12 then [92, 102]
  else if u = 10 then [92, 110]
  else if u = 13 then [92, 114]
  else if u = 9 then [92, 116]
  else if u < 32 || isHighSurrogate u || isLowSurrogate u then escapeUnit u
  else [u]

def printUnits : Text → Text
  | [] => []
  | [u] => printUnit u
  | u :: v :: rest =>
    if isHighSurrogate u && isLowSurrogate v then u :: v :: printUnits rest
    else printUnit u ++ printUnits (v :: rest)

def printString (value : Text) : Text := 34 :: (printUnits value ++ [34])

mutual

def print (format : NumberFormat ν) : Json ν → Text
  | .null => units "null"
  | .bool true => units "true"
  | .bool false => units "false"
  | .number value => format.print value
  | .string value => printString value
  | .array [] => units "[]"
  | .array (entry :: entries) => 91 :: (print format entry ++ printEntries format entries)
  | .object [] => units "{}"
  | .object ((key, value) :: members) =>
    123 :: (printString key ++ 58 :: (print format value ++ printMembers format members))

def printEntries (format : NumberFormat ν) : List (Json ν) → Text
  | [] => [93]
  | entry :: entries => 44 :: (print format entry ++ printEntries format entries)

def printMembers (format : NumberFormat ν) : List (Text × Json ν) → Text
  | [] => [125]
  | (key, value) :: members =>
    44 :: (printString key ++ 58 :: (print format value ++ printMembers format members))

end

/-! ## Reading -/

def isSpace (u : Nat) : Bool := u == 32 || u == 9 || u == 10 || u == 13

def skip (text : Text) : Text := text.dropWhile isSpace

def hexValue? (u : Nat) : Option Nat :=
  if 48 ≤ u && u ≤ 57 then some (u - 48)
  else if 97 ≤ u && u ≤ 102 then some (u - 87)
  else if 65 ≤ u && u ≤ 70 then some (u - 55)
  else none

def readEscape (a b c d : Nat) : Option Nat := do
  let a ← hexValue? a
  let b ← hexValue? b
  let c ← hexValue? c
  let d ← hexValue? d
  return a * 4096 + b * 256 + c * 16 + d

/-- What `\` and a letter stand for. -/
def escaped? (u : Nat) : Option Nat :=
  if u = 34 || u = 92 || u = 47 then some u
  else if u = 98 then some 8
  else if u = 102 then some 12
  else if u = 110 then some 10
  else if u = 114 then some 13
  else if u = 116 then some 9
  else none

def prepend (u : Option Nat) (read : Option (Text × Text)) : Option (Text × Text) := do
  let u ← u
  let (value, rest) ← read
  return (u :: value, rest)

/-- A string, after the quotation mark that opens it, and the text after the one that closes it. -/
def readString : Text → Option (Text × Text)
  | [] => none
  | 34 :: rest => some ([], rest)
  | 92 :: 117 :: a :: b :: c :: d :: rest => prepend (readEscape a b c d) (readString rest)
  | 92 :: u :: rest => prepend (escaped? u) (readString rest)
  | u :: rest => if u < 32 || u = 92 then none else prepend (some u) (readString rest)

def readAtom (format : NumberFormat ν) (text : Text) : Option (Json ν × Text) :=
  if (units "null").isPrefixOf text then some (.null, text.drop 4)
  else if (units "true").isPrefixOf text then some (.bool true, text.drop 4)
  else if (units "false").isPrefixOf text then some (.bool false, text.drop 5)
  else (format.read (text.takeWhile isNumberUnit)).map fun value =>
    (.number value, text.dropWhile isNumberUnit)

mutual

/-- A value and the text after it; each level of the text takes one unit of fuel. -/
def readValue (format : NumberFormat ν) : Nat → Text → Option (Json ν × Text)
  | 0, _ => none
  | fuel + 1, text =>
    match skip text with
    | 34 :: rest => (readString rest).map fun (value, rest) => (.string value, rest)
    | 91 :: rest =>
      match skip rest with
      | 93 :: rest => some (.array [], rest)
      | _ => do
          let (entry, rest) ← readValue format fuel rest
          let (entries, rest) ← readEntries format fuel rest
          return (.array (entry :: entries), rest)
    | 123 :: rest =>
      match skip rest with
      | 125 :: rest => some (.object [], rest)
      | _ => do
          let (member, rest) ← readMember format fuel rest
          let (members, rest) ← readMembers format fuel rest
          return (.object (member :: members), rest)
    | text => readAtom format text

def readEntries (format : NumberFormat ν) : Nat → Text → Option (List (Json ν) × Text)
  | 0, _ => none
  | fuel + 1, text =>
    match skip text with
    | 93 :: rest => some ([], rest)
    | 44 :: rest => do
        let (entry, rest) ← readValue format fuel rest
        let (entries, rest) ← readEntries format fuel rest
        return (entry :: entries, rest)
    | _ => none

def readMember (format : NumberFormat ν) : Nat → Text → Option ((Text × Json ν) × Text)
  | 0, _ => none
  | fuel + 1, text =>
    match skip text with
    | 34 :: rest => do
        let (key, rest) ← readString rest
        match skip rest with
        | 58 :: rest =>
          let (value, rest) ← readValue format fuel rest
          return ((key, value), rest)
        | _ => none
    | _ => none

def readMembers (format : NumberFormat ν) : Nat → Text → Option (List (Text × Json ν) × Text)
  | 0, _ => none
  | fuel + 1, text =>
    match skip text with
    | 125 :: rest => some ([], rest)
    | 44 :: rest => do
        let (member, rest) ← readMember format fuel rest
        let (members, rest) ← readMembers format fuel rest
        return (member :: members, rest)
    | _ => none

end

/-- `JSON.parse`: one value, and nothing but white space around it. -/
def parse (format : NumberFormat ν) (text : Text) : Option (Json ν) :=
  match readValue format text.length text with
  | some (value, rest) => if (skip rest).isEmpty then some value else none
  | none => none

def Json.member? : Json ν → Text → Option (Json ν)
  | .object members, key => members.reverse.lookup key
  | _, _ => none

end FormspecWeb.Shared.JsonText
