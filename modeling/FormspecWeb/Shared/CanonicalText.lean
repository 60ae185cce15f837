import FormspecWeb.Shared.Text
import FormspecWeb.Shared.Value
import Mathlib.Algebra.Order.Ring.Rat

/-!
# Canonical texts

The text of a value of JSON whose keys are in order, whose texts need no escapes and whose numbers
are whole and not negative.
-/

namespace FormspecWeb.Shared

def textBytes (text : String) : List UInt8 := (text.toList.flatMap utf8Bytes).map UInt8.ofNat

mutual

def canonicalText : Value → List Char
  | .undefined | .null => "null".toList
  | .bool value => if value then "true".toList else "false".toList
  | .number value => Nat.toDigits 10 value.num.toNat
  | .string value => '"' :: value.toList ++ ['"']
  | .array entries => '[' :: entriesText entries ++ [']']
  | .object members => '{' :: membersText members ++ ['}']

def entriesText : List Value → List Char
  | [] => []
  | [entry] => canonicalText entry
  | entry :: entries => canonicalText entry ++ ',' :: entriesText entries

def membersText : List (String × Value) → List Char
  | [] => []
  | [(key, value)] => '"' :: key.toList ++ '"' :: ':' :: canonicalText value
  | (key, value) :: members =>
    '"' :: key.toList ++ '"' :: ':' :: canonicalText value ++ ',' :: membersText members

end

end FormspecWeb.Shared

namespace FormspecWeb.SubmitTransport

open Shared

mutual

/-- The canonical text of a value whose members are in order and whose texts need no escapes. -/
def canonicalText : Value → String
  | .undefined | .null => "null"
  | .bool value => if value then "true" else "false"
  | .number value => toString value.num
  | .string value => "\"" ++ value ++ "\""
  | .array entries => "[" ++ ",".intercalate (canonicalEntries entries) ++ "]"
  | .object members => "\x7b" ++ ",".intercalate (canonicalMembers members) ++ "\x7d"

def canonicalEntries : List Value → List String
  | [] => []
  | value :: rest => canonicalText value :: canonicalEntries rest

def canonicalMembers : List (String × Value) → List String
  | [] => []
  | (key, value) :: rest => ("\"" ++ key ++ "\":" ++ canonicalText value) :: canonicalMembers rest

end

end FormspecWeb.SubmitTransport
