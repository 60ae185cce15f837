import FormspecWeb.MultiParty.Draft
import FormspecWeb.Shared.ValueText
import Mathlib.Data.List.Sort

/-!
# The hash of a response

The canonical text of a response has the members of each object in the order of their names, and its
numbers as they are printed. So it is the same once the response is saved and restored as JSON, and with
it the hash.
-/

namespace FormspecWeb.MultiParty

open Shared JsonText

/-- How numbers are printed and read: a number that is read is printed alike. -/
structure NumberText extends NumberFormat Rat where
  print_reread : ∀ n, print (reread n) = print n

/-- The order of `Array.prototype.sort`, by code units. -/
def keyLe : Text → Text → Bool
  | [], _ => true
  | _ :: _, [] => false
  | u :: first, v :: second => u < v || (u == v && keyLe first second)

mutual

def serialize (format : NumberFormat Rat) : Json Rat → Text
  | .null => units "null"
  | .bool value => if value then units "true" else units "false"
  | .number value => format.print value
  | .string value => printString value
  | .array entries => 91 :: ([44].intercalate (serializeEntries format entries) ++ [93])
  | .object members =>
    let sorted := (serializeMembers format members).insertionSort fun first second =>
      keyLe first.1 second.1 = true
    123 :: ([44].intercalate (sorted.map fun (key, value) => printString key ++ 58 :: value) ++ [125])

def serializeEntries (format : NumberFormat Rat) : List (Json Rat) → List Text
  | [] => []
  | entry :: entries => serialize format entry :: serializeEntries format entries

def serializeMembers (format : NumberFormat Rat) : List (Text × Json Rat) → List (Text × Text)
  | [] => []
  | (key, value) :: members => (key, serialize format value) :: serializeMembers format members

end

def jsonSnapshot (value : Value) : Except Failure (Json Rat) :=
  match value.json? with
  | some json => .ok json
  | none => .error "response contains a non-JSON value"

def handoffDomain : Text := units "formspec.response.handoff.v1"

def canonicalResponseHandoffBytes (format : NumberFormat Rat) (response : FormResponse) :
    Except Failure (List UInt8) := do
  let snapshot ← jsonSnapshot response.value
  return encodeText (handoffDomain ++ 0 :: serialize format snapshot)

def hex (bytes : List UInt8) : String :=
  String.ofList (bytes.flatMap fun byte => [(byte.toNat / 16).digitChar, (byte.toNat % 16).digitChar])

/-- `responseHash(response)`; without `crypto.subtle` there is no digest. -/
def responseHash (format : NumberFormat Rat) (sha256 : Option (List UInt8 → List UInt8))
    (response : FormResponse) : Except Failure String := do
  match sha256 with
  | none =>
    .error "Secure response hashing is unavailable in this browser. Try again in a supported secure browser."
  | some sha256 =>
    let encoded ← canonicalResponseHandoffBytes format response
    return "sha256:" ++ hex (sha256 encoded)

variable {format : NumberText}

mutual

theorem serialize_reread (json : Json Rat) :
    serialize format.toNumberFormat (json.reread format.toNumberFormat) = serialize format.toNumberFormat json := by
  match json with
  | .null => rfl
  | .bool _ => rfl
  | .number value => exact format.print_reread value
  | .string _ => rfl
  | .array entries => rw [Json.reread, serialize, serializeEntries_reread entries, serialize]
  | .object members => rw [Json.reread, serialize, serializeMembers_reread members, serialize]

theorem serializeEntries_reread (entries : List (Json Rat)) :
    serializeEntries format.toNumberFormat (rereadEntries format.toNumberFormat entries)
      = serializeEntries format.toNumberFormat entries := by
  match entries with
  | [] => rfl
  | entry :: entries =>
    rw [rereadEntries, serializeEntries, serialize_reread entry, serializeEntries_reread entries,
      serializeEntries]

theorem serializeMembers_reread (members : List (Text × Json Rat)) :
    serializeMembers format.toNumberFormat (rereadMembers format.toNumberFormat members)
      = serializeMembers format.toNumberFormat members := by
  match members with
  | [] => rfl
  | (key, value) :: members =>
    rw [rereadMembers, serializeMembers, serialize_reread value, serializeMembers_reread members,
      serializeMembers]

end

def FormResponse.reread (format : NumberFormat Rat) (response : FormResponse) : FormResponse where
  value := response.value.reread format
  isObject := by
    obtain ⟨value, isObject, version⟩ := response
    cases value with
    | object members => rfl
    | _ => cases isObject
  version := by
    rw [Value.get?_reread, Option.any_map]
    simpa only [Function.comp_def, Value.isString_reread] using response.version

theorem responseHash_reread {sha256 : List UInt8 → List UInt8} {response : FormResponse}
    (h : response.value.IsJson) :
    responseHash format.toNumberFormat (some sha256) (response.reread format.toNumberFormat)
      = responseHash format.toNumberFormat (some sha256) response := by
  obtain ⟨json, hjson, -⟩ := h
  have hread := Value.json?_reread format.toNumberFormat response.value hjson
  have hvalue : (response.reread format.toNumberFormat).value
      = response.value.reread format.toNumberFormat := rfl
  rw [responseHash, responseHash, canonicalResponseHandoffBytes, canonicalResponseHandoffBytes, jsonSnapshot,
    jsonSnapshot, hvalue, hread, hjson]
  simp only [bind, Except.bind, serialize_reread]

end FormspecWeb.MultiParty
