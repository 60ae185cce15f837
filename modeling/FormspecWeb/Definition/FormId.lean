import FormspecWeb.Shared.Text

/-!
# Form ids

The id a form has at the server, from the URL it is asked for by: the segment behind
`/runtime/forms/`, else the last one. The version a form is asked for with has no part in it.
-/

namespace FormspecWeb.Definition

open Shared

def hexValue (c : Char) : Nat :=
  if isAsciiDigit c then c.toNat - 48 else if c.toNat < 97 then c.toNat - 55 else c.toNat - 87

/-- The characters of a text, and the bytes it escapes; none at a malformed escape. -/
def percentDecode : List Char → Option (List (Char ⊕ Nat))
  | [] => some []
  | '%' :: high :: low :: rest =>
    if isHex high && isHex low then
      (percentDecode rest).map (.inr (16 * hexValue high + hexValue low) :: ·)
    else none
  | '%' :: _ => none
  | c :: rest => (percentDecode rest).map (.inl c :: ·)

/-- The character of a code point that a sequence of this least value may encode. -/
def decodedChar (least code : Nat) : Option Char :=
  if least ≤ code && code.isValidChar then some (Char.ofNat code) else none

def continuation (byte : Nat) : Bool := 0x80 ≤ byte && byte < 0xC0

def utf8Decode : List (Char ⊕ Nat) → Option (List Char)
  | [] => some []
  | .inl c :: rest => (utf8Decode rest).map (c :: ·)
  | .inr first :: rest =>
    if first < 0x80 then (utf8Decode rest).map (Char.ofNat first :: ·)
    else
      match rest with
      | .inr second :: rest =>
        if !continuation second then none
        else if 0xC0 ≤ first && first < 0xE0 then do
          let c ← decodedChar 0x80 ((first - 0xC0) * 64 + (second - 0x80))
          (utf8Decode rest).map (c :: ·)
        else
          match rest with
          | .inr third :: rest =>
            if !continuation third then none
            else if 0xE0 ≤ first && first < 0xF0 then do
              let c ← decodedChar 0x800
                ((first - 0xE0) * 4096 + (second - 0x80) * 64 + (third - 0x80))
              (utf8Decode rest).map (c :: ·)
            else
              match rest with
              | .inr fourth :: rest =>
                if !continuation fourth || !(0xF0 ≤ first && first < 0xF8) then none
                else do
                  let c ← decodedChar 0x10000 ((first - 0xF0) * 262144
                    + (second - 0x80) * 4096 + (third - 0x80) * 64 + (fourth - 0x80))
                  (utf8Decode rest).map (c :: ·)
              | _ => none
          | _ => none
      | _ => none

/-- `decodeURIComponent(value)`; none where it throws. -/
def decodeURIComponent (value : String) : Option String :=
  ((percentDecode value.toList).bind utf8Decode).map String.ofList

/-- A resolver throws where it has no id. -/
abbrev FormIdResolver := String → Option String → Except String String

def segments (path : List Char) : List (List Char) := path.splitOn '/'

/-- The match of `/\/runtime\/forms\/([^/?#]+)$/`. -/
def runtimeForm? (path : String) : Option String :=
  match (segments path.toList).reverse with
  | id :: forms :: runtime :: _ :: _ =>
    if runtime == "runtime".toList && forms == "forms".toList && !id.isEmpty
        && !id.contains '?' && !id.contains '#' then some (String.ofList id)
    else none
  | _ => none

def lastSegment? (path : String) : Option String :=
  ((segments path.toList).filter (!·.isEmpty)).getLast?.map String.ofList

/-- `pathname` is that of `new URL(formUrl, 'https://formspec.local')`, none where it throws. -/
def defaultFormIdResolver (pathname : String → Option String) : FormIdResolver :=
  fun formUrl _ =>
    let path := (pathname formUrl).getD formUrl
    match (runtimeForm? path).or (lastSegment? path) with
    | some segment =>
      match decodeURIComponent segment with
      | some id => .ok id
      | none => .error "URI malformed"
    | none => .ok (encodeURIComponent formUrl)

example : (defaultFormIdResolver some "/runtime/forms/caf%C3%A9" none).toOption = some "café" := by
  decide +kernel

end FormspecWeb.Definition
