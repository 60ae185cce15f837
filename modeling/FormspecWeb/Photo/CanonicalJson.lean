import FormspecWeb.Shared.CanonicalText
import FormspecWeb.Shared.ValueWalk
import Mathlib.Algebra.Order.Ring.Rat

/-!
# Canonical JSON and its hashes

A hash of a value is taken of its canonical text, after the whole value has been checked for its
size, its depth and its numbers. Texts of the model are well-formed Unicode.
-/

namespace FormspecWeb.Photo

open Shared

/-- What the package takes from elsewhere: the canonical text of a value, none where it throws, and
a hash in lower-case hexadecimal. -/
structure Hashing where
  canonicalize : Value → Option String
  sha256 : List UInt8 → String
  sha256_hex : ∀ bytes, isSha256Hex (sha256 bytes)

def Hashing.byteHash (hashing : Hashing) (bytes : List UInt8) : String :=
  "sha256:" ++ hashing.sha256 bytes

def jsonTreeWalk : Walk (Value × Nat) (Value × Nat) where
  found item := [item]
  pushed item := item.1.values.reverse.map fun child => (child, item.2 + 1)
  size item := item.1.size
  shrinks item := by
    have h := item.1.values_size
    rw [List.map_map, Function.comp_def, List.map_reverse, List.sum_reverse]
    exact h

def isPreciseNumber : Value → Bool
  | .number n => !n.isInt || isSafeInteger n.num
  | _ => true

/-- `checkJsonTree` does not throw. -/
def checkJsonTree (root : Value) : Bool :=
  let visited := jsonTreeWalk.run [(root, 0)] []
  visited.length ≤ 100000 && visited.all fun (value, depth) => depth ≤ 64 && isPreciseNumber value

namespace Hashing

/-- None where it throws. -/
def jsonHash (hashing : Hashing) (value : Value) : Option String :=
  if checkJsonTree value then
    (hashing.canonicalize value).map fun text => hashing.byteHash (textBytes text)
  else none

def equalJson (hashing : Hashing) (left right : Value) : Option Bool := do
  let leftHash ← hashing.jsonHash left
  let rightHash ← hashing.jsonHash right
  return leftHash == rightHash

theorem equalJson_true (hashing : Hashing) {left right : Value} :
    hashing.equalJson left right = some true
      ↔ ∃ digest, hashing.jsonHash left = some digest ∧ hashing.jsonHash right = some digest := by
  unfold equalJson
  cases hashing.jsonHash left with
  | none => simp
  | some leftHash =>
    cases hashing.jsonHash right with
    | none => simp
    | some rightHash =>
      change some (leftHash == rightHash) = some true ↔ _
      rw [Option.some.injEq, beq_iff_eq]
      constructor
      · intro h
        exact ⟨leftHash, rfl, congrArg some h.symm⟩
      · rintro ⟨digest, hleft, hright⟩
        rw [Option.some.inj hleft, Option.some.inj hright]

end Hashing

end FormspecWeb.Photo
