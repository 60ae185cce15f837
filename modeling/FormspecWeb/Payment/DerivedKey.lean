import FormspecWeb.Shared.Checks
import FormspecWeb.Shared.Text

/-!
# Derived idempotency keys

The keys of the rail calls are derived from the key of the submission, so that a retry finds the
same ones. The digest is a parameter: 32 bytes of every text.
-/

namespace FormspecWeb.Payment

open Shared

abbrev Failure := String

def assertUuidV7IdempotencyKey (value : String) : Except Failure Unit :=
  failIf (!isUuidV7IdempotencyKey value) "Expected idempotency-key to be a UUIDv7 value"

structure Digest where
  sha256 : String → List UInt8
  length : ∀ text, (sha256 text).length = 32

def hexDigit (n : Nat) : Char := if n < 10 then Char.ofNat (48 + n) else Char.ofNat (87 + n)

/-- `byte.toString(16).padStart(2, '0')`. -/
def hexByte (byte : UInt8) : List Char := [hexDigit (byte.toNat / 16), hexDigit (byte.toNat % 16)]

def versioned (byte : UInt8) : UInt8 := (byte &&& 0x0f) ||| 0x70

def variant (byte : UInt8) : UInt8 := (byte &&& 0x3f) ||| 0x80

def uuidText (digest : List UInt8) : String :=
  let uuid := ((digest.take 16).modify 6 versioned).modify 8 variant
  let hex := uuid.flatMap hexByte
  String.ofList (hex.take 8 ++ '-' :: (hex.drop 8).take 4 ++ '-' :: (hex.drop 12).take 4
    ++ '-' :: (hex.drop 16).take 4 ++ '-' :: hex.drop 20)

inductive RailCall where
  | authorize
  | capture
  | void
deriving DecidableEq

def RailCall.suffix : RailCall → String
  | .authorize => "authorize"
  | .capture => "capture"
  | .void => "void"

def deriveUuidV7FromString (digest : Digest) (base : String) (call : RailCall) :
    Except Failure String := do
  let formatted := uuidText (digest.sha256 (base ++ ":" ++ call.suffix))
  assertUuidV7IdempotencyKey formatted
  return formatted

theorem isHex_hexDigit : ∀ n < 16, isHex (hexDigit n) = true := by
  decide

theorem hexByte_isHex (byte : UInt8) :
    isHex (hexDigit (byte.toNat / 16)) = true ∧ isHex (hexDigit (byte.toNat % 16)) = true := by
  have hbyte := byte.toNat_lt
  exact ⟨isHex_hexDigit _ (by omega), isHex_hexDigit _ (by omega)⟩

theorem versioned_digit : ∀ n < 256, hexDigit ((versioned (UInt8.ofNat n)).toNat / 16) = '7' := by
  decide +kernel

theorem variant_digit : ∀ n < 256, hexDigit ((variant (UInt8.ofNat n)).toNat / 16) = '8'
    ∨ hexDigit ((variant (UInt8.ofNat n)).toNat / 16) = '9'
    ∨ hexDigit ((variant (UInt8.ofNat n)).toNat / 16) = 'a'
    ∨ hexDigit ((variant (UInt8.ofNat n)).toNat / 16) = 'b' := by
  decide +kernel

theorem uuidText_isUuidV7 {digest : List UInt8} (h : digest.length = 32) :
    isUuidV7IdempotencyKey (uuidText digest) = true := by
  match digest, h with
  | b0 :: b1 :: b2 :: b3 :: b4 :: b5 :: b6 :: b7 :: b8 :: b9 :: b10 :: b11 :: b12 :: b13 :: b14
      :: b15 :: rest, _ =>
    have hversion : hexDigit ((versioned b6).toNat / 16) = '7' := by
      simpa using versioned_digit b6.toNat b6.toNat_lt
    have hvariant := variant_digit b8.toNat b8.toNat_lt
    rw [UInt8.ofNat_toNat] at hvariant
    simp [isUuidV7IdempotencyKey, uuidText, hexByte, uuidV7Position, hexByte_isHex, hversion]
    grind

theorem derive_ok (digest : Digest) (base : String) (call : RailCall) :
    ∃ key, deriveUuidV7FromString digest base call = .ok key ∧ isUuidV7IdempotencyKey key = true := by
  have hshape := uuidText_isUuidV7 (digest.length (base ++ ":" ++ call.suffix))
  refine ⟨_, ?_, hshape⟩
  rw [deriveUuidV7FromString, assertUuidV7IdempotencyKey, hshape]
  rfl

end FormspecWeb.Payment
