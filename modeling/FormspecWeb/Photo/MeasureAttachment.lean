import FormspecWeb.Photo.ProviderConfig
import FormspecWeb.Photo.ProviderHandler

/-!
# Measuring an attachment

The measurement checks every argument before it starts the decoder; the decoder itself is a child
process whose result comes from outside.
-/

namespace FormspecWeb.Photo

open Shared

/-- The integer a value is, where `Number.isSafeInteger` holds of it. -/
def safeInteger? : Option Value → Option Int
  | some (.number n) => if n.isInt && isSafeInteger n.num then some n.num else none
  | _ => none

def signature (bytes : List UInt8) : Option String :=
  if bytes.take 8 == [0x89, 0x50, 0x4E, 0x47, 0x0D, 0x0A, 0x1A, 0x0A] then some "image/png"
  else if bytes.take 3 == [255, 216, 255] then some "image/jpeg"
  else none

end FormspecWeb.Photo
