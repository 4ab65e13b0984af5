import ApiOutline.Digest.Sha256

/-!
# Checksums

The fingerprint of a byte text: its SHA-256 hash in lower-case hexadecimal digits.
-/

namespace ApiOutline

/-- The fingerprint of a byte text. -/
structure Checksum where
  hex : String
  deriving DecidableEq, Repr, Inhabited

namespace Checksum

/-- The two hexadecimal digits of a byte. -/
def hexByte (b : UInt8) : List Char :=
  let digit (n : Nat) : Char := (Nat.toDigits 16 n).headD '0'
  [digit (b.toNat / 16), digit (b.toNat % 16)]

/-- The fingerprint of `bytes`. -/
def ofBytes (bytes : ByteArray) : Checksum :=
  ⟨String.ofList ((Sha256.digest bytes.toList).flatMap hexByte)⟩

/-- Whether `bytes` has this fingerprint. -/
def isOf (c : Checksum) (bytes : ByteArray) : Bool :=
  c == ofBytes bytes

end Checksum

end ApiOutline
