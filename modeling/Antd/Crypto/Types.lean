import Mathlib

/-! The plain-old-data values of `crypto.h` and `hash.h` (hashes, keys, key
images, signatures) as byte strings of their fixed size, and the primitives of
`src/crypto` that the modelled code calls. The primitives are elliptic-curve
and Keccak code; the development takes them as parameters and states at each
use what the code relies on. -/

namespace Antd.Crypto

/-- A `POD_CLASS` value of `size` bytes. -/
structure Pod (size : Nat) where
  data : List UInt8
  length_eq : data.length = size
  deriving DecidableEq

def Pod.zero (size : Nat) : Pod size :=
  ⟨List.replicate size 0, List.length_replicate⟩

def Pod.replicate (size : Nat) (byte : UInt8) : Pod size :=
  ⟨List.replicate size byte, List.length_replicate⟩

def memcmpLt : List UInt8 → List UInt8 → Bool
  | [], [] => false
  | [], _ :: _ => true
  | _ :: _, [] => false
  | left :: lefts, right :: rights =>
      if left < right then true
      else if right < left then false
      else memcmpLt lefts rights

abbrev Hash := Pod 32

abbrev PublicKey := Pod 32

abbrev SecretKey := Pod 32

abbrev KeyDerivation := Pod 32

abbrev KeyImage := Pod 32

/-- `crypto::signature`: the two scalars `c` and `r`. -/
abbrev Signature := Pod 64

def nullHash : Hash := Pod.zero 32

def nullPkey : PublicKey := Pod.zero 32

/-- The primitives of `src/crypto` the modelled code calls. -/
structure Primitives where
  /-- `cn_fast_hash`: Keccak over a byte buffer. -/
  cnFastHash : List UInt8 → Hash
  checkSignature : Hash → PublicKey → Signature → Bool
  /-- `check_key`: the bytes encode a curve point. -/
  checkKey : PublicKey → Bool
  /-- `generate_key_derivation(pub, sec, derivation)`, `none` when it returns false. -/
  generateKeyDerivation : PublicKey → SecretKey → Option KeyDerivation
  /-- `derive_public_key(derivation, output_index, base, derived)`, `none` when it returns false. -/
  derivePublicKey : KeyDerivation → Nat → PublicKey → Option PublicKey
  /-- `generate_keys(pub, sec, recovery_key, true)`: the key pair recovered from a seed. -/
  recoverKeys : SecretKey → PublicKey × SecretKey

end Antd.Crypto
