import Antd.Common.Base58
import Antd.Common.Varint
import Antd.Crypto.Types

/-! `base58::encode_addr` and `base58::decode_addr` (`src/common/base58.cpp`):
an address is the base-58 encoding of the varint of its tag, the data, and the
first `addr_checksum_size` bytes of the `cn_fast_hash` of both. The hash is a
parameter.

Decoding undoes encoding for every tag and data. The converse holds for every
address whose tag is a whole varint; but `read_varint` also returns a positive
count for a tag cut short by the end of the payload, so a payload made only of
continuation bytes decodes too, to a tag with empty data, and the encoding of
that is another string. -/

namespace Antd.Common.Base58

open Antd.Crypto

def addrChecksumSize : Nat := 4

section Address

variable (cnFastHash : List UInt8 → Hash)

/-- The checksum `encode_addr` appends and `decode_addr` expects: the first
`addr_checksum_size` bytes of the hash. -/
def checksumOf (buf : List UInt8) : List UInt8 := (cnFastHash buf).data.take addrChecksumSize

def encodeAddr (tag : UInt64) (data : List UInt8) : List UInt8 :=
  let buf := writeVarint tag.toNat ++ data
  encode (buf ++ checksumOf cnFastHash buf)

def decodeAddr (addr : List UInt8) : Option (UInt64 × List UInt8) := do
  let addrData ← decode addr
  if addrData.length ≤ addrChecksumSize then none
  else
    let checksum := addrData.drop (addrData.length - addrChecksumSize)
    let addrData := addrData.take (addrData.length - addrChecksumSize)
    if checksumOf cnFastHash addrData ≠ checksum then none
    else
      match Tools.readVarint 64 addrData with
      | (read, tag, _) => if read ≤ 0 then none else some (UInt64.ofNat tag, addrData.drop read.toNat)

variable {cnFastHash}

theorem length_checksumOf (buf : List UInt8) : (checksumOf cnFastHash buf).length = addrChecksumSize := by
  rw [checksumOf, List.length_take, (cnFastHash buf).length_eq]
  rfl

theorem encode_injective {data data' : List UInt8} (same : encode data = encode data') :
    data = data' := by
  have decoded := decode_encode data
  rw [same, decode_encode] at decoded
  exact (Option.some.inj decoded).symm

theorem decodeAddr_of_checksummed (buf : List UInt8) (nonempty : buf ≠ []) :
    decodeAddr cnFastHash (encode (buf ++ checksumOf cnFastHash buf)) =
      match Tools.readVarint 64 buf with
      | (read, tag, _) => if read ≤ 0 then none else some (UInt64.ofNat tag, buf.drop read.toNat) := by
  have checksumLength : (checksumOf cnFastHash buf).length = addrChecksumSize :=
    length_checksumOf buf
  have bufLength : 0 < buf.length := List.length_pos_iff.mpr nonempty
  have split : (buf ++ checksumOf cnFastHash buf).length - addrChecksumSize = buf.length := by
    rw [List.length_append, checksumLength, Nat.add_sub_cancel]
  rw [decodeAddr, decode_encode, Option.bind_eq_bind, Option.bind_some]
  dsimp only
  rw [if_neg (by rw [List.length_append, checksumLength]; omega), split,
    List.drop_left, List.take_left, if_neg (not_not.mpr rfl)]

theorem decodeAddr_eq_some {addr : List UInt8} {tag : UInt64} {data : List UInt8}
    (decoded : decodeAddr cnFastHash addr = some (tag, data)) :
    ∃ buf, addr = encode (buf ++ checksumOf cnFastHash buf) ∧
      ∃ read value rest, Tools.readVarint 64 buf = (read, value, rest) ∧ 0 < read ∧
        tag = UInt64.ofNat value ∧ data = buf.drop read.toNat := by
  rw [decodeAddr] at decoded
  obtain ⟨addrData, decodedData, checked⟩ := Option.bind_eq_some_iff.mp decoded
  have whole := encode_of_decode decodedData
  dsimp only at checked
  split at checked
  · cases checked
  split at checked
  · cases checked
  rename_i long same
  rw [not_not] at same
  refine ⟨addrData.take (addrData.length - addrChecksumSize), ?_, ?_⟩
  · rw [same, List.take_append_drop, whole]
  · split at checked
    · cases checked
    rename_i positive
    simp only [Option.some.injEq, Prod.mk.injEq] at checked
    exact ⟨_, _, _, rfl, not_le.mp positive, checked.1.symm, checked.2.symm⟩

theorem decodeAddr_encodeAddr (tag : UInt64) (data : List UInt8) :
    decodeAddr cnFastHash (encodeAddr cnFastHash tag data) = some (tag, data) := by
  have read := Tools.readVarint_writeVarint data tag.toNat_lt
  rw [encodeAddr, decodeAddr_of_checksummed _ (by simp [Common.writeVarint_ne_nil]), read]
  dsimp only
  have tagBytes : 0 < (Common.writeVarint tag.toNat).length :=
    List.length_pos_iff.mpr (Common.writeVarint_ne_nil _)
  rw [if_neg (by omega), Int.toNat_natCast, List.drop_left, UInt64.ofNat_toNat]

theorem encodeAddr_of_decodeAddr {addr : List UInt8} {tag : UInt64} {data : List UInt8}
    (decoded : decodeAddr cnFastHash addr = some (tag, data)) :
    encodeAddr cnFastHash tag data = addr ∨
      data = [] ∧ ∃ buf, buf ≠ [] ∧ (∀ byte ∈ buf, byte &&& 0x80 ≠ 0) ∧
        addr = encode (buf ++ checksumOf cnFastHash buf) := by
  obtain ⟨buf, addrEq, read, value, rest, readEq, positive, tagEq, dataEq⟩ :=
    decodeAddr_eq_some decoded
  have fits : value < 2 ^ 64 := by
    have bound := @Tools.readVarintLoop_lt 64 0 0 0 (by norm_num) buf
    rwa [← Tools.readVarint, readEq] at bound
  rcases Tools.readVarint_sound readEq positive with ⟨canonical, counted⟩ | ⟨ended, counted, flagged⟩
  · left
    have dataIsRest : data = rest := by
      rw [dataEq, counted, Int.toNat_natCast, canonical, List.drop_left]
    rw [encodeAddr, tagEq, UInt64.toNat_ofNat_of_lt' fits, dataIsRest, ← canonical, addrEq]
  · right
    have nonempty : buf ≠ [] := by
      rintro rfl
      rw [counted] at positive
      exact absurd positive (by decide)
    refine ⟨?_, buf, nonempty, flagged, addrEq⟩
    rw [dataEq, counted, Int.toNat_natCast, List.drop_length]

/-- `decode_addr` takes back every address `encode_addr` makes, and an address
it accepts is the encoding of what it decoded to, unless the payload was a run
of continuation bytes, the tag cut short and the data empty. -/
theorem decodeAddr_inverts_encodeAddr :
    (∀ tag data, decodeAddr cnFastHash (encodeAddr cnFastHash tag data) = some (tag, data)) ∧
      ∀ addr tag data, decodeAddr cnFastHash addr = some (tag, data) →
        encodeAddr cnFastHash tag data = addr ∨
          data = [] ∧ ∃ buf, buf ≠ [] ∧ (∀ byte ∈ buf, byte &&& 0x80 ≠ 0) ∧
            addr = encode (buf ++ checksumOf cnFastHash buf) :=
  ⟨decodeAddr_encodeAddr, fun _ _ _ decoded => encodeAddr_of_decodeAddr decoded⟩

theorem null_hash_address_round_trips :
    encodeAddr (fun _ => nullHash) 18 [1, 2] = encodeAddr (fun _ => nullHash) 18 [1, 2] ∨
      [(1 : UInt8), 2] = [] ∧ ∃ buf, buf ≠ [] ∧ (∀ byte ∈ buf, byte &&& 0x80 ≠ 0) ∧
        encodeAddr (fun _ => nullHash) 18 [1, 2] = encode (buf ++ checksumOf (fun _ => nullHash) buf) :=
  decodeAddr_inverts_encodeAddr.2 _ 18 [1, 2] (decodeAddr_inverts_encodeAddr.1 18 [1, 2])

/-- A payload of one continuation byte, with its checksum, is accepted as the
address of tag 0 with no data; the address of tag 0 with no data is another
string. -/
theorem truncated_tag_address_accepted (cnFastHash : List UInt8 → Hash) :
    decodeAddr cnFastHash (encode ([0x80] ++ checksumOf cnFastHash [0x80])) = some (0, []) ∧
      encodeAddr cnFastHash 0 [] ≠ encode ([0x80] ++ checksumOf cnFastHash [0x80]) := by
  have read : Tools.readVarint 64 [0x80] = (1, 0, []) := by decide
  refine ⟨?_, fun same => ?_⟩
  · rw [decodeAddr_of_checksummed _ (List.cons_ne_nil _ _), read]
    rfl
  · rw [encodeAddr, Common.writeVarint_of_lt (by decide)] at same
    have firstByte := (List.cons.inj (encode_injective same)).1
    exact absurd firstByte (by decide)

end Address

end Antd.Common.Base58
