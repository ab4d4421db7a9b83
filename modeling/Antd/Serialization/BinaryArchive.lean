import Antd.Common.Varint
import Antd.Lib.LittleEndian
import Antd.Crypto.Types

/-! The binary archive of `serialization/binary_archive.h` with the
serializers of `serialization.h`, `string.h` and `container.h`: how a value is
stored, and how it is loaded back as a `Reader`. A load that leaves the
stream failed is `none`; the `FIELD` macro's check of `stream().good()` after
each field is where the reader stops. -/

namespace Antd.Serialization

open ByteReader Antd.Common Antd.Crypto

variable {α : Type}

/-- `binary_archive<false>::serialize_uint` of a `width`-byte integer: one
`get` a byte, least significant first. -/
def loadUint (width : Nat) : Reader Nat := LittleEndian.ofBytes <$> Reader.bytes width

def storeUint (width value : Nat) : List UInt8 := LittleEndian.toBytes width value

def loadPod (size : Nat) : Reader (Pod size) := fun input =>
  if fits : size ≤ input.length then
    some (⟨input.take size, by rw [List.length_take]; omega⟩, input.drop size)
  else none

/-- `do_serialize` loading a `std::string`: the length as a varint, checked
against the bytes left, then the bytes. -/
def loadString : Reader (List UInt8) := do
  let size ← readVarint
  Reader.atLeast size
  Reader.bytes size

def storeString (str : List UInt8) : List UInt8 := writeVarint str.length ++ str

/-- `do_serialize_container` loading: the count as a varint, checked against
the bytes left ("very basic sanity check"), then the elements. -/
def loadContainer (element : Reader α) : Reader (List α) := do
  let count ← readVarint
  Reader.atLeast count
  Reader.replicate element count

def storeContainer (element : α → List UInt8) (values : List α) : List UInt8 :=
  writeVarint values.length ++ values.flatMap element

/-! ### Round trips -/

theorem reads_loadUint {width value : Nat} (fits : value < 256 ^ width) :
    Reads (loadUint width) value (storeUint width value) := by
  have read := (reads_bytes (storeUint width value)).map LittleEndian.ofBytes
  rwa [storeUint, LittleEndian.length_toBytes, LittleEndian.ofBytes_toBytes,
    Nat.mod_eq_of_lt fits] at read

theorem reads_loadPod {size : Nat} (pod : Pod size) : Reads (loadPod size) pod pod.data := by
  intro rest
  obtain ⟨data, lengthEq⟩ := pod
  subst lengthEq
  simp [loadPod]

theorem reads_loadString {str : List UInt8} (fits : str.length < 2 ^ 64) :
    Reads loadString str (storeString str) :=
  (reads_readVarint fits).bind (Reads.atLeast (le_refl _) (reads_bytes str))

theorem reads_loadContainer {element : Reader α} {encode : α → List UInt8} {values : List α}
    (fits : values.length < 2 ^ 64) (each : ∀ value ∈ values, Reads element value (encode value))
    (nonempty : ∀ value ∈ values, encode value ≠ []) :
    Reads (loadContainer element) values (storeContainer encode values) := by
  have enough : values.length ≤ (values.flatMap encode).length := by
    rw [List.length_flatMap]
    calc values.length = (values.map fun _ => 1).sum := by simp
      _ ≤ (values.map fun value => (encode value).length).sum :=
        List.sum_le_sum fun value member =>
          List.length_pos_iff.mpr (nonempty value member)
  exact (reads_readVarint fits).bind (Reads.atLeast enough (reads_replicate encode values each))

/-! ### Loads consume input -/

theorem suffixing_loadUint (width : Nat) : Suffixing (loadUint width) :=
  Suffixing.map _ (suffixing_bytes width)

theorem suffixing_loadPod (size : Nat) : Suffixing (loadPod size) := by
  intro input pod rest read
  unfold loadPod at read
  split at read
  · cases read
    exact List.drop_suffix size input
  · cases read

theorem suffixing_loadString : Suffixing loadString :=
  Suffixing.bind suffixing_readVarint fun size =>
    Suffixing.bind (suffixing_atLeast size) fun _ => suffixing_bytes size

theorem Suffixing.loadContainer {element : Reader α} (suffixing : Suffixing element) :
    Suffixing (loadContainer element) :=
  Suffixing.bind suffixing_readVarint fun count =>
    Suffixing.bind (suffixing_atLeast count) fun _ => Suffixing.replicate suffixing count

/-! ### What loads return -/

theorem yields_loadUint (width : Nat) : Yields (loadUint width) (· < 256 ^ width) :=
  (yields_bytes width).map _ fun bytes length => length ▸ LittleEndian.ofBytes_lt bytes

theorem yields_loadString : Yields loadString fun str => str.length < 2 ^ 64 :=
  Yields.bind yields_readVarint fun size fits =>
    (yields_true _).bind fun _ _ => (yields_bytes size).mono fun _ length => length ▸ fits

theorem Yields.loadContainer {element : Reader α} {holds : α → Prop}
    (yields : Yields element holds) :
    Yields (loadContainer element) fun values => values.length < 2 ^ 64 ∧ ∀ a ∈ values, holds a :=
  Yields.bind yields_readVarint fun count fits =>
    (yields_true _).bind fun _ _ =>
      (yields.replicate count).mono fun _ each => ⟨each.1 ▸ fits, each.2⟩

end Antd.Serialization
