import Antd.Ringct.RctTypes
import Antd.Cryptonote.Basic

/-! The converters of `serialization/json_object.{h,cpp}` between the daemon's
objects and rapidjson values, as a pair of functions a type: `toJsonValue`
builds a value, `fromJsonValue` reads one back or throws.

Integers are numbers, PODs (keys, hashes, signatures) hex strings, vectors
arrays and structures objects with a member a field. Each converter of a
structure writes the members its reader reads, with one exception:
`toJsonValue` of an `rct::rctSig` writes the range proofs, the bulletproofs,
the MGs and the pseudo-outputs of its prunable part, but not its CLSAGs, and
`fromJsonValue` reads into a fresh signature. So every transaction and every
block comes back with the same fields except that its CLSAGs are gone. The
converters of transactions and blocks are stated for any converters of the
inputs, outputs, range signatures and bulletproofs that read back what they
write, and the daemon's own converters of these are shown to. -/

namespace Antd.Json

open Antd.Crypto Antd.Ringct Antd.Serialization

/-- `rapidjson::Value`. Numbers are integers: every converter here writes
and reads integers only. -/
inductive JsonValue where
  | null
  | bool (b : Bool)
  | number (n : Int)
  | string (s : String)
  | array (items : List JsonValue)
  | object (members : List (String × JsonValue))

/-- The exceptions of `json_object.h`. -/
inductive JsonError where
  | wrongType (what : String)
  | missingKey (key : String)
  | badInput
  deriving DecidableEq, Repr

/-- The two converters of one type. -/
structure JsonCodec (α : Type) where
  toJson : α → JsonValue
  fromJson : JsonValue → Except JsonError α

def JsonCodec.RoundTripsOn {α : Type} (codec : JsonCodec α) (values : List α) : Prop :=
  ∀ value ∈ values, codec.fromJson (codec.toJson value) = .ok value

def JsonCodec.RoundTrips {α : Type} (codec : JsonCodec α) : Prop :=
  ∀ value, codec.fromJson (codec.toJson value) = .ok value

/-! ### Integers -/

/-- `convert_numeric` from an unsigned source: the value, unless it is above
the maximum of the destination. -/
def convertNumeric (max source : Nat) : Except JsonError Nat :=
  if max < source then .error (.wrongType "numeric overflow") else .ok source

/-- `to_uint` (32 bits) and `to_uint64` (64 bits): the value must be an
unsigned number of that width, then fit the destination. -/
def toUnsigned (width max : Nat) : JsonValue → Except JsonError Nat
  | .number n =>
      if 0 ≤ n ∧ n < 2 ^ width then convertNumeric max n.toNat
      else .error (.wrongType "unsigned integer")
  | _ => .error (.wrongType "unsigned integer")

def toUint (max : Nat) : JsonValue → Except JsonError Nat := toUnsigned 32 max

def toUint64 (max : Nat) : JsonValue → Except JsonError Nat := toUnsigned 64 max

/-- An unsigned integer type: written as its number (`uint8_t` and
`uint16_t` promoted to `int`), read by `to_uint` or `to_uint64`. -/
def unsignedCodec {α : Type} (toNat : α → Nat) (ofNat : Nat → α)
    (read : JsonValue → Except JsonError Nat) : JsonCodec α where
  toJson value := .number (toNat value)
  fromJson val := (read val).map ofNat

def uint8Codec : JsonCodec UInt8 := unsignedCodec UInt8.toNat UInt8.ofNat (toUint 255)

def uint16Codec : JsonCodec UInt16 := unsignedCodec UInt16.toNat UInt16.ofNat (toUint 65535)

def uint32Codec : JsonCodec UInt32 :=
  unsignedCodec UInt32.toNat UInt32.ofNat (toUint 4294967295)

def uint64Codec : JsonCodec UInt64 :=
  unsignedCodec UInt64.toNat UInt64.ofNat (toUint64 18446744073709551615)

/-! ### PODs -/

/-- The table `isx` of `parse_hexstr_to_binbuff`: the value of a hex digit of
either case; its `0xff` is `none`. -/
def isx (c : Char) : Option Nat :=
  if '0' ≤ c ∧ c ≤ '9' then some (c.toNat - '0'.toNat)
  else if 'a' ≤ c ∧ c ≤ 'f' then some (c.toNat - 'a'.toNat + 10)
  else if 'A' ≤ c ∧ c ≤ 'F' then some (c.toNat - 'A'.toNat + 10)
  else none

def parseHexstrToBinbuff : List Char → Option (List UInt8)
  | [] => some []
  | [_] => none
  | high :: low :: rest => do
      let tmp ← isx high
      let t2 ← isx low
      let bytes ← parseHexstrToBinbuff rest
      pure (UInt8.ofNat (tmp <<< 4 ||| t2) :: bytes)

/-- `pod_to_hex`: two lowercase digits a byte, the characters `write_hex`
takes from `"0123456789abcdef"`. -/
def podToHex {size : Nat} (pod : Pod size) : String :=
  String.ofList (pod.data.flatMap JsonArchive.hexByte)

def hexToPod (size : Nat) (hexStr : String) : Option (Pod size) :=
  if size * 2 ≠ hexStr.length then none
  else
    match parseHexstrToBinbuff hexStr.toList with
    | some bytes => if lengthEq : bytes.length = size then some ⟨bytes, lengthEq⟩ else none
    | none => none

def podCodec (size : Nat) : JsonCodec (Pod size) where
  toJson pod := .string (podToHex pod)
  fromJson
    | .string hexStr =>
        match hexToPod size hexStr with
        | some pod => .ok pod
        | none => .error .badInput
    | _ => .error (.wrongType "string")

/-! ### Vectors and objects -/

def vectorCodec {α : Type} (codec : JsonCodec α) : JsonCodec (List α) where
  toJson vec := .array (vec.map codec.toJson)
  fromJson
    | .array items => items.mapM codec.fromJson
    | _ => .error (.wrongType "json array")

def objectMembers (what : String) : JsonValue → Except JsonError (List (String × JsonValue))
  | .object members => .ok members
  | _ => .error (.wrongType what)

/-- `GET_FROM_JSON_OBJECT`: `MISSING_KEY` unless the object has the key, then
the first member of that name read into a fresh value. -/
def getFromJsonObject {α : Type} (members : List (String × JsonValue)) (key : String)
    (codec : JsonCodec α) : Except JsonError α :=
  match members.lookup key with
  | some val => codec.fromJson val
  | none => .error (.missingKey key)

/-! ### RingCT -/

def ecdhTupleCodec : JsonCodec EcdhTuple where
  toJson tuple := .object [("mask", (podCodec 32).toJson tuple.mask),
    ("amount", (podCodec 32).toJson tuple.amount)]
  fromJson val := do
    let members ← objectMembers "json object" val
    let mask ← getFromJsonObject members "mask" (podCodec 32)
    let amount ← getFromJsonObject members "amount" (podCodec 32)
    pure ⟨mask, amount⟩

/-- `toJsonValue`/`fromJsonValue` of an `rct::mgSig`; its reader names the
wrong type `key64`. -/
def mgSigCodec : JsonCodec MgSig where
  toJson sig := .object [("ss", (vectorCodec (vectorCodec (podCodec 32))).toJson sig.ss),
    ("cc", (podCodec 32).toJson sig.cc)]
  fromJson val := do
    let members ← objectMembers "key64 (rct::key[64])" val
    let ss ← getFromJsonObject members "ss" (vectorCodec (vectorCodec (podCodec 32)))
    let cc ← getFromJsonObject members "cc" (podCodec 32)
    pure ⟨ss, cc⟩

/-- The `count` keys of a key array, in memory order: the vector
`std::vector<rct::key>(a, std::end(a))` that the writers copy it to. -/
def keysOfPod (count : Nat) (pod : Pod (32 * count)) : List Key :=
  List.ofFn fun i : Fin count =>
    ⟨(pod.data.drop (32 * i)).take 32, by have := i.isLt; simp [pod.length_eq]; omega⟩

theorem length_flatMap_data {size : Nat} :
    ∀ pods : List (Pod size), (pods.flatMap Pod.data).length = size * pods.length
  | [] => rfl
  | pod :: pods => by
      rw [List.flatMap_cons, List.length_append, pod.length_eq, length_flatMap_data pods,
        List.length_cons, Nat.mul_succ, Nat.add_comm]

/-- The key array the readers copy a vector of keys to, where the vector
holds exactly `count` keys. -/
def podOfKeys (count : Nat) (keys : List Key) : Option (Pod (32 * count)) :=
  if sized : keys.length = count then
    some ⟨keys.flatMap Pod.data, by rw [length_flatMap_data, sized]⟩
  else none

/-- An `rct::key64`: the vector of its keys, `WRONG_TYPE` where the vector
read back does not hold 64. -/
def key64Codec : JsonCodec Key64 where
  toJson keys := (vectorCodec (podCodec 32)).toJson (keysOfPod 64 keys)
  fromJson val := do
    let keyVector ← (vectorCodec (podCodec 32)).fromJson val
    match podOfKeys 64 keyVector with
    | some keys => pure keys
    | none => throw (.wrongType "key64 (rct::key[64])")

def boroSigCodec : JsonCodec BoroSig where
  toJson sig := .object [("s0", key64Codec.toJson sig.s0), ("s1", key64Codec.toJson sig.s1),
    ("ee", (podCodec 32).toJson sig.ee)]
  fromJson val := do
    let members ← objectMembers "json object" val
    let s0 ← getFromJsonObject members "s0" key64Codec
    let s1 ← getFromJsonObject members "s1" key64Codec
    let ee ← getFromJsonObject members "ee" (podCodec 32)
    pure ⟨s0, s1, ee⟩

/-- `toJsonValue`/`fromJsonValue` of an `rct::rangeSig`: the reader looks for
`Ci` before it reads `asig`, and reads `Ci` last. -/
def rangeSigCodec : JsonCodec RangeSig where
  toJson sig := .object [("asig", boroSigCodec.toJson sig.asig), ("Ci", key64Codec.toJson sig.Ci)]
  fromJson val := do
    let members ← objectMembers "json object" val
    let ci ← match members.lookup "Ci" with
      | some ci => .ok ci
      | none => .error (.missingKey "Ci")
    let asig ← getFromJsonObject members "asig" boroSigCodec
    let Ci ← key64Codec.fromJson ci
    pure ⟨asig, Ci⟩

/-- `toJsonValue`/`fromJsonValue` of an `rct::Bulletproof`, commitments `V`
included. -/
def bulletproofCodec : JsonCodec Bulletproof where
  toJson p := .object [("V", (vectorCodec (podCodec 32)).toJson p.V),
    ("A", (podCodec 32).toJson p.A), ("S", (podCodec 32).toJson p.S),
    ("T1", (podCodec 32).toJson p.T1), ("T2", (podCodec 32).toJson p.T2),
    ("taux", (podCodec 32).toJson p.taux), ("mu", (podCodec 32).toJson p.mu),
    ("L", (vectorCodec (podCodec 32)).toJson p.L), ("R", (vectorCodec (podCodec 32)).toJson p.R),
    ("a", (podCodec 32).toJson p.a), ("b", (podCodec 32).toJson p.b),
    ("t", (podCodec 32).toJson p.t)]
  fromJson val := do
    let members ← objectMembers "json object" val
    let V ← getFromJsonObject members "V" (vectorCodec (podCodec 32))
    let A ← getFromJsonObject members "A" (podCodec 32)
    let S ← getFromJsonObject members "S" (podCodec 32)
    let T1 ← getFromJsonObject members "T1" (podCodec 32)
    let T2 ← getFromJsonObject members "T2" (podCodec 32)
    let taux ← getFromJsonObject members "taux" (podCodec 32)
    let mu ← getFromJsonObject members "mu" (podCodec 32)
    let L ← getFromJsonObject members "L" (vectorCodec (podCodec 32))
    let R ← getFromJsonObject members "R" (vectorCodec (podCodec 32))
    let a ← getFromJsonObject members "a" (podCodec 32)
    let b ← getFromJsonObject members "b" (podCodec 32)
    let t ← getFromJsonObject members "t" (podCodec 32)
    pure ⟨V, A, S, T1, T2, taux, mu, L, R, a, b, t⟩

/-- An `rctSig` read into before any field is: its vectors empty. Its type
and fee, left uninitialised by the source, are read before they are used. -/
def RctSig.fresh : RctSig :=
  ⟨0, [], [], [], 0, ⟨[], [], [], [], []⟩⟩

/-! ### Inputs and outputs -/

def txoutToScriptCodec : JsonCodec Cryptonote.TxOutToScript where
  toJson txout := .object [("keys", (vectorCodec (podCodec 32)).toJson txout.keys),
    ("script", (vectorCodec uint8Codec).toJson txout.script)]
  fromJson val := do
    let members ← objectMembers "json object" val
    let keys ← getFromJsonObject members "keys" (vectorCodec (podCodec 32))
    let script ← getFromJsonObject members "script" (vectorCodec uint8Codec)
    pure ⟨keys, script⟩

/-- `toJsonValue` of a `txin_v`: an object whose one member, named after the
alternative, holds the input's fields. -/
def txinToJson : Cryptonote.TxInV → JsonValue
  | .gen height => .object [("gen", .object [("height", uint64Codec.toJson height)])]
  | .toScript prev prevout sigset => .object [("to_script", .object [("prev", (podCodec 32).toJson prev),
      ("prevout", uint64Codec.toJson prevout), ("sigset", (vectorCodec uint8Codec).toJson sigset)])]
  | .toScripthash prev prevout script sigset => .object [("to_scripthash", .object [
      ("prev", (podCodec 32).toJson prev), ("prevout", uint64Codec.toJson prevout),
      ("script", txoutToScriptCodec.toJson script), ("sigset", (vectorCodec uint8Codec).toJson sigset)])]
  | .toKey amount keyOffsets kImage => .object [("to_key", .object [("amount", uint64Codec.toJson amount),
      ("key_offsets", (vectorCodec uint64Codec).toJson keyOffsets),
      ("key_image", (podCodec 32).toJson kImage)])]

def txinGenFromJson (val : JsonValue) : Except JsonError Cryptonote.TxInV := do
  let members ← objectMembers "json object" val
  let height ← getFromJsonObject members "height" uint64Codec
  pure (.gen height)

def txinToScriptFromJson (val : JsonValue) : Except JsonError Cryptonote.TxInV := do
  let members ← objectMembers "json object" val
  let prev ← getFromJsonObject members "prev" (podCodec 32)
  let prevout ← getFromJsonObject members "prevout" uint64Codec
  let sigset ← getFromJsonObject members "sigset" (vectorCodec uint8Codec)
  pure (.toScript prev prevout sigset)

def txinToScripthashFromJson (val : JsonValue) : Except JsonError Cryptonote.TxInV := do
  let members ← objectMembers "json object" val
  let prev ← getFromJsonObject members "prev" (podCodec 32)
  let prevout ← getFromJsonObject members "prevout" uint64Codec
  let script ← getFromJsonObject members "script" txoutToScriptCodec
  let sigset ← getFromJsonObject members "sigset" (vectorCodec uint8Codec)
  pure (.toScripthash prev prevout script sigset)

def txinToKeyFromJson (val : JsonValue) : Except JsonError Cryptonote.TxInV := do
  let members ← objectMembers "json object" val
  let amount ← getFromJsonObject members "amount" uint64Codec
  let keyOffsets ← getFromJsonObject members "key_offsets" (vectorCodec uint64Codec)
  let kImage ← getFromJsonObject members "key_image" (podCodec 32)
  pure (.toKey amount keyOffsets kImage)

/-- `toJsonValue`/`fromJsonValue` of a `txin_v`. The reader wants exactly one
member and reads it by its name; under another name it leaves the input as
`txin_v()` made it, a `txin_gen` of height 0. -/
def txinCodec : JsonCodec Cryptonote.TxInV where
  toJson := txinToJson
  fromJson val := do
    let members ← objectMembers "json object" val
    match members with
    | [(name, value)] =>
      if name = "to_key" then txinToKeyFromJson value
      else if name = "gen" then txinGenFromJson value
      else if name = "to_script" then txinToScriptFromJson value
      else if name = "to_scripthash" then txinToScripthashFromJson value
      else pure (.gen 0)
    | _ => throw (.missingKey "Invalid input object")

/-- `toJsonValue` of a `tx_out`: the amount, then a member named after the
alternative of the target. -/
def txOutToJson (txout : Cryptonote.TxOut) : JsonValue :=
  .object (("amount", uint64Codec.toJson txout.amount) :: match txout.target with
    | .toKey key => [("to_key", .object [("key", (podCodec 32).toJson key)])]
    | .toScript script => [("to_script", txoutToScriptCodec.toJson script)]
    | .toScripthash hash => [("to_scripthash", .object [("hash", (podCodec 32).toJson hash)])])

/-- `fromJsonValue` of a `txout_to_key` (under `key`) and of a
`txout_to_scripthash` (under `hash`): an object with the one POD. -/
def podMemberFromJson (key : String) (val : JsonValue) : Except JsonError (Pod 32) := do
  let members ← objectMembers "json object" val
  getFromJsonObject members key (podCodec 32)

/-- One pass of the member loop of `fromJsonValue` of a `tx_out`: the amount
is read under `amount`, and the target under the name of its alternative. -/
def txOutMemberFromJson (txout : Cryptonote.TxOut) (member : String × JsonValue) :
    Except JsonError Cryptonote.TxOut := do
  let txout ← if member.1 = "amount" then do
      let amount ← uint64Codec.fromJson member.2
      pure { txout with amount }
    else pure txout
  if member.1 = "to_key" then do
    let key ← podMemberFromJson "key" member.2
    pure { txout with target := .toKey key }
  else if member.1 = "to_script" then do
    let script ← txoutToScriptCodec.fromJson member.2
    pure { txout with target := .toScript script }
  else if member.1 = "to_scripthash" then do
    let hash ← podMemberFromJson "hash" member.2
    pure { txout with target := .toScripthash hash }
  else pure txout

/-- `toJsonValue`/`fromJsonValue` of a `tx_out`. The reader wants exactly two
members, and reads into a `tx_out` whose target is an empty
`txout_to_script`; its amount, left indeterminate, is taken as 0. -/
def txOutCodec : JsonCodec Cryptonote.TxOut where
  toJson := txOutToJson
  fromJson val := do
    let members ← objectMembers "json object" val
    if members.length ≠ 2 then throw (.missingKey "Invalid input object")
    members.foldlM txOutMemberFromJson ⟨0, .toScript ⟨[], []⟩⟩

section Converters

variable {In Out : Type} (rangeSigJson : JsonCodec RangeSig) (bulletproofJson : JsonCodec Bulletproof)

/-- `toJsonValue` of an `rct::rctSig`: the base fields, the masks of the
output commitments, and of the prunable part the range proofs, the
bulletproofs, the MGs and the pseudo-outputs. -/
def rctSigToJson (sig : RctSig) : JsonValue :=
  .object [("type", uint8Codec.toJson sig.type),
    ("encrypted", (vectorCodec ecdhTupleCodec).toJson sig.ecdhInfo),
    ("commitments", (vectorCodec (podCodec 32)).toJson (sig.outPk.map CtKey.mask)),
    ("fee", uint64Codec.toJson sig.txnFee),
    ("prunable", .object [("range_proofs", (vectorCodec rangeSigJson).toJson sig.p.rangeSigs),
      ("bulletproofs", (vectorCodec bulletproofJson).toJson sig.p.bulletproofs),
      ("mlsags", (vectorCodec mgSigCodec).toJson sig.p.MGs),
      ("pseudo_outs", (vectorCodec (podCodec 32)).toJson sig.getPseudoOuts)])]

def rctSigFromJson (val : JsonValue) (sig : RctSig) : Except JsonError RctSig := do
  let members ← objectMembers "json object" val
  let type ← getFromJsonObject members "type" uint8Codec
  let ecdhInfo ← getFromJsonObject members "encrypted" (vectorCodec ecdhTupleCodec)
  let commitments ← getFromJsonObject members "commitments" (vectorCodec (podCodec 32))
  let txnFee ← getFromJsonObject members "fee" uint64Codec
  let prunable ← match members.lookup "prunable" with
    | some prunable => .ok prunable
    | none => .error (.missingKey "prunable")
  let prunableMembers ← objectMembers "json object" prunable
  let rangeSigs ← getFromJsonObject prunableMembers "range_proofs" (vectorCodec rangeSigJson)
  let bulletproofs ← getFromJsonObject prunableMembers "bulletproofs" (vectorCodec bulletproofJson)
  let MGs ← getFromJsonObject prunableMembers "mlsags" (vectorCodec mgSigCodec)
  let pseudoOuts ← getFromJsonObject prunableMembers "pseudo_outs" (vectorCodec (podCodec 32))
  let sig := { sig with type, ecdhInfo, txnFee, p := { sig.p with rangeSigs, bulletproofs, MGs } }
  let sig := sig.setPseudoOuts pseudoOuts
  pure { sig with outPk := sig.outPk ++ commitments.map fun mask => ⟨Pod.zero 32, mask⟩ }

def rctSigCodec : JsonCodec RctSig where
  toJson := rctSigToJson rangeSigJson bulletproofJson
  fromJson val := rctSigFromJson rangeSigJson bulletproofJson val RctSig.fresh

/-- `cryptonote::transaction`, with the fields its converters read and write;
the input and output variants are type parameters. -/
structure Transaction (In Out : Type) where
  version : UInt64
  unlockTime : UInt64
  outputUnlockTimes : List UInt64
  type : UInt16
  vin : List In
  vout : List Out
  extra : List UInt8
  signatures : List (List Signature)
  rctSignatures : RctSig

/-- `cryptonote::block`, with the fields its converters read and write. -/
structure Block (In Out : Type) where
  majorVersion : UInt8
  minorVersion : UInt8
  timestamp : UInt64
  prevId : Hash
  nonce : UInt32
  minerTx : Transaction In Out
  txHashes : List Hash

variable (inJson : JsonCodec In) (outJson : JsonCodec Out)

def transactionCodec : JsonCodec (Transaction In Out) where
  toJson tx := .object [("version", uint64Codec.toJson tx.version),
    ("unlock_time", uint64Codec.toJson tx.unlockTime),
    ("output_unlock_times", (vectorCodec uint64Codec).toJson tx.outputUnlockTimes),
    ("type", uint16Codec.toJson tx.type),
    ("inputs", (vectorCodec inJson).toJson tx.vin),
    ("outputs", (vectorCodec outJson).toJson tx.vout),
    ("extra", (vectorCodec uint8Codec).toJson tx.extra),
    ("signatures", (vectorCodec (vectorCodec (podCodec 64))).toJson tx.signatures),
    ("ringct", (rctSigCodec rangeSigJson bulletproofJson).toJson tx.rctSignatures)]
  fromJson val := do
    let members ← objectMembers "json object" val
    let version ← getFromJsonObject members "version" uint64Codec
    let unlockTime ← getFromJsonObject members "unlock_time" uint64Codec
    let outputUnlockTimes ← getFromJsonObject members "output_unlock_times" (vectorCodec uint64Codec)
    let type ← getFromJsonObject members "type" uint16Codec
    let vin ← getFromJsonObject members "inputs" (vectorCodec inJson)
    let vout ← getFromJsonObject members "outputs" (vectorCodec outJson)
    let extra ← getFromJsonObject members "extra" (vectorCodec uint8Codec)
    let signatures ← getFromJsonObject members "signatures" (vectorCodec (vectorCodec (podCodec 64)))
    let rctSignatures ← getFromJsonObject members "ringct" (rctSigCodec rangeSigJson bulletproofJson)
    pure ⟨version, unlockTime, outputUnlockTimes, type, vin, vout, extra, signatures, rctSignatures⟩

def blockCodec : JsonCodec (Block In Out) where
  toJson b := .object [("major_version", uint8Codec.toJson b.majorVersion),
    ("minor_version", uint8Codec.toJson b.minorVersion),
    ("timestamp", uint64Codec.toJson b.timestamp),
    ("prev_id", (podCodec 32).toJson b.prevId),
    ("nonce", uint32Codec.toJson b.nonce),
    ("miner_tx", (transactionCodec rangeSigJson bulletproofJson inJson outJson).toJson b.minerTx),
    ("tx_hashes", (vectorCodec (podCodec 32)).toJson b.txHashes)]
  fromJson val := do
    let members ← objectMembers "json object" val
    let majorVersion ← getFromJsonObject members "major_version" uint8Codec
    let minorVersion ← getFromJsonObject members "minor_version" uint8Codec
    let timestamp ← getFromJsonObject members "timestamp" uint64Codec
    let prevId ← getFromJsonObject members "prev_id" (podCodec 32)
    let nonce ← getFromJsonObject members "nonce" uint32Codec
    let minerTx ← getFromJsonObject members "miner_tx"
      (transactionCodec rangeSigJson bulletproofJson inJson outJson)
    let txHashes ← getFromJsonObject members "tx_hashes" (vectorCodec (podCodec 32))
    pure ⟨majorVersion, minorVersion, timestamp, prevId, nonce, minerTx, txHashes⟩

end Converters

/-! ### Round trips of the converters -/

theorem unsignedCodec_roundTrips {α : Type} {toNat : α → Nat} {ofNat : Nat → α} {width max : Nat}
    (within : ∀ value, toNat value ≤ max) (fits : max < 2 ^ width)
    (inverse : ∀ value, ofNat (toNat value) = value) :
    (unsignedCodec toNat ofNat (toUnsigned width max)).RoundTrips := by
  intro value
  have small : (toNat value : Int) < 2 ^ width := by exact_mod_cast (within value).trans_lt fits
  simp only [unsignedCodec, toUnsigned, if_pos (And.intro (Int.natCast_nonneg _) small),
    Int.toNat_natCast, convertNumeric, if_neg (not_lt.mpr (within value))]
  exact congrArg Except.ok (inverse value)

theorem uint8Codec_roundTrips : uint8Codec.RoundTrips :=
  unsignedCodec_roundTrips (fun value => by have := value.toNat_lt; omega) (by norm_num)
    fun _ => UInt8.ofNat_toNat

theorem uint16Codec_roundTrips : uint16Codec.RoundTrips :=
  unsignedCodec_roundTrips (fun value => by have := value.toNat_lt; omega) (by norm_num)
    fun _ => UInt16.ofNat_toNat

theorem uint32Codec_roundTrips : uint32Codec.RoundTrips :=
  unsignedCodec_roundTrips (fun value => by have := value.toNat_lt; omega) (by norm_num)
    fun _ => UInt32.ofNat_toNat

theorem uint64Codec_roundTrips : uint64Codec.RoundTrips :=
  unsignedCodec_roundTrips (fun value => by have := value.toNat_lt; omega) (by norm_num)
    fun _ => UInt64.ofNat_toNat

theorem isx_digitChar : ∀ digit : Fin 16, isx (Nat.digitChar digit) = some digit := by
  decide

theorem nibbles_or (n : Nat) : (n / 16) <<< 4 ||| n % 16 = n := by
  rw [← Nat.shiftLeft_add_eq_or_of_lt (Nat.mod_lt n (by norm_num) : n % 16 < 2 ^ 4),
    Nat.shiftLeft_eq]
  omega

theorem length_flatMap_hexByte : ∀ bytes : List UInt8,
    (bytes.flatMap JsonArchive.hexByte).length = bytes.length * 2
  | [] => rfl
  | byte :: bytes => by
      rw [List.flatMap_cons, List.length_append, length_flatMap_hexByte bytes, List.length_cons]
      simp only [JsonArchive.hexByte, List.length_cons, List.length_nil]
      ring

theorem parseHexstrToBinbuff_hexBytes : ∀ bytes : List UInt8,
    parseHexstrToBinbuff (bytes.flatMap JsonArchive.hexByte) = some bytes
  | [] => rfl
  | byte :: bytes => by
      have high : isx (Nat.digitChar (byte.toNat / 16)) = some (byte.toNat / 16) :=
        isx_digitChar ⟨byte.toNat / 16, by have := byte.toNat_lt; omega⟩
      have low : isx (Nat.digitChar (byte.toNat % 16)) = some (byte.toNat % 16) :=
        isx_digitChar ⟨byte.toNat % 16, Nat.mod_lt _ (by norm_num)⟩
      rw [List.flatMap_cons, JsonArchive.hexByte, List.cons_append, List.cons_append,
        List.nil_append, parseHexstrToBinbuff, high, low, parseHexstrToBinbuff_hexBytes bytes]
      show some (UInt8.ofNat ((byte.toNat / 16) <<< 4 ||| byte.toNat % 16) :: bytes) = _
      rw [nibbles_or, UInt8.ofNat_toNat]

theorem hexToPod_podToHex {size : Nat} (pod : Pod size) : hexToPod size (podToHex pod) = some pod := by
  have lengthEq : (podToHex pod).length = size * 2 := by
    rw [podToHex, String.length_ofList, length_flatMap_hexByte, pod.length_eq]
  rw [hexToPod, if_neg (not_not.mpr lengthEq.symm), podToHex, String.toList_ofList,
    parseHexstrToBinbuff_hexBytes]
  simp only [pod.length_eq, dite_true]

theorem podCodec_roundTrips (size : Nat) : (podCodec size).RoundTrips := by
  intro pod
  show (match hexToPod size (podToHex pod) with
    | some pod => Except.ok pod
    | none => Except.error JsonError.badInput) = Except.ok pod
  rw [hexToPod_podToHex]

theorem mapM_fromJson_map {α : Type} {codec : JsonCodec α} :
    ∀ {vec : List α}, codec.RoundTripsOn vec → (vec.map codec.toJson).mapM codec.fromJson = .ok vec
  | [], _ => rfl
  | value :: rest, roundTrips => by
      have restRoundTrips : codec.RoundTripsOn rest := fun other member =>
        roundTrips other (List.mem_cons_of_mem _ member)
      rw [List.map_cons, List.mapM_cons, roundTrips value List.mem_cons_self,
        mapM_fromJson_map restRoundTrips]
      rfl

theorem vectorCodec_fromJson_toJson {α : Type} {codec : JsonCodec α} {vec : List α}
    (roundTrips : codec.RoundTripsOn vec) :
    (vectorCodec codec).fromJson ((vectorCodec codec).toJson vec) = .ok vec :=
  mapM_fromJson_map roundTrips

theorem vectorCodec_roundTrips {α : Type} {codec : JsonCodec α} (roundTrips : codec.RoundTrips) :
    (vectorCodec codec).RoundTrips :=
  fun _ => vectorCodec_fromJson_toJson fun value _ => roundTrips value

theorem except_ok_bind {ε α β : Type} (value : α) (f : α → Except ε β) :
    (Except.ok value >>= f) = f value := rfl

theorem getFromJsonObject_cons_self {α : Type} (key : String) (val : JsonValue)
    (rest : List (String × JsonValue)) (codec : JsonCodec α) :
    getFromJsonObject ((key, val) :: rest) key codec = codec.fromJson val := by
  simp [getFromJsonObject, List.lookup]

theorem getFromJsonObject_cons_of_ne {α : Type} {key other : String} (val : JsonValue)
    (rest : List (String × JsonValue)) (codec : JsonCodec α) (differs : key ≠ other) :
    getFromJsonObject ((other, val) :: rest) key codec = getFromJsonObject rest key codec := by
  rw [getFromJsonObject, getFromJsonObject, List.lookup, beq_false_of_ne differs]

theorem ecdhTupleCodec_roundTrips : ecdhTupleCodec.RoundTrips := by
  intro tuple
  simp (disch := decide) only [ecdhTupleCodec, objectMembers, bind, Except.bind,
    getFromJsonObject_cons_self, getFromJsonObject_cons_of_ne, podCodec_roundTrips 32 tuple.mask,
    podCodec_roundTrips 32 tuple.amount]
  rfl

theorem mgSigCodec_roundTrips : mgSigCodec.RoundTrips := by
  intro sig
  have matrix := vectorCodec_roundTrips (vectorCodec_roundTrips (podCodec_roundTrips 32)) sig.ss
  simp (disch := decide) only [mgSigCodec, objectMembers, bind, Except.bind,
    getFromJsonObject_cons_self, getFromJsonObject_cons_of_ne, matrix, podCodec_roundTrips 32 sig.cc]
  rfl

theorem flatten_chunks : ∀ (count : Nat) (bytes : List UInt8), bytes.length = 32 * count →
    (List.ofFn fun i : Fin count => (bytes.drop (32 * i)).take 32).flatten = bytes
  | 0, bytes, sized => by
      rw [List.length_eq_zero_iff.mp sized]
      rfl
  | count + 1, bytes, sized => by
      have rest := flatten_chunks count (bytes.drop 32) (by simp [sized]; omega)
      rw [List.ofFn_succ, List.flatten_cons]
      simp only [Fin.val_zero, Nat.mul_zero, List.drop_zero, Fin.val_succ, Nat.mul_succ,
        Nat.add_comm _ 32, ← List.drop_drop]
      rw [rest, List.take_append_drop]

theorem podOfKeys_keysOfPod {count : Nat} (pod : Pod (32 * count)) :
    podOfKeys count (keysOfPod count pod) = some pod := by
  rw [podOfKeys, dif_pos (by rw [keysOfPod, List.length_ofFn])]
  obtain ⟨data, sized⟩ := pod
  simp only [Option.some.injEq, Pod.mk.injEq, keysOfPod, List.flatMap_def, List.map_ofFn]
  exact flatten_chunks count data sized

theorem key64Codec_roundTrips : key64Codec.RoundTrips := by
  intro keys
  simp only [key64Codec, bind, Except.bind,
    vectorCodec_roundTrips (podCodec_roundTrips 32) (keysOfPod 64 keys)]
  rw [podOfKeys_keysOfPod]
  rfl

theorem boroSigCodec_roundTrips : boroSigCodec.RoundTrips := by
  intro sig
  simp (disch := decide) only [boroSigCodec, objectMembers, bind, Except.bind,
    getFromJsonObject_cons_self, getFromJsonObject_cons_of_ne, key64Codec_roundTrips sig.s0,
    key64Codec_roundTrips sig.s1, podCodec_roundTrips 32 sig.ee]
  rfl

theorem rangeSigCodec_roundTrips : rangeSigCodec.RoundTrips := by
  intro sig
  simp (disch := decide) only [rangeSigCodec, objectMembers, bind, Except.bind, List.lookup,
    beq_self_eq_true, beq_false_of_ne, getFromJsonObject_cons_self, boroSigCodec_roundTrips sig.asig,
    key64Codec_roundTrips sig.Ci]
  rfl

theorem bulletproofCodec_roundTrips : bulletproofCodec.RoundTrips := by
  intro p
  have keys := vectorCodec_roundTrips (podCodec_roundTrips 32)
  simp (disch := decide) only [bulletproofCodec, objectMembers, bind, Except.bind,
    getFromJsonObject_cons_self, getFromJsonObject_cons_of_ne, keys p.V, keys p.L, keys p.R,
    podCodec_roundTrips 32 p.A, podCodec_roundTrips 32 p.S, podCodec_roundTrips 32 p.T1,
    podCodec_roundTrips 32 p.T2, podCodec_roundTrips 32 p.taux, podCodec_roundTrips 32 p.mu,
    podCodec_roundTrips 32 p.a, podCodec_roundTrips 32 p.b, podCodec_roundTrips 32 p.t]
  rfl

theorem txoutToScriptCodec_roundTrips : txoutToScriptCodec.RoundTrips := by
  intro txout
  simp (disch := decide) only [txoutToScriptCodec, objectMembers, bind, Except.bind,
    getFromJsonObject_cons_self, getFromJsonObject_cons_of_ne,
    vectorCodec_roundTrips (podCodec_roundTrips 32) txout.keys,
    vectorCodec_roundTrips uint8Codec_roundTrips txout.script]
  rfl

theorem objectMembers_object (what : String) (members : List (String × JsonValue)) :
    objectMembers what (.object members) = .ok members := rfl

theorem txinCodec_fromJson_single (name : String) (value : JsonValue) :
    txinCodec.fromJson (.object [(name, value)]) =
      if name = "to_key" then txinToKeyFromJson value
      else if name = "gen" then txinGenFromJson value
      else if name = "to_script" then txinToScriptFromJson value
      else if name = "to_scripthash" then txinToScripthashFromJson value
      else pure (.gen 0) := rfl

theorem txinCodec_roundTrips : txinCodec.RoundTrips := by
  intro txin
  have bytes := vectorCodec_roundTrips uint8Codec_roundTrips
  change txinCodec.fromJson (txinToJson txin) = _
  cases txin with
  | gen height =>
    rw [txinToJson, txinCodec_fromJson_single, if_neg (by decide), if_pos rfl, txinGenFromJson,
      objectMembers_object, except_ok_bind, getFromJsonObject_cons_self, uint64Codec_roundTrips,
      except_ok_bind]
    rfl
  | toScript prev prevout sigset =>
    rw [txinToJson, txinCodec_fromJson_single, if_neg (by decide), if_neg (by decide), if_pos rfl,
      txinToScriptFromJson, objectMembers_object, except_ok_bind]
    simp (disch := decide) only [getFromJsonObject_cons_self, getFromJsonObject_cons_of_ne,
      podCodec_roundTrips 32 prev, uint64Codec_roundTrips prevout, bytes sigset, except_ok_bind]
    rfl
  | toScripthash prev prevout script sigset =>
    rw [txinToJson, txinCodec_fromJson_single, if_neg (by decide), if_neg (by decide),
      if_neg (by decide), if_pos rfl, txinToScripthashFromJson, objectMembers_object, except_ok_bind]
    simp (disch := decide) only [getFromJsonObject_cons_self, getFromJsonObject_cons_of_ne,
      podCodec_roundTrips 32 prev, uint64Codec_roundTrips prevout, txoutToScriptCodec_roundTrips script,
      bytes sigset, except_ok_bind]
    rfl
  | toKey amount keyOffsets kImage =>
    rw [txinToJson, txinCodec_fromJson_single, if_pos rfl, txinToKeyFromJson, objectMembers_object,
      except_ok_bind]
    simp (disch := decide) only [getFromJsonObject_cons_self, getFromJsonObject_cons_of_ne,
      uint64Codec_roundTrips amount, vectorCodec_roundTrips uint64Codec_roundTrips keyOffsets,
      podCodec_roundTrips 32 kImage, except_ok_bind]
    rfl

theorem txOutMemberFromJson_amount (txout : Cryptonote.TxOut) (amount : UInt64) :
    txOutMemberFromJson txout ("amount", uint64Codec.toJson amount) = .ok { txout with amount } := by
  rw [txOutMemberFromJson]
  simp only [if_pos, if_neg (by decide : ¬"amount" = "to_key"), if_neg (by decide : ¬"amount" = "to_script"),
    if_neg (by decide : ¬"amount" = "to_scripthash"), uint64Codec_roundTrips amount, except_ok_bind]
  rfl

theorem txOutCodec_fromJson_pair (first second : String × JsonValue) :
    txOutCodec.fromJson (.object [first, second]) =
      txOutMemberFromJson ⟨0, .toScript ⟨[], []⟩⟩ first >>= fun txout =>
        txOutMemberFromJson txout second >>= pure := rfl

theorem txOutCodec_roundTrips : txOutCodec.RoundTrips := by
  intro txout
  obtain ⟨amount, target⟩ := txout
  change txOutCodec.fromJson (txOutToJson _) = _
  rw [txOutToJson]
  cases target with
  | toScript script =>
    rw [txOutCodec_fromJson_pair, txOutMemberFromJson_amount, except_ok_bind, txOutMemberFromJson]
    simp only [if_neg (by decide : ¬"to_script" = "amount"), if_neg (by decide : ¬"to_script" = "to_key"),
      if_pos, txoutToScriptCodec_roundTrips script, except_ok_bind]
    rfl
  | toScripthash hash =>
    rw [txOutCodec_fromJson_pair, txOutMemberFromJson_amount, except_ok_bind, txOutMemberFromJson]
    simp only [if_neg (by decide : ¬"to_scripthash" = "amount"),
      if_neg (by decide : ¬"to_scripthash" = "to_key"), if_neg (by decide : ¬"to_scripthash" = "to_script"),
      if_pos, podMemberFromJson, objectMembers_object, except_ok_bind, getFromJsonObject_cons_self,
      podCodec_roundTrips 32 hash]
    rfl
  | toKey key =>
    rw [txOutCodec_fromJson_pair, txOutMemberFromJson_amount, except_ok_bind, txOutMemberFromJson]
    simp only [if_neg (by decide : ¬"to_key" = "amount"), if_pos, podMemberFromJson, objectMembers_object,
      except_ok_bind, getFromJsonObject_cons_self, podCodec_roundTrips 32 key]
    rfl
end Antd.Json

namespace Antd.Ringct

/-- Two signatures agree on every field the JSON form of a signature holds:
all but the CLSAGs, the destinations of the output commitments and the
pseudo-outputs `get_pseudo_outs` does not return. -/
def RctSig.SameInJson (a b : RctSig) : Prop :=
  a.type = b.type ∧ a.ecdhInfo = b.ecdhInfo ∧ a.outPk.map CtKey.mask = b.outPk.map CtKey.mask ∧
    a.txnFee = b.txnFee ∧ a.p.rangeSigs = b.p.rangeSigs ∧ a.p.bulletproofs = b.p.bulletproofs ∧
    a.p.MGs = b.p.MGs ∧ a.getPseudoOuts = b.getPseudoOuts

end Antd.Ringct

namespace Antd.Json

open Antd.Crypto Antd.Ringct

section RoundTrips

variable {In Out : Type} (rangeSigJson : JsonCodec RangeSig) (bulletproofJson : JsonCodec Bulletproof)

theorem rctSigFromJson_spec (val : JsonValue) (start : RctSig) {prunable : JsonValue}
    {members prunableMembers : List (String × JsonValue)} {type : UInt8} {ecdhInfo : List EcdhTuple}
    {commitments pseudoOuts : List Key} {txnFee : UInt64} {rangeSigs : List RangeSig}
    {bulletproofs : List Bulletproof} {MGs : List MgSig}
    (object : objectMembers "json object" val = .ok members)
    (readType : getFromJsonObject members "type" uint8Codec = .ok type)
    (readEcdh : getFromJsonObject members "encrypted" (vectorCodec ecdhTupleCodec) = .ok ecdhInfo)
    (readCommitments :
      getFromJsonObject members "commitments" (vectorCodec (podCodec 32)) = .ok commitments)
    (readFee : getFromJsonObject members "fee" uint64Codec = .ok txnFee)
    (hasPrunable : members.lookup "prunable" = some prunable)
    (prunableObject : objectMembers "json object" prunable = .ok prunableMembers)
    (readRangeSigs :
      getFromJsonObject prunableMembers "range_proofs" (vectorCodec rangeSigJson) = .ok rangeSigs)
    (readBulletproofs : getFromJsonObject prunableMembers "bulletproofs"
      (vectorCodec bulletproofJson) = .ok bulletproofs)
    (readMGs : getFromJsonObject prunableMembers "mlsags" (vectorCodec mgSigCodec) = .ok MGs)
    (readPseudoOuts :
      getFromJsonObject prunableMembers "pseudo_outs" (vectorCodec (podCodec 32)) = .ok pseudoOuts) :
    ∃ decoded, rctSigFromJson rangeSigJson bulletproofJson val start = .ok decoded ∧
      decoded.type = type ∧ decoded.ecdhInfo = ecdhInfo ∧
      decoded.outPk = start.outPk ++ commitments.map (fun mask => ⟨Pod.zero 32, mask⟩) ∧
      decoded.txnFee = txnFee ∧ decoded.p.rangeSigs = rangeSigs ∧
      decoded.p.bulletproofs = bulletproofs ∧ decoded.p.MGs = MGs ∧
      decoded.getPseudoOuts = pseudoOuts ∧ decoded.p.CLSAGs = start.p.CLSAGs := by
  simp only [rctSigFromJson, object, readType, readEcdh, readCommitments, readFee, hasPrunable,
    prunableObject, readRangeSigs, readBulletproofs, readMGs, readPseudoOuts, except_ok_bind, pure,
    Except.pure, Except.ok.injEq, exists_eq_left', RctSig.setPseudoOuts_eq, RctSig.getPseudoOuts,
    true_and, and_true]
  split_ifs <;> rfl

theorem rctSigCodec_fromJson_toJson {sig : RctSig}
    (rangeSigs : rangeSigJson.RoundTripsOn sig.p.rangeSigs)
    (bulletproofs : bulletproofJson.RoundTripsOn sig.p.bulletproofs) :
    ∃ decoded, (rctSigCodec rangeSigJson bulletproofJson).fromJson
        ((rctSigCodec rangeSigJson bulletproofJson).toJson sig) = .ok decoded ∧
      decoded.SameInJson sig ∧ decoded.p.CLSAGs = [] := by
  obtain ⟨decoded, read, type, ecdh, outPk, fee, ranges, proofs, mgs, pseudo, clsags⟩ :=
    rctSigFromJson_spec rangeSigJson bulletproofJson (rctSigToJson rangeSigJson bulletproofJson sig)
      RctSig.fresh rfl
      (by rw [getFromJsonObject_cons_self, uint8Codec_roundTrips])
      (by simp (disch := decide) only [getFromJsonObject_cons_of_ne, getFromJsonObject_cons_self]
          exact vectorCodec_roundTrips ecdhTupleCodec_roundTrips _)
      (by simp (disch := decide) only [getFromJsonObject_cons_of_ne, getFromJsonObject_cons_self]
          exact vectorCodec_roundTrips (podCodec_roundTrips 32) _)
      (by simp (disch := decide) only [getFromJsonObject_cons_of_ne, getFromJsonObject_cons_self]
          exact uint64Codec_roundTrips _)
      (by simp (disch := decide) only [List.lookup_cons, beq_false_of_ne, beq_self_eq_true]; rfl)
      (by rfl)
      (by rw [getFromJsonObject_cons_self, vectorCodec_fromJson_toJson rangeSigs])
      (by simp (disch := decide) only [getFromJsonObject_cons_of_ne, getFromJsonObject_cons_self]
          exact vectorCodec_fromJson_toJson bulletproofs)
      (by simp (disch := decide) only [getFromJsonObject_cons_of_ne, getFromJsonObject_cons_self]
          exact vectorCodec_roundTrips mgSigCodec_roundTrips _)
      (by simp (disch := decide) only [getFromJsonObject_cons_of_ne, getFromJsonObject_cons_self]
          exact vectorCodec_roundTrips (podCodec_roundTrips 32) _)
  refine ⟨decoded, read, ⟨type, ecdh, ?_, fee, ranges, proofs, mgs, pseudo⟩, clsags⟩
  rw [outPk]
  simp [RctSig.fresh]

def Transaction.SameInJson (a b : Transaction In Out) : Prop :=
  a.version = b.version ∧ a.unlockTime = b.unlockTime ∧ a.outputUnlockTimes = b.outputUnlockTimes ∧
    a.type = b.type ∧ a.vin = b.vin ∧ a.vout = b.vout ∧ a.extra = b.extra ∧
    a.signatures = b.signatures ∧ a.rctSignatures.SameInJson b.rctSignatures

def Block.SameInJson (a b : Block In Out) : Prop :=
  a.majorVersion = b.majorVersion ∧ a.minorVersion = b.minorVersion ∧ a.timestamp = b.timestamp ∧
    a.prevId = b.prevId ∧ a.nonce = b.nonce ∧ a.minerTx.SameInJson b.minerTx ∧
    a.txHashes = b.txHashes

variable (inJson : JsonCodec In) (outJson : JsonCodec Out)

theorem transactionCodec_fromJson_spec (val : JsonValue) {members : List (String × JsonValue)}
    {version unlockTime : UInt64} {outputUnlockTimes : List UInt64} {type : UInt16} {vin : List In}
    {vout : List Out} {extra : List UInt8} {signatures : List (List Signature)}
    {rctSignatures : RctSig}
    (object : objectMembers "json object" val = .ok members)
    (readVersion : getFromJsonObject members "version" uint64Codec = .ok version)
    (readUnlockTime : getFromJsonObject members "unlock_time" uint64Codec = .ok unlockTime)
    (readOutputUnlockTimes : getFromJsonObject members "output_unlock_times"
      (vectorCodec uint64Codec) = .ok outputUnlockTimes)
    (readType : getFromJsonObject members "type" uint16Codec = .ok type)
    (readInputs : getFromJsonObject members "inputs" (vectorCodec inJson) = .ok vin)
    (readOutputs : getFromJsonObject members "outputs" (vectorCodec outJson) = .ok vout)
    (readExtra : getFromJsonObject members "extra" (vectorCodec uint8Codec) = .ok extra)
    (readSignatures : getFromJsonObject members "signatures"
      (vectorCodec (vectorCodec (podCodec 64))) = .ok signatures)
    (readRingct : getFromJsonObject members "ringct" (rctSigCodec rangeSigJson bulletproofJson) =
      .ok rctSignatures) :
    (transactionCodec rangeSigJson bulletproofJson inJson outJson).fromJson val =
      .ok ⟨version, unlockTime, outputUnlockTimes, type, vin, vout, extra, signatures, rctSignatures⟩ := by
  simp only [transactionCodec, object, readVersion, readUnlockTime, readOutputUnlockTimes, readType,
    readInputs, readOutputs, readExtra, readSignatures, readRingct, except_ok_bind]
  rfl

theorem transactionCodec_fromJson_toJson {tx : Transaction In Out}
    (inputs : inJson.RoundTripsOn tx.vin) (outputs : outJson.RoundTripsOn tx.vout)
    (rangeSigs : rangeSigJson.RoundTripsOn tx.rctSignatures.p.rangeSigs)
    (bulletproofs : bulletproofJson.RoundTripsOn tx.rctSignatures.p.bulletproofs) :
    ∃ decoded, (transactionCodec rangeSigJson bulletproofJson inJson outJson).fromJson
        ((transactionCodec rangeSigJson bulletproofJson inJson outJson).toJson tx) = .ok decoded ∧
      decoded.SameInJson tx ∧ decoded.rctSignatures.p.CLSAGs = [] := by
  obtain ⟨rct, readRct, sameRct, noClsags⟩ :=
    rctSigCodec_fromJson_toJson rangeSigJson bulletproofJson rangeSigs bulletproofs
  refine ⟨⟨tx.version, tx.unlockTime, tx.outputUnlockTimes, tx.type, tx.vin, tx.vout, tx.extra,
    tx.signatures, rct⟩, ?_, ⟨rfl, rfl, rfl, rfl, rfl, rfl, rfl, rfl, sameRct⟩, noClsags⟩
  apply transactionCodec_fromJson_spec rangeSigJson bulletproofJson inJson outJson _ rfl
  · rw [getFromJsonObject_cons_self, uint64Codec_roundTrips]
  · simp (disch := decide) only [getFromJsonObject_cons_of_ne, getFromJsonObject_cons_self]
    exact uint64Codec_roundTrips _
  · simp (disch := decide) only [getFromJsonObject_cons_of_ne, getFromJsonObject_cons_self]
    exact vectorCodec_roundTrips uint64Codec_roundTrips _
  · simp (disch := decide) only [getFromJsonObject_cons_of_ne, getFromJsonObject_cons_self]
    exact uint16Codec_roundTrips _
  · simp (disch := decide) only [getFromJsonObject_cons_of_ne, getFromJsonObject_cons_self]
    exact vectorCodec_fromJson_toJson inputs
  · simp (disch := decide) only [getFromJsonObject_cons_of_ne, getFromJsonObject_cons_self]
    exact vectorCodec_fromJson_toJson outputs
  · simp (disch := decide) only [getFromJsonObject_cons_of_ne, getFromJsonObject_cons_self]
    exact vectorCodec_roundTrips uint8Codec_roundTrips _
  · simp (disch := decide) only [getFromJsonObject_cons_of_ne, getFromJsonObject_cons_self]
    exact vectorCodec_roundTrips (vectorCodec_roundTrips (podCodec_roundTrips 64)) _
  · simp (disch := decide) only [getFromJsonObject_cons_of_ne, getFromJsonObject_cons_self]
    exact readRct

theorem blockCodec_fromJson_spec (val : JsonValue) {members : List (String × JsonValue)}
    {majorVersion minorVersion : UInt8} {timestamp : UInt64} {prevId : Hash} {nonce : UInt32}
    {minerTx : Transaction In Out} {txHashes : List Hash}
    (object : objectMembers "json object" val = .ok members)
    (readMajorVersion : getFromJsonObject members "major_version" uint8Codec = .ok majorVersion)
    (readMinorVersion : getFromJsonObject members "minor_version" uint8Codec = .ok minorVersion)
    (readTimestamp : getFromJsonObject members "timestamp" uint64Codec = .ok timestamp)
    (readPrevId : getFromJsonObject members "prev_id" (podCodec 32) = .ok prevId)
    (readNonce : getFromJsonObject members "nonce" uint32Codec = .ok nonce)
    (readMinerTx : getFromJsonObject members "miner_tx"
      (transactionCodec rangeSigJson bulletproofJson inJson outJson) = .ok minerTx)
    (readTxHashes : getFromJsonObject members "tx_hashes" (vectorCodec (podCodec 32)) = .ok txHashes) :
    (blockCodec rangeSigJson bulletproofJson inJson outJson).fromJson val =
      .ok ⟨majorVersion, minorVersion, timestamp, prevId, nonce, minerTx, txHashes⟩ := by
  simp only [blockCodec, object, readMajorVersion, readMinorVersion, readTimestamp, readPrevId,
    readNonce, readMinerTx, readTxHashes, except_ok_bind]
  rfl

theorem blockCodec_fromJson_toJson {b : Block In Out}
    (inputs : inJson.RoundTripsOn b.minerTx.vin) (outputs : outJson.RoundTripsOn b.minerTx.vout)
    (rangeSigs : rangeSigJson.RoundTripsOn b.minerTx.rctSignatures.p.rangeSigs)
    (bulletproofs : bulletproofJson.RoundTripsOn b.minerTx.rctSignatures.p.bulletproofs) :
    ∃ decoded, (blockCodec rangeSigJson bulletproofJson inJson outJson).fromJson
        ((blockCodec rangeSigJson bulletproofJson inJson outJson).toJson b) = .ok decoded ∧
      decoded.SameInJson b ∧ decoded.minerTx.rctSignatures.p.CLSAGs = [] := by
  obtain ⟨minerTx, readMinerTx, sameMinerTx, noClsags⟩ :=
    transactionCodec_fromJson_toJson rangeSigJson bulletproofJson inJson outJson inputs outputs
      rangeSigs bulletproofs
  refine ⟨⟨b.majorVersion, b.minorVersion, b.timestamp, b.prevId, b.nonce, minerTx, b.txHashes⟩, ?_,
    ⟨rfl, rfl, rfl, rfl, rfl, sameMinerTx, rfl⟩, noClsags⟩
  apply blockCodec_fromJson_spec rangeSigJson bulletproofJson inJson outJson _ rfl
  · rw [getFromJsonObject_cons_self, uint8Codec_roundTrips]
  · simp (disch := decide) only [getFromJsonObject_cons_of_ne, getFromJsonObject_cons_self]
    exact uint8Codec_roundTrips _
  · simp (disch := decide) only [getFromJsonObject_cons_of_ne, getFromJsonObject_cons_self]
    exact uint64Codec_roundTrips _
  · simp (disch := decide) only [getFromJsonObject_cons_of_ne, getFromJsonObject_cons_self]
    exact podCodec_roundTrips 32 _
  · simp (disch := decide) only [getFromJsonObject_cons_of_ne, getFromJsonObject_cons_self]
    exact uint32Codec_roundTrips _
  · simp (disch := decide) only [getFromJsonObject_cons_of_ne, getFromJsonObject_cons_self]
    exact readMinerTx
  · simp (disch := decide) only [getFromJsonObject_cons_of_ne, getFromJsonObject_cons_self]
    exact vectorCodec_roundTrips (podCodec_roundTrips 32) _

/-- The JSON forms of a transaction and of a block read back on every field
they hold, for converters of the variants and proofs that read back what they
wrote; and what is read back has no CLSAGs, whatever the transaction had. -/
theorem json_round_trip_drops_CLSAGs :
    (∀ tx : Transaction In Out, inJson.RoundTripsOn tx.vin → outJson.RoundTripsOn tx.vout →
      rangeSigJson.RoundTripsOn tx.rctSignatures.p.rangeSigs →
      bulletproofJson.RoundTripsOn tx.rctSignatures.p.bulletproofs →
      ∃ decoded, (transactionCodec rangeSigJson bulletproofJson inJson outJson).fromJson
          ((transactionCodec rangeSigJson bulletproofJson inJson outJson).toJson tx) = .ok decoded ∧
        decoded.SameInJson tx ∧ decoded.rctSignatures.p.CLSAGs = []) ∧
    (∀ b : Block In Out, inJson.RoundTripsOn b.minerTx.vin → outJson.RoundTripsOn b.minerTx.vout →
      rangeSigJson.RoundTripsOn b.minerTx.rctSignatures.p.rangeSigs →
      bulletproofJson.RoundTripsOn b.minerTx.rctSignatures.p.bulletproofs →
      ∃ decoded, (blockCodec rangeSigJson bulletproofJson inJson outJson).fromJson
          ((blockCodec rangeSigJson bulletproofJson inJson outJson).toJson b) = .ok decoded ∧
        decoded.SameInJson b ∧ decoded.minerTx.rctSignatures.p.CLSAGs = []) :=
  ⟨fun _ inputs outputs rangeSigs bulletproofs =>
      transactionCodec_fromJson_toJson rangeSigJson bulletproofJson inJson outJson inputs outputs
        rangeSigs bulletproofs,
    fun _ inputs outputs rangeSigs bulletproofs =>
      blockCodec_fromJson_toJson rangeSigJson bulletproofJson inJson outJson inputs outputs
        rangeSigs bulletproofs⟩

end RoundTrips

/-- With the daemon's converters of inputs, outputs, range signatures and
bulletproofs, every transaction and every block reads back on every field
but the CLSAGs, which come back empty. -/
theorem daemon_json_round_trip :
    (∀ tx : Transaction Cryptonote.TxInV Cryptonote.TxOut,
      ∃ decoded, (transactionCodec rangeSigCodec bulletproofCodec txinCodec txOutCodec).fromJson
          ((transactionCodec rangeSigCodec bulletproofCodec txinCodec txOutCodec).toJson tx) =
          .ok decoded ∧ decoded.SameInJson tx ∧ decoded.rctSignatures.p.CLSAGs = []) ∧
    (∀ b : Block Cryptonote.TxInV Cryptonote.TxOut,
      ∃ decoded, (blockCodec rangeSigCodec bulletproofCodec txinCodec txOutCodec).fromJson
          ((blockCodec rangeSigCodec bulletproofCodec txinCodec txOutCodec).toJson b) = .ok decoded ∧
        decoded.SameInJson b ∧ decoded.minerTx.rctSignatures.p.CLSAGs = []) :=
  ⟨fun _ => transactionCodec_fromJson_toJson rangeSigCodec bulletproofCodec txinCodec txOutCodec
      (fun input _ => txinCodec_roundTrips input) (fun output _ => txOutCodec_roundTrips output)
      (fun sig _ => rangeSigCodec_roundTrips sig) (fun proof _ => bulletproofCodec_roundTrips proof),
    fun _ => blockCodec_fromJson_toJson rangeSigCodec bulletproofCodec txinCodec txOutCodec
      (fun input _ => txinCodec_roundTrips input) (fun output _ => txOutCodec_roundTrips output)
      (fun sig _ => rangeSigCodec_roundTrips sig) (fun proof _ => bulletproofCodec_roundTrips proof)⟩

/-- A transaction of the CLSAG type, of one input and one output, whose only
signature is one CLSAG. -/
def clsagTransaction : Transaction Cryptonote.TxInV Cryptonote.TxOut :=
  ⟨2, 0, [], 0, [.toKey 0 [0] (Pod.zero 32)], [⟨0, .toKey (Pod.zero 32)⟩], [], [],
    ⟨5, [], [], [], 0, ⟨[], [], [], [⟨[Pod.zero 32], Pod.zero 32, Pod.zero 32⟩], []⟩⟩⟩

theorem clsag_transaction_json_loses_its_CLSAG :
    (∃ decoded, (transactionCodec rangeSigCodec bulletproofCodec txinCodec txOutCodec).fromJson
        ((transactionCodec rangeSigCodec bulletproofCodec txinCodec txOutCodec).toJson
          clsagTransaction) = .ok decoded ∧
        decoded.SameInJson clsagTransaction ∧ decoded.rctSignatures.p.CLSAGs = []) ∧
      clsagTransaction.rctSignatures.p.CLSAGs ≠ [] :=
  ⟨(json_round_trip_drops_CLSAGs rangeSigCodec bulletproofCodec txinCodec txOutCodec).1
      clsagTransaction (fun input _ => txinCodec_roundTrips input)
      (fun output _ => txOutCodec_roundTrips output) (fun sig _ => rangeSigCodec_roundTrips sig)
      (fun proof _ => bulletproofCodec_roundTrips proof),
    List.cons_ne_nil _ _⟩

end Antd.Json
