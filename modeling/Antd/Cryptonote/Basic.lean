import Antd.Crypto.Types

/-! The transaction of `cryptonote_basic.h` and the fields of `tx_extra.h`.

`tx_extra` is a byte string in the code; here it is the list of fields that
`parse_tx_extra` reads from it, and each `get_..._from_tx_extra` is
`find_tx_extra_field_by_type`: the first field of its alternative. -/

namespace Antd.Cryptonote

open Antd.Crypto

inductive NetworkType
  | mainnet
  | testnet
  | stagenet
  | fakechain
  | undefined
  deriving DecidableEq, Repr

structure AccountPublicAddress where
  spendPublicKey : PublicKey
  viewPublicKey : PublicKey
  deriving DecidableEq

structure TxOutToScript where
  keys : List PublicKey
  script : List UInt8
  deriving DecidableEq

/-- `txin_v`: the alternatives of a transaction input. -/
inductive TxInV
  | gen (height : UInt64)
  | toScript (prev : Hash) (prevout : UInt64) (sigset : List UInt8)
  | toScripthash (prev : Hash) (prevout : UInt64) (script : TxOutToScript) (sigset : List UInt8)
  | toKey (amount : UInt64) (keyOffsets : List UInt64) (kImage : KeyImage)
  deriving DecidableEq

inductive TxOutTargetV
  | toScript (script : TxOutToScript)
  | toScripthash (hash : Hash)
  | toKey (key : PublicKey)
  deriving DecidableEq

structure TxOut where
  amount : UInt64
  target : TxOutTargetV
  deriving DecidableEq

/-- `transaction_prefix::type_t`, without the `type_count` sentinel. -/
inductive TxType
  | standard
  | deregister
  | keyImageUnlock
  deriving DecidableEq, Repr

structure TxExtraFullNodeRegister where
  publicSpendKeys : List PublicKey
  publicViewKeys : List PublicKey
  portionsForOperator : Nat
  portions : List Nat
  expirationTimestamp : Nat
  fullNodeSignature : Signature
  deriving DecidableEq

structure DeregisterTxVote where
  signature : Signature
  votersQuorumIndex : Nat
  deriving DecidableEq

structure TxExtraFullNodeDeregister where
  blockHeight : Nat
  fullNodeIndex : Nat
  votes : List DeregisterTxVote
  deriving DecidableEq

structure KeyImageProof where
  keyImage : KeyImage
  signature : Signature
  deriving DecidableEq

structure TxExtraTxKeyImageUnlock where
  keyImage : KeyImage
  signature : Signature
  nonce : Nat
  deriving DecidableEq

/-- `tx_extra_field`: the alternatives of the `tx_extra` variant. -/
inductive TxExtraField
  | padding (size : Nat)
  | pubKey (key : PublicKey)
  | nonce (nonce : List UInt8)
  | mergeMiningTag (depth : Nat) (merkleRoot : Hash)
  | additionalPubKeys (keys : List PublicKey)
  | mysteriousMinergate (data : List UInt8)
  | fullNodePubkey (key : PublicKey)
  | fullNodeRegister (register : TxExtraFullNodeRegister)
  | fullNodeContributor (address : AccountPublicAddress)
  | fullNodeWinner (key : PublicKey)
  | fullNodeDeregister (deregister : TxExtraFullNodeDeregister)
  | txSecretKey (key : SecretKey)
  | txKeyImageProofs (proofs : List KeyImageProof)
  | txKeyImageUnlock (unlock : TxExtraTxKeyImageUnlock)
  | articleInfo (title content publisher : List UInt8)
  deriving DecidableEq

/-- `transaction`: the prefix fields the modelled code reads. The `type`
field stands for the `is_deregister`/`type` union. -/
structure Transaction where
  version : Nat
  unlockTime : UInt64
  vin : List TxInV
  vout : List TxOut
  extra : List TxExtraField
  outputUnlockTimes : List UInt64
  type : TxType
  deriving DecidableEq

namespace Transaction

def null : Transaction :=
  { version := 1, unlockTime := 0, vin := [], vout := [], extra := [],
    outputUnlockTimes := [], type := .standard }

def getType (tx : Transaction) : TxType :=
  if tx.version ≤ 2 then .standard
  else if tx.version = 3 then
    if tx.type = .deregister then .deregister else .standard
  else tx.type

/-- `transaction_prefix::get_max_version_for_hf`; the network type does not
change the answer. -/
def getMaxVersionForHf (hfVersion : Nat) : Nat :=
  if 7 ≤ hfVersion ∧ hfVersion ≤ 8 then 2
  else if 9 ≤ hfVersion ∧ hfVersion ≤ 10 then 3
  else 4

end Transaction

def getFullNodePubkeyFromTxExtra (extra : List TxExtraField) : Option PublicKey :=
  extra.findSome? fun
    | .fullNodePubkey key => some key
    | _ => none

def getFullNodeWinnerFromTxExtra (extra : List TxExtraField) : PublicKey :=
  (extra.findSome? fun
    | .fullNodeWinner key => some key
    | _ => none).getD nullPkey

theorem getFullNodeWinnerFromTxExtra_append_winner {fields : List TxExtraField}
    (noWinner : ∀ field ∈ fields, ∀ key, field ≠ .fullNodeWinner key) (key : PublicKey) :
    getFullNodeWinnerFromTxExtra (fields ++ [.fullNodeWinner key]) = key := by
  unfold getFullNodeWinnerFromTxExtra
  rw [List.findSome?_append, List.findSome?_eq_none_iff.mpr]
  · rfl
  · intro field member
    cases field with
    | fullNodeWinner other => exact absurd rfl (noWinner _ member other)
    | _ => rfl

def getFullNodeDeregisterFromTxExtra (extra : List TxExtraField) :
    Option TxExtraFullNodeDeregister :=
  extra.findSome? fun
    | .fullNodeDeregister deregister => some deregister
    | _ => none

def getTxSecretKeyFromTxExtra (extra : List TxExtraField) : Option SecretKey :=
  extra.findSome? fun
    | .txSecretKey key => some key
    | _ => none

def getFullNodeContributorFromTxExtra (extra : List TxExtraField) :
    Option AccountPublicAddress :=
  extra.findSome? fun
    | .fullNodeContributor address => some address
    | _ => none

/-- The order in which `sort_tx_extra` writes the fields back; `none` for
the one kind it has no case for. -/
def TxExtraField.sortRank : TxExtraField → Option Nat
  | .pubKey _ => some 0
  | .additionalPubKeys _ => some 1
  | .nonce _ => some 2
  | .fullNodeRegister _ => some 3
  | .fullNodeDeregister _ => some 4
  | .fullNodeWinner _ => some 5
  | .fullNodeContributor _ => some 6
  | .fullNodePubkey _ => some 7
  | .txSecretKey _ => some 8
  | .txKeyImageProofs _ => some 9
  | .txKeyImageUnlock _ => some 10
  | .mergeMiningTag _ _ => some 11
  | .mysteriousMinergate _ => some 12
  | .padding _ => some 13
  | .articleInfo _ _ _ => none

/-- `sort_tx_extra`: each kind of field in turn, in the order they came;
it fails when a field is left over. -/
def sortTxExtra (extra : List TxExtraField) : Option (List TxExtraField) :=
  if extra.all (·.sortRank.isSome) then
    some ((List.range 14).flatMap fun rank => extra.filter (·.sortRank == some rank))
  else none

theorem mem_of_sortTxExtra {extra sorted : List TxExtraField}
    (sortedEq : sortTxExtra extra = some sorted) {field : TxExtraField}
    (member : field ∈ sorted) : field ∈ extra := by
  unfold sortTxExtra at sortedEq
  split at sortedEq
  · cases sortedEq
    obtain ⟨_, _, kept⟩ := List.mem_flatMap.mp member
    exact (List.mem_filter.mp kept).1
  · cases sortedEq

def txExtraNonceMaxCount : Nat := 255

def addExtraNonceToTxExtra (extra : List TxExtraField) (extraNonce : List UInt8) :
    Option (List TxExtraField) :=
  if extraNonce.length ≤ txExtraNonceMaxCount then some (extra ++ [.nonce extraNonce]) else none

/-- `add_full_node_deregister_to_tx_extra`: the binary archive writes the
field after the existing ones and never fails on it. -/
def addFullNodeDeregisterToTxExtra (extra : List TxExtraField)
    (deregistration : TxExtraFullNodeDeregister) : Bool × List TxExtraField :=
  (true, extra ++ [.fullNodeDeregister deregistration])

end Antd.Cryptonote
