import Antd.Cryptonote.Basic
import Antd.Serialization.BinaryArchive
import Antd.Lib.Grouping

/-! The bytes of `tx_extra`: each field as the binary archive stores it, a
`VARIANT_TAG` byte and the field's own serializer (`tx_extra.h`), and the
loops of `parse_tx_extra` and `sort_tx_extra` (`cryptonote_format_utils.cpp`)
that read fields until the stream ends. -/

namespace Antd.Cryptonote

open ByteReader Grouping Antd.Common Antd.Crypto Antd.Serialization

def txExtraPaddingMaxCount : Nat := 255

def TxExtraField.tag : TxExtraField → UInt8
  | .padding _ => 0x00
  | .pubKey _ => 0x01
  | .nonce _ => 0x02
  | .mergeMiningTag _ _ => 0x03
  | .additionalPubKeys _ => 0x04
  | .mysteriousMinergate _ => 0xDE
  | .fullNodePubkey _ => 0x74
  | .fullNodeRegister _ => 0x70
  | .fullNodeContributor _ => 0x73
  | .fullNodeWinner _ => 0x72
  | .fullNodeDeregister _ => 0x71
  | .txSecretKey _ => 0x75
  | .txKeyImageProofs _ => 0x76
  | .txKeyImageUnlock _ => 0x77
  | .articleInfo _ _ _ => 0x78

def TxExtraField.isPadding : TxExtraField → Bool
  | .padding _ => true
  | _ => false

/-- The fields the serializers store and load back: every number within its
C++ type, a nonce of at most `TX_EXTRA_NONCE_MAX_COUNT` bytes and a padding
of 1 to `TX_EXTRA_PADDING_MAX_COUNT` bytes. -/
def TxExtraField.storable : TxExtraField → Bool
  | .padding size => 1 ≤ size && size ≤ txExtraPaddingMaxCount
  | .pubKey _ | .fullNodePubkey _ | .fullNodeContributor _ | .fullNodeWinner _
  | .txSecretKey _ => true
  | .nonce bytes => bytes.length ≤ txExtraNonceMaxCount
  | .mergeMiningTag depth _ => depth < 2 ^ 64
  | .additionalPubKeys keys => keys.length < 2 ^ 64
  | .mysteriousMinergate data => data.length < 2 ^ 64
  | .fullNodeRegister register =>
      register.publicSpendKeys.length < 2 ^ 64 && register.publicViewKeys.length < 2 ^ 64 &&
        register.portionsForOperator < 2 ^ 64 && register.portions.length < 2 ^ 64 &&
        register.portions.all (· < 2 ^ 64) && register.expirationTimestamp < 2 ^ 64
  | .fullNodeDeregister deregister =>
      deregister.blockHeight < 2 ^ 64 && deregister.fullNodeIndex < 2 ^ 32 &&
        deregister.votes.length < 2 ^ 64 && deregister.votes.all (·.votersQuorumIndex < 2 ^ 32)
  | .txKeyImageProofs proofs => proofs.length < 2 ^ 64
  | .txKeyImageUnlock unlock => unlock.nonce < 2 ^ 32
  | .articleInfo title content publisher =>
      title.length < 2 ^ 64 && content.length < 2 ^ 64 && publisher.length < 2 ^ 64

/-! ### Storing the fields -/

def storeTxExtraPadding (size : Nat) : Option (List UInt8) :=
  if txExtraPaddingMaxCount < size then none else some (List.replicate (size - 1) 0)

/-- `tx_extra_nonce`: the string, refused when longer than
`TX_EXTRA_NONCE_MAX_COUNT`. -/
def storeTxExtraNonce (nonce : List UInt8) : Option (List UInt8) :=
  if txExtraNonceMaxCount < nonce.length then none else some (storeString nonce)

def storeTxExtraMergeMiningTag (depth : Nat) (merkleRoot : Hash) : List UInt8 :=
  storeString (writeVarint depth ++ merkleRoot.data)

def storeTxExtraFullNodeRegister (register : TxExtraFullNodeRegister) : List UInt8 :=
  storeContainer Pod.data register.publicSpendKeys ++
    storeContainer Pod.data register.publicViewKeys ++
    storeUint 8 register.portionsForOperator ++ storeContainer writeVarint register.portions ++
    storeUint 8 register.expirationTimestamp ++ register.fullNodeSignature.data

/-- `BLOB_SERIALIZER(tx_extra_full_node_deregister::vote)`: the 68 bytes of
the struct, the signature and then the 32-bit index. -/
def storeDeregisterVote (vote : DeregisterTxVote) : List UInt8 :=
  vote.signature.data ++ storeUint 4 vote.votersQuorumIndex

def storeTxExtraFullNodeDeregister (deregister : TxExtraFullNodeDeregister) : List UInt8 :=
  storeUint 8 deregister.blockHeight ++ storeUint 4 deregister.fullNodeIndex ++
    storeContainer storeDeregisterVote deregister.votes

def storeKeyImageProof (proof : KeyImageProof) : List UInt8 :=
  proof.keyImage.data ++ proof.signature.data

def storeTxExtraTxKeyImageUnlock (unlock : TxExtraTxKeyImageUnlock) : List UInt8 :=
  unlock.keyImage.data ++ unlock.signature.data ++ storeUint 4 unlock.nonce

def storeTxExtraFieldBody : TxExtraField → Option (List UInt8)
  | .padding size => storeTxExtraPadding size
  | .pubKey key => some key.data
  | .nonce nonce => storeTxExtraNonce nonce
  | .mergeMiningTag depth merkleRoot => some (storeTxExtraMergeMiningTag depth merkleRoot)
  | .additionalPubKeys keys => some (storeContainer Pod.data keys)
  | .mysteriousMinergate data => some (storeString data)
  | .fullNodePubkey key => some key.data
  | .fullNodeRegister register => some (storeTxExtraFullNodeRegister register)
  | .fullNodeContributor address =>
      some (address.spendPublicKey.data ++ address.viewPublicKey.data)
  | .fullNodeWinner key => some key.data
  | .fullNodeDeregister deregister => some (storeTxExtraFullNodeDeregister deregister)
  | .txSecretKey key => some key.data
  | .txKeyImageProofs proofs => some (storeContainer storeKeyImageProof proofs)
  | .txKeyImageUnlock unlock => some (storeTxExtraTxKeyImageUnlock unlock)
  | .articleInfo title content publisher =>
      some (storeString title ++ storeString content ++ storeString publisher)

def storeTxExtraField (field : TxExtraField) : Option (List UInt8) :=
  (field.tag :: ·) <$> storeTxExtraFieldBody field

/-- The fields one after another, as `add_tx_extra_field_to_tx_extra` and the
picks of `sort_tx_extra` write them. -/
def storeTxExtra (fields : List TxExtraField) : Option (List UInt8) :=
  List.flatten <$> fields.mapM storeTxExtraField

/-! ### Loading the fields -/

/-- The loop of `tx_extra_padding::do_serialize` loading, at `size` bytes
read counting the tag: zeros up to the end of the stream, at most
`TX_EXTRA_PADDING_MAX_COUNT` in all. -/
def loadPaddingFrom (size : Nat) : List UInt8 → Option Nat
  | [] => if size ≤ txExtraPaddingMaxCount then some size else none
  | zero :: rest =>
      if size ≤ txExtraPaddingMaxCount then
        if zero = 0 then loadPaddingFrom (size + 1) rest else none
      else none

def loadTxExtraPadding : Reader Nat := fun input =>
  (loadPaddingFrom 1 input).map fun size => (size, [])

def loadTxExtraNonce : Reader (List UInt8) := do
  let nonce ← loadString
  if txExtraNonceMaxCount < nonce.length then Reader.fail else pure nonce

def loadMergeMiningTagHelper : Reader (Nat × Hash) := do
  let depth ← readVarint
  let merkleRoot ← loadPod 32
  pure (depth, merkleRoot)

/-- The string, then `serialization::serialize` of the helper over it, which
also requires the helper to read the whole string. -/
def loadTxExtraMergeMiningTag : Reader TxExtraField := do
  let field ← loadString
  match Reader.readAll loadMergeMiningTagHelper field with
  | some (depth, merkleRoot) => pure (.mergeMiningTag depth merkleRoot)
  | none => Reader.fail

def loadTxExtraFullNodeRegister : Reader TxExtraFullNodeRegister := do
  let publicSpendKeys ← loadContainer (loadPod 32)
  let publicViewKeys ← loadContainer (loadPod 32)
  let portionsForOperator ← loadUint 8
  let portions ← loadContainer readVarint
  let expirationTimestamp ← loadUint 8
  let fullNodeSignature ← loadPod 64
  pure ⟨publicSpendKeys, publicViewKeys, portionsForOperator, portions, expirationTimestamp,
    fullNodeSignature⟩

def loadDeregisterVote : Reader DeregisterTxVote := do
  let signature ← loadPod 64
  let votersQuorumIndex ← loadUint 4
  pure ⟨signature, votersQuorumIndex⟩

def loadTxExtraFullNodeDeregister : Reader TxExtraFullNodeDeregister := do
  let blockHeight ← loadUint 8
  let fullNodeIndex ← loadUint 4
  let votes ← loadContainer loadDeregisterVote
  pure ⟨blockHeight, fullNodeIndex, votes⟩

def loadKeyImageProof : Reader KeyImageProof := do
  let keyImage ← loadPod 32
  let signature ← loadPod 64
  pure ⟨keyImage, signature⟩

def loadTxExtraTxKeyImageUnlock : Reader TxExtraTxKeyImageUnlock := do
  let keyImage ← loadPod 32
  let signature ← loadPod 64
  let nonce ← loadUint 4
  pure ⟨keyImage, signature, nonce⟩

def loadTxExtraArticleInfo : Reader TxExtraField := do
  let title ← loadString
  let content ← loadString
  let publisher ← loadString
  pure (.articleInfo title content publisher)

def loadTxExtraFieldTagged : Nat → Reader TxExtraField
  | 0x00 => TxExtraField.padding <$> loadTxExtraPadding
  | 0x01 => TxExtraField.pubKey <$> loadPod 32
  | 0x02 => TxExtraField.nonce <$> loadTxExtraNonce
  | 0x03 => loadTxExtraMergeMiningTag
  | 0x04 => TxExtraField.additionalPubKeys <$> loadContainer (loadPod 32)
  | 0xDE => TxExtraField.mysteriousMinergate <$> loadString
  | 0x74 => TxExtraField.fullNodePubkey <$> loadPod 32
  | 0x70 => TxExtraField.fullNodeRegister <$> loadTxExtraFullNodeRegister
  | 0x73 => do
      let spendPublicKey ← loadPod 32
      let viewPublicKey ← loadPod 32
      pure (.fullNodeContributor ⟨spendPublicKey, viewPublicKey⟩)
  | 0x72 => TxExtraField.fullNodeWinner <$> loadPod 32
  | 0x71 => TxExtraField.fullNodeDeregister <$> loadTxExtraFullNodeDeregister
  | 0x75 => TxExtraField.txSecretKey <$> loadPod 32
  | 0x76 => TxExtraField.txKeyImageProofs <$> loadContainer loadKeyImageProof
  | 0x77 => TxExtraField.txKeyImageUnlock <$> loadTxExtraTxKeyImageUnlock
  | 0x78 => loadTxExtraArticleInfo
  | _ => Reader.fail

def loadTxExtraField : Reader TxExtraField := do
  let tag ← Reader.byte
  loadTxExtraFieldTagged tag.toNat

theorem suffixing_loadTxExtraPadding : Suffixing loadTxExtraPadding := by
  intro input size rest read
  rw [loadTxExtraPadding, Option.map_eq_some_iff] at read
  obtain ⟨_, -, same⟩ := read
  cases same
  exact List.nil_suffix

theorem suffixing_loadTxExtraFieldTagged (tag : Nat) :
    Suffixing (loadTxExtraFieldTagged tag) := by
  have pod : ∀ size, Suffixing (loadPod size) := suffixing_loadPod
  have string : Suffixing loadString := suffixing_loadString
  unfold loadTxExtraFieldTagged
  split
  · exact Suffixing.map _ suffixing_loadTxExtraPadding
  · exact Suffixing.map _ (pod 32)
  · exact Suffixing.map _ (Suffixing.bind string fun _ => by
      split
      · exact suffixing_fail
      · exact suffixing_pure _)
  · exact Suffixing.bind string fun _ => by
      split
      · exact suffixing_pure _
      · exact suffixing_fail
  · exact Suffixing.map _ (Suffixing.loadContainer (pod 32))
  · exact Suffixing.map _ string
  · exact Suffixing.map _ (pod 32)
  · exact Suffixing.map _ (Suffixing.bind (Suffixing.loadContainer (pod 32)) fun _ =>
      Suffixing.bind (Suffixing.loadContainer (pod 32)) fun _ =>
      Suffixing.bind (suffixing_loadUint 8) fun _ =>
      Suffixing.bind (Suffixing.loadContainer suffixing_readVarint) fun _ =>
      Suffixing.bind (suffixing_loadUint 8) fun _ =>
      Suffixing.bind (pod 64) fun _ => suffixing_pure _)
  · exact Suffixing.bind (pod 32) fun _ => Suffixing.bind (pod 32) fun _ => suffixing_pure _
  · exact Suffixing.map _ (pod 32)
  · exact Suffixing.map _ (Suffixing.bind (suffixing_loadUint 8) fun _ =>
      Suffixing.bind (suffixing_loadUint 4) fun _ =>
      Suffixing.bind (Suffixing.loadContainer (Suffixing.bind (pod 64) fun _ =>
        Suffixing.bind (suffixing_loadUint 4) fun _ => suffixing_pure _)) fun _ =>
      suffixing_pure _)
  · exact Suffixing.map _ (pod 32)
  · exact Suffixing.map _ (Suffixing.loadContainer (Suffixing.bind (pod 32) fun _ =>
      Suffixing.bind (pod 64) fun _ => suffixing_pure _))
  · exact Suffixing.map _ (Suffixing.bind (pod 32) fun _ =>
      Suffixing.bind (pod 64) fun _ => Suffixing.bind (suffixing_loadUint 4) fun _ =>
      suffixing_pure _)
  · exact Suffixing.bind string fun _ => Suffixing.bind string fun _ =>
      Suffixing.bind string fun _ => suffixing_pure _
  · exact suffixing_fail

/-! ### The loops -/

/-- The loop `parse_tx_extra` and `sort_tx_extra` share: a field is read while
the stream has not ended. It stops at the first field that fails to read, and
returns the fields read and the bytes from the failed field on. -/
def readTxExtraFields (input : List UInt8) : List TxExtraField × List UInt8 :=
  match _read : loadTxExtraField input with
  | none => ([], input)
  | some (field, rest) =>
      if rest.isEmpty then ([field], [])
      else
        let (fields, unparsed) := readTxExtraFields rest
        (field :: fields, unparsed)
termination_by input.length
decreasing_by exact length_lt_of_byte_bind (fun tag => suffixing_loadTxExtraFieldTagged tag.toNat) _read

def parseTxExtra (txExtra : List UInt8) : Option (List TxExtraField) :=
  if txExtra.isEmpty then some []
  else
    let (fields, unparsed) := readTxExtraFields txExtra
    if unparsed.isEmpty then some fields else none

/-- `sort_tx_extra(tx_extra, sorted_tx_extra, allow_partial)` on the bytes:
the fields read, sorted by the picks of `sortTxExtra` and stored again; with
`allow_partial` the bytes after the last field read are kept at the end. -/
def sortTxExtraBytes (txExtra : List UInt8) (allowPartial : Bool) : Option (List UInt8) :=
  if txExtra.isEmpty then some []
  else
    let (fields, unparsed) := readTxExtraFields txExtra
    if !unparsed.isEmpty && !allowPartial then none
    else do
      let sorted ← sortTxExtra fields
      let stored ← storeTxExtra sorted
      pure (if allowPartial then stored ++ unparsed else stored)

/-! ### Each field reads back -/

theorem reads_loadMergeMiningTag {depth : Nat} (merkleRoot : Hash) (fits : depth < 2 ^ 64) :
    Reads loadTxExtraMergeMiningTag (.mergeMiningTag depth merkleRoot)
      (storeTxExtraMergeMiningTag depth merkleRoot) := by
  have helper : Reads loadMergeMiningTagHelper (depth, merkleRoot)
      (writeVarint depth ++ merkleRoot.data) :=
    (reads_readVarint fits).bind ((reads_loadPod merkleRoot).bind_pure rfl)
  have short : (writeVarint depth ++ merkleRoot.data).length < 2 ^ 64 := by
    have bytes := @length_writeVarint_le 9 depth (by omega)
    rw [List.length_append, merkleRoot.length_eq]
    omega
  unfold loadTxExtraMergeMiningTag storeTxExtraMergeMiningTag
  refine (reads_loadString short).bind_pure ?_
  simp only [helper.readAll]

theorem reads_loadTxExtraFullNodeRegister {register : TxExtraFullNodeRegister}
    (storable : (TxExtraField.fullNodeRegister register).storable) :
    Reads loadTxExtraFullNodeRegister register (storeTxExtraFullNodeRegister register) := by
  simp only [TxExtraField.storable, Bool.and_eq_true, decide_eq_true_eq, List.all_eq_true]
    at storable
  obtain ⟨⟨⟨⟨⟨spendFits, viewFits⟩, operatorFits⟩, portionsFit⟩, eachPortion⟩, expirationFits⟩ :=
    storable
  have keys : ∀ keys : List PublicKey, keys.length < 2 ^ 64 →
      Reads (loadContainer (loadPod 32)) keys (storeContainer Pod.data keys) := fun keys fits =>
    reads_loadContainer fits (fun key _ => reads_loadPod key)
      (fun key _ => List.ne_nil_of_length_pos (by rw [key.length_eq]; omega))
  unfold loadTxExtraFullNodeRegister storeTxExtraFullNodeRegister
  simp only [List.append_assoc]
  exact (keys _ spendFits).bind <| (keys _ viewFits).bind <|
    (reads_loadUint operatorFits).bind <|
    (reads_loadContainer portionsFit (fun portion member => reads_readVarint
      (by simpa using eachPortion portion member)) (fun portion _ => writeVarint_ne_nil portion)).bind <|
    (reads_loadUint expirationFits).bind <| (reads_loadPod _).bind_pure rfl

theorem reads_loadTxExtraFullNodeDeregister {deregister : TxExtraFullNodeDeregister}
    (storable : (TxExtraField.fullNodeDeregister deregister).storable) :
    Reads loadTxExtraFullNodeDeregister deregister
      (storeTxExtraFullNodeDeregister deregister) := by
  simp only [TxExtraField.storable, Bool.and_eq_true, decide_eq_true_eq, List.all_eq_true]
    at storable
  obtain ⟨⟨⟨heightFits, indexFits⟩, votesFit⟩, eachVote⟩ := storable
  have vote : ∀ vote ∈ deregister.votes,
      Reads loadDeregisterVote vote (storeDeregisterVote vote) := fun vote member =>
    (reads_loadPod vote.signature).bind
      ((reads_loadUint (by simpa using eachVote vote member :
        vote.votersQuorumIndex < 256 ^ 4)).bind_pure rfl)
  unfold loadTxExtraFullNodeDeregister storeTxExtraFullNodeDeregister
  simp only [List.append_assoc]
  exact (reads_loadUint heightFits).bind <| (reads_loadUint indexFits).bind <|
    (reads_loadContainer votesFit vote fun vote _ => by
      simp [storeDeregisterVote, ← List.length_pos_iff, vote.signature.length_eq]).bind_pure rfl

theorem reads_loadKeyImageProof (proof : KeyImageProof) :
    Reads loadKeyImageProof proof (storeKeyImageProof proof) := by
  unfold loadKeyImageProof storeKeyImageProof
  exact (reads_loadPod _).bind <| (reads_loadPod _).bind_pure rfl

theorem reads_loadTxExtraTxKeyImageUnlock {unlock : TxExtraTxKeyImageUnlock}
    (fits : unlock.nonce < 2 ^ 32) :
    Reads loadTxExtraTxKeyImageUnlock unlock (storeTxExtraTxKeyImageUnlock unlock) := by
  unfold loadTxExtraTxKeyImageUnlock storeTxExtraTxKeyImageUnlock
  simp only [List.append_assoc]
  exact (reads_loadPod _).bind <| (reads_loadPod _).bind <|
    (reads_loadUint (by simpa using fits : unlock.nonce < 256 ^ 4)).bind_pure rfl

theorem reads_loadTxExtraArticleInfo {title content publisher : List UInt8}
    (storable : (TxExtraField.articleInfo title content publisher).storable) :
    Reads loadTxExtraArticleInfo (.articleInfo title content publisher)
      (storeString title ++ storeString content ++ storeString publisher) := by
  simp only [TxExtraField.storable, Bool.and_eq_true, decide_eq_true_eq] at storable
  obtain ⟨⟨titleFits, contentFits⟩, publisherFits⟩ := storable
  unfold loadTxExtraArticleInfo
  simp only [List.append_assoc]
  exact (reads_loadString titleFits).bind <| (reads_loadString contentFits).bind <|
    (reads_loadString publisherFits).bind_pure rfl

theorem loadPaddingFrom_replicate (count : Nat) :
    ∀ {size : Nat}, size + count ≤ txExtraPaddingMaxCount →
      loadPaddingFrom size (List.replicate count 0) = some (size + count) := by
  induction count with
  | zero =>
      intro size within
      rw [List.replicate_zero, loadPaddingFrom, if_pos (by omega)]
      rfl
  | succ count ih =>
      intro size within
      rw [List.replicate_succ, loadPaddingFrom, if_pos (by omega), if_pos rfl, ih (by omega)]
      congr 1
      omega

theorem loadTxExtraField_padding {size : Nat} (storable : (TxExtraField.padding size).storable) :
    storeTxExtraField (.padding size) = some (0x00 :: List.replicate (size - 1) 0) ∧
      loadTxExtraField (0x00 :: List.replicate (size - 1) 0) = some (.padding size, []) := by
  simp only [TxExtraField.storable, Bool.and_eq_true, decide_eq_true_eq] at storable
  have zeros := @loadPaddingFrom_replicate (size - 1) 1 (by omega)
  rw [show 1 + (size - 1) = size by omega] at zeros
  constructor
  · simp [storeTxExtraField, storeTxExtraFieldBody, storeTxExtraPadding, TxExtraField.tag,
      show ¬txExtraPaddingMaxCount < size by omega]
  · simp [loadTxExtraField, Reader.byte, loadTxExtraFieldTagged, loadTxExtraPadding, zeros]

theorem reads_loadTxExtraField {field : TxExtraField} (storable : field.storable)
    (notPadding : field.isPadding = false) :
    ∃ body, storeTxExtraField field = some (field.tag :: body) ∧
      Reads loadTxExtraField field (field.tag :: body) := by
  have pod : ∀ {size} (value : Pod size), Reads (loadPod size) value value.data := reads_loadPod
  have tagged : ∀ body, Reads (loadTxExtraFieldTagged field.tag.toNat) field body →
      Reads loadTxExtraField field (field.tag :: body) := fun body readBody =>
    (reads_byte field.tag).bind readBody
  cases field with
  | padding size => cases notPadding
  | pubKey key => exact ⟨_, rfl, tagged _ ((pod key).map _)⟩
  | nonce bytes =>
      simp only [TxExtraField.storable, decide_eq_true_eq] at storable
      refine ⟨storeString bytes, ?_, tagged _ (Reads.map _ ?_)⟩
      · simp [storeTxExtraField, storeTxExtraFieldBody, storeTxExtraNonce, Nat.not_lt.mpr storable]
      · unfold loadTxExtraNonce
        refine (reads_loadString (by unfold txExtraNonceMaxCount at storable; omega)).bind_pure ?_
        rw [if_neg (Nat.not_lt.mpr storable)]
  | mergeMiningTag depth merkleRoot =>
      simp only [TxExtraField.storable, decide_eq_true_eq] at storable
      exact ⟨_, rfl, tagged _ (reads_loadMergeMiningTag merkleRoot storable)⟩
  | additionalPubKeys keys =>
      simp only [TxExtraField.storable, decide_eq_true_eq] at storable
      exact ⟨_, rfl, tagged _ ((reads_loadContainer storable (fun key _ => pod key)
        (fun key _ => List.ne_nil_of_length_pos (by rw [key.length_eq]; omega))).map _)⟩
  | mysteriousMinergate data =>
      simp only [TxExtraField.storable, decide_eq_true_eq] at storable
      exact ⟨_, rfl, tagged _ ((reads_loadString storable).map _)⟩
  | fullNodePubkey key => exact ⟨_, rfl, tagged _ ((pod key).map _)⟩
  | fullNodeRegister register =>
      exact ⟨_, rfl, tagged _ ((reads_loadTxExtraFullNodeRegister storable).map _)⟩
  | fullNodeContributor address =>
      exact ⟨_, rfl, tagged _ ((pod _).bind ((pod _).bind_pure rfl))⟩
  | fullNodeWinner key => exact ⟨_, rfl, tagged _ ((pod key).map _)⟩
  | fullNodeDeregister deregister =>
      exact ⟨_, rfl, tagged _ ((reads_loadTxExtraFullNodeDeregister storable).map _)⟩
  | txSecretKey key => exact ⟨_, rfl, tagged _ ((pod key).map _)⟩
  | txKeyImageProofs proofs =>
      simp only [TxExtraField.storable, decide_eq_true_eq] at storable
      exact ⟨_, rfl, tagged _ ((reads_loadContainer storable
        (fun proof _ => reads_loadKeyImageProof proof)
        (fun proof _ => by simp [storeKeyImageProof, ← List.length_pos_iff,
          proof.keyImage.length_eq])).map _)⟩
  | txKeyImageUnlock unlock =>
      simp only [TxExtraField.storable, decide_eq_true_eq] at storable
      exact ⟨_, rfl, tagged _ ((reads_loadTxExtraTxKeyImageUnlock storable).map _)⟩
  | articleInfo title content publisher =>
      exact ⟨_, rfl, tagged _ (reads_loadTxExtraArticleInfo storable)⟩

/-! ### One pass of the loop -/

theorem readTxExtraFields_of_none {input : List UInt8} (failed : loadTxExtraField input = none) :
    readTxExtraFields input = ([], input) := by
  rw [readTxExtraFields]
  split
  · rfl
  · rename_i field rest read
    rw [failed] at read
    cases read

theorem readTxExtraFields_of_last {input : List UInt8} {field : TxExtraField}
    (read : loadTxExtraField input = some (field, [])) :
    readTxExtraFields input = ([field], []) := by
  rw [readTxExtraFields]
  split
  · rename_i failed
    rw [read] at failed
    cases failed
  · rename_i first rest readAgain
    rw [read, Option.some.injEq, Prod.mk.injEq] at readAgain
    obtain ⟨rfl, rfl⟩ := readAgain
    rfl

theorem readTxExtraFields_of_more {input rest : List UInt8} {field : TxExtraField}
    (read : loadTxExtraField input = some (field, rest)) (more : rest ≠ []) :
    readTxExtraFields input =
      (field :: (readTxExtraFields rest).1, (readTxExtraFields rest).2) := by
  rw [readTxExtraFields]
  split
  · rename_i failed
    rw [read] at failed
    cases failed
  · rename_i first left readAgain
    rw [read, Option.some.injEq, Prod.mk.injEq] at readAgain
    obtain ⟨rfl, rfl⟩ := readAgain
    rw [if_neg (by simpa using more)]

/-! ### What the loop reads -/

theorem loadPaddingFrom_bounds : ∀ {size result : Nat} (input : List UInt8),
    loadPaddingFrom size input = some result → size ≤ result ∧ result ≤ txExtraPaddingMaxCount
  | size, result, [], loaded => by
      rw [loadPaddingFrom] at loaded
      split at loaded
      · rename_i within
        cases loaded
        exact ⟨Nat.le_refl _, within⟩
      · cases loaded
  | size, result, zero :: rest, loaded => by
      rw [loadPaddingFrom] at loaded
      split at loaded
      · split at loaded
        · have later := loadPaddingFrom_bounds rest loaded
          omega
        · cases loaded
      · cases loaded

theorem loadTxExtraPadding_eq_some {input rest : List UInt8} {size : Nat}
    (read : loadTxExtraPadding input = some (size, rest)) :
    (TxExtraField.padding size).storable ∧ rest = [] := by
  rw [loadTxExtraPadding, Option.map_eq_some_iff] at read
  obtain ⟨loaded, padded, same⟩ := read
  simp only [Prod.mk.injEq] at same
  obtain ⟨rfl, rfl⟩ := same
  have bounds := loadPaddingFrom_bounds input padded
  refine ⟨?_, rfl⟩
  simp only [TxExtraField.storable, Bool.and_eq_true, decide_eq_true_eq]
  exact bounds

theorem yields_loadTxExtraNonce :
    Yields loadTxExtraNonce fun nonce => nonce.length ≤ txExtraNonceMaxCount :=
  (yields_true _).bind fun nonce _ => by
    split
    · exact yields_fail _
    · rename_i within
      exact yields_pure (Nat.not_lt.mp within)

theorem yields_loadTxExtraMergeMiningTag :
    Yields loadTxExtraMergeMiningTag fun field => field.storable ∧ field.tag.toNat = 0x03 := by
  have helper : Yields loadMergeMiningTagHelper fun read => read.1 < 2 ^ 64 :=
    Yields.bind yields_readVarint fun _ fits => (yields_true _).bind fun _ _ => yields_pure fits
  refine (yields_true _).bind fun string _ => ?_
  split
  · rename_i depth merkleRoot whole
    have fits : depth < 2 ^ 64 := helper.readAll whole
    exact yields_pure ⟨by simpa [TxExtraField.storable] using fits, rfl⟩
  · exact yields_fail _

theorem yields_loadTxExtraFullNodeRegister :
    Yields loadTxExtraFullNodeRegister
      fun register => (TxExtraField.fullNodeRegister register).storable :=
  (Yields.loadContainer (yields_true _)).bind fun _ spendFit =>
    (Yields.loadContainer (yields_true _)).bind fun _ viewFit =>
    (yields_loadUint 8).bind fun _ operatorFits =>
    (Yields.loadContainer yields_readVarint).bind fun _ portionsFit =>
    (yields_loadUint 8).bind fun _ expirationFits =>
    (yields_true _).bind fun _ _ => yields_pure (by
      simp only [TxExtraField.storable, Bool.and_eq_true, decide_eq_true_eq, List.all_eq_true]
      exact ⟨⟨⟨⟨⟨spendFit.1, viewFit.1⟩, by simpa using operatorFits⟩, portionsFit.1⟩,
        portionsFit.2⟩, by simpa using expirationFits⟩)

theorem yields_loadTxExtraFullNodeDeregister :
    Yields loadTxExtraFullNodeDeregister
      fun deregister => (TxExtraField.fullNodeDeregister deregister).storable := by
  have vote : Yields loadDeregisterVote fun vote => vote.votersQuorumIndex < 2 ^ 32 :=
    (yields_true _).bind fun _ _ =>
      (yields_loadUint 4).bind fun _ indexFits => yields_pure (by simpa using indexFits)
  exact (yields_loadUint 8).bind fun _ heightFits =>
    (yields_loadUint 4).bind fun _ indexFits =>
    (Yields.loadContainer vote).bind fun _ votesFit => yields_pure (by
      simp only [TxExtraField.storable, Bool.and_eq_true, decide_eq_true_eq, List.all_eq_true]
      exact ⟨⟨⟨by simpa using heightFits, by simpa using indexFits⟩, votesFit.1⟩, votesFit.2⟩)

theorem yields_loadTxExtraTxKeyImageUnlock :
    Yields loadTxExtraTxKeyImageUnlock
      fun unlock => (TxExtraField.txKeyImageUnlock unlock).storable :=
  (yields_true _).bind fun _ _ => (yields_true _).bind fun _ _ =>
    (yields_loadUint 4).bind fun _ nonceFits =>
      yields_pure (by simpa [TxExtraField.storable] using nonceFits)

theorem yields_loadTxExtraArticleInfo :
    Yields loadTxExtraArticleInfo fun field => field.storable ∧ field.tag.toNat = 0x78 :=
  Yields.bind yields_loadString fun _ titleFits => Yields.bind yields_loadString fun _ contentFits =>
    Yields.bind yields_loadString fun _ publisherFits =>
      yields_pure ⟨by
        simp only [TxExtraField.storable, Bool.and_eq_true, decide_eq_true_eq]
        exact ⟨⟨titleFits, contentFits⟩, publisherFits⟩, rfl⟩

theorem yields_loadTxExtraFieldTagged (tag : Nat) :
    Yields (loadTxExtraFieldTagged tag) fun field => field.storable ∧ field.tag.toNat = tag := by
  unfold loadTxExtraFieldTagged
  split
  · exact Yields.map _ (fun _ _ _ read => (loadTxExtraPadding_eq_some read).1)
      fun _ storable => ⟨storable, rfl⟩
  · exact (yields_true _).map _ fun _ _ => ⟨rfl, rfl⟩
  · exact Yields.map _ yields_loadTxExtraNonce fun _ within =>
      ⟨by simpa [TxExtraField.storable] using within, rfl⟩
  · exact yields_loadTxExtraMergeMiningTag
  · exact (Yields.loadContainer (yields_true _)).map _ fun _ fit =>
      ⟨by simpa [TxExtraField.storable] using fit.1, rfl⟩
  · exact Yields.map _ yields_loadString fun _ fits => ⟨by simpa [TxExtraField.storable] using fits, rfl⟩
  · exact (yields_true _).map _ fun _ _ => ⟨rfl, rfl⟩
  · exact Yields.map _ yields_loadTxExtraFullNodeRegister fun _ storable => ⟨storable, rfl⟩
  · exact (yields_true _).bind fun _ _ => (yields_true _).bind fun _ _ => yields_pure ⟨rfl, rfl⟩
  · exact (yields_true _).map _ fun _ _ => ⟨rfl, rfl⟩
  · exact Yields.map _ yields_loadTxExtraFullNodeDeregister fun _ storable => ⟨storable, rfl⟩
  · exact (yields_true _).map _ fun _ _ => ⟨rfl, rfl⟩
  · exact (Yields.loadContainer (yields_true _)).map _ fun _ fit =>
      ⟨by simpa [TxExtraField.storable] using fit.1, rfl⟩
  · exact Yields.map _ yields_loadTxExtraTxKeyImageUnlock fun _ storable => ⟨storable, rfl⟩
  · exact yields_loadTxExtraArticleInfo
  · exact yields_fail _

theorem loadTxExtraField_sound {input rest : List UInt8} {field : TxExtraField}
    (read : loadTxExtraField input = some (field, rest)) :
    field.storable ∧ (field.isPadding = true → rest = []) := by
  rw [loadTxExtraField, Reader.bind_apply, Option.bind_eq_some_iff] at read
  obtain ⟨⟨tag, middle⟩, -, readTagged⟩ := read
  obtain ⟨storable, tagged⟩ := yields_loadTxExtraFieldTagged _ _ _ _ readTagged
  refine ⟨storable, fun padding => ?_⟩
  obtain ⟨size, rfl⟩ : ∃ size, field = .padding size := by
    cases field <;> simp_all [TxExtraField.isPadding]
  have zero : tag.toNat = 0 := tagged.symm
  rw [zero, loadTxExtraFieldTagged, Reader.map_apply, Option.map_eq_some_iff] at readTagged
  obtain ⟨⟨_, left⟩, readPadding, same⟩ := readTagged
  simp only [Prod.mk.injEq] at same
  rw [← same.2]
  exact (loadTxExtraPadding_eq_some readPadding).2

theorem readTxExtraFields_sound (input : List UInt8) :
    (∀ field ∈ (readTxExtraFields input).1, field.storable) ∧
      ∀ field ∈ (readTxExtraFields input).1.dropLast, field.isPadding = false := by
  rcases load : loadTxExtraField input with _ | ⟨field, rest⟩
  · rw [readTxExtraFields_of_none load]
    simp
  · obtain ⟨storable, paddingEnds⟩ := loadTxExtraField_sound load
    by_cases last : rest = []
    · subst last
      rw [readTxExtraFields_of_last load]
      simp [storable]
    · have notPadding : field.isPadding = false := by
        cases padding : field.isPadding
        · rfl
        · exact absurd (paddingEnds padding) last
      obtain ⟨restStorable, restPadding⟩ := readTxExtraFields_sound rest
      rw [readTxExtraFields_of_more load last]
      refine ⟨?_, ?_⟩
      · intro other member
        rcases List.mem_cons.mp member with rfl | later
        · exact storable
        · exact restStorable other later
      · intro other member
        by_cases alone : (readTxExtraFields rest).1 = []
        · rw [alone] at member
          simp at member
        · rw [List.dropLast_cons_of_ne_nil alone] at member
          rcases List.mem_cons.mp member with rfl | later
          · exact notPadding
          · exact restPadding other later
termination_by input.length
decreasing_by exact length_lt_of_byte_bind (fun tag => suffixing_loadTxExtraFieldTagged tag.toNat) load

theorem readTxExtraFields_of_fst_eq_nil {input : List UInt8}
    (none : (readTxExtraFields input).1 = []) : (readTxExtraFields input).2 = input := by
  rcases load : loadTxExtraField input with _ | ⟨field, rest⟩
  · rw [readTxExtraFields_of_none load]
  · by_cases last : rest = []
    · subst last
      rw [readTxExtraFields_of_last load] at none
      cases none
    · rw [readTxExtraFields_of_more load last] at none
      cases none

theorem parseTxExtra_eq_some {txExtra : List UInt8} {fields : List TxExtraField}
    (parsed : parseTxExtra txExtra = some fields) :
    txExtra = [] ∧ fields = [] ∨
      txExtra ≠ [] ∧ fields ≠ [] ∧ readTxExtraFields txExtra = (fields, []) := by
  unfold parseTxExtra at parsed
  split at parsed
  · rename_i empty
    cases parsed
    exact Or.inl ⟨List.isEmpty_iff.mp empty, rfl⟩
  · rename_i nonempty
    have notEmpty : txExtra ≠ [] := fun empty => nonempty (by simp [empty])
    rcases loop : readTxExtraFields txExtra with ⟨readFields, unparsed⟩
    simp only [loop] at parsed
    split at parsed
    · rename_i complete
      cases parsed
      have unparsedNil : unparsed = [] := List.isEmpty_iff.mp complete
      refine Or.inr ⟨notEmpty, fun empty => notEmpty ?_, by rw [unparsedNil]⟩
      have left := readTxExtraFields_of_fst_eq_nil (by rw [loop, empty])
      rw [loop, unparsedNil] at left
      exact left.symm
    · cases parsed

theorem parseTxExtra_of_complete {txExtra : List UInt8} {fields : List TxExtraField}
    (nonempty : txExtra ≠ []) (read : readTxExtraFields txExtra = (fields, [])) :
    parseTxExtra txExtra = some fields := by
  rw [parseTxExtra, if_neg (by simpa using nonempty), read]
  rfl

theorem sortTxExtraBytes_of_complete {txExtra : List UInt8} {fields : List TxExtraField}
    (nonempty : txExtra ≠ []) (read : readTxExtraFields txExtra = (fields, [])) :
    sortTxExtraBytes txExtra false = (sortTxExtra fields).bind storeTxExtra := by
  rw [sortTxExtraBytes, if_neg (by simpa using nonempty), read]
  rcases sorting : sortTxExtra fields with _ | sorted
  · simp [sorting]
  · simp [sorting]

theorem parseTxExtra_sound {txExtra : List UInt8} {fields : List TxExtraField}
    (parsed : parseTxExtra txExtra = some fields) :
    (∀ field ∈ fields, field.storable) ∧ ∀ field ∈ fields.dropLast, field.isPadding = false := by
  rcases parseTxExtra_eq_some parsed with ⟨-, rfl⟩ | ⟨-, -, read⟩
  · simp
  · have sound := readTxExtraFields_sound txExtra
    rwa [read] at sound

/-! ### Stored fields parse back -/

theorem storeTxExtra_cons (field : TxExtraField) (fields : List TxExtraField) :
    storeTxExtra (field :: fields) =
      (storeTxExtraField field).bind fun encoded => (storeTxExtra fields).map (encoded ++ ·) := by
  rcases first : storeTxExtraField field with _ | encoded
  · simp [storeTxExtra, List.mapM_cons, first]
  · rcases rest : fields.mapM storeTxExtraField with _ | restEncoded
    · simp [storeTxExtra, List.mapM_cons, first, rest]
    · simp [storeTxExtra, List.mapM_cons, first, rest]

theorem readTxExtraFields_storeTxExtra : ∀ (fields : List TxExtraField), fields ≠ [] →
    (∀ field ∈ fields, field.storable) → (∀ field ∈ fields.dropLast, field.isPadding = false) →
    ∃ stored, storeTxExtra fields = some stored ∧ stored ≠ [] ∧
      readTxExtraFields stored = (fields, [])
  | [], nonempty, _, _ => absurd rfl nonempty
  | field :: fields, _, storable, paddingLast => by
      by_cases alone : fields = []
      · subst alone
        cases padding : field.isPadding
        · obtain ⟨body, stored, reads⟩ :=
            reads_loadTxExtraField (storable field (List.mem_singleton_self _)) padding
          have read := reads []
          rw [List.append_nil] at read
          exact ⟨field.tag :: body, by simp [stored, storeTxExtra],
            List.cons_ne_nil _ _, readTxExtraFields_of_last read⟩
        · obtain ⟨size, rfl⟩ : ∃ size, field = .padding size := by
            cases field <;> simp_all [TxExtraField.isPadding]
          obtain ⟨stored, read⟩ := loadTxExtraField_padding (storable _ (List.mem_singleton_self _))
          exact ⟨_, by simp [stored, storeTxExtra], List.cons_ne_nil _ _,
            readTxExtraFields_of_last read⟩
      · have earlier : (field :: fields).dropLast = field :: fields.dropLast :=
          List.dropLast_cons_of_ne_nil alone
        have notPadding : field.isPadding = false :=
          paddingLast field (by rw [earlier]; exact List.mem_cons_self)
        obtain ⟨body, stored, reads⟩ :=
          reads_loadTxExtraField (storable field List.mem_cons_self) notPadding
        obtain ⟨restStored, restStore, restNonempty, restRead⟩ :=
          readTxExtraFields_storeTxExtra fields alone
            (fun other member => storable other (List.mem_cons_of_mem _ member))
            (fun other member => paddingLast other (by
              rw [earlier]
              exact List.mem_cons_of_mem _ member))
        refine ⟨field.tag :: body ++ restStored, by simp [storeTxExtra_cons, stored, restStore],
          by simp, ?_⟩
        rw [readTxExtraFields_of_more (reads restStored) restNonempty, restRead]

theorem parseTxExtra_storeTxExtra {fields : List TxExtraField}
    (storable : ∀ field ∈ fields, field.storable)
    (paddingLast : ∀ field ∈ fields.dropLast, field.isPadding = false) :
    ∃ stored, storeTxExtra fields = some stored ∧ parseTxExtra stored = some fields := by
  by_cases empty : fields = []
  · subst empty
    exact ⟨[], rfl, rfl⟩
  · obtain ⟨stored, store, nonempty, read⟩ :=
      readTxExtraFields_storeTxExtra fields empty storable paddingLast
    exact ⟨stored, store, parseTxExtra_of_complete nonempty read⟩

theorem key_nonce_padding_extra_round_trips :
    ∃ stored, storeTxExtra [.pubKey nullPkey, .nonce [1, 2], .padding 3] = some stored ∧
      parseTxExtra stored = some [.pubKey nullPkey, .nonce [1, 2], .padding 3] :=
  parseTxExtra_storeTxExtra (by decide) (by decide)

/-! ### The field `sort_tx_extra` has no pick for -/

theorem sortTxExtra_eq_none_of_unranked {fields : List TxExtraField} {field : TxExtraField}
    (member : field ∈ fields) (unranked : field.sortRank = none) : sortTxExtra fields = none := by
  unfold sortTxExtra
  rw [if_neg]
  intro ranked
  have fieldRanked := List.all_eq_true.mp ranked field member
  simp [unranked] at fieldRanked

/-- Every `tx_extra` that `parse_tx_extra` accepts with an article info field
in it is refused by `sort_tx_extra` without `allow_partial`: no pick takes the
field, so it is left over after the picks. -/
theorem sortTxExtraBytes_refuses_article_info {txExtra : List UInt8}
    {fields : List TxExtraField} (parsed : parseTxExtra txExtra = some fields)
    (article : ∃ title content publisher,
      TxExtraField.articleInfo title content publisher ∈ fields) :
    sortTxExtraBytes txExtra false = none := by
  obtain ⟨title, content, publisher, member⟩ := article
  rcases parseTxExtra_eq_some parsed with ⟨-, rfl⟩ | ⟨nonempty, -, read⟩
  · cases member
  · rw [sortTxExtraBytes_of_complete nonempty read, sortTxExtra_eq_none_of_unranked member rfl]
    rfl

theorem article_info_extra_parsed_but_not_sorted :
    parseTxExtra [0x78, 0, 0, 0] = some [.articleInfo [] [] []] ∧
      sortTxExtraBytes [0x78, 0, 0, 0] false = none := by
  have read : loadTxExtraField [0x78, 0, 0, 0] = some (.articleInfo [] [] [], []) := by decide
  have parsed : parseTxExtra [0x78, 0, 0, 0] = some [.articleInfo [] [] []] :=
    parseTxExtra_of_complete (by decide) (readTxExtraFields_of_last read)
  exact ⟨parsed, sortTxExtraBytes_refuses_article_info parsed
    ⟨[], [], [], List.mem_singleton_self _⟩⟩

/-! ### The picks group the fields -/

def sortRanks : List (Option Nat) := (List.range 14).map some

theorem nodup_sortRanks : sortRanks.Nodup := by decide

theorem sortRank_mem_sortRanks {field : TxExtraField} (ranked : field.sortRank.isSome) :
    field.sortRank ∈ sortRanks := by
  cases field <;> simp_all [TxExtraField.sortRank, sortRanks]

theorem sortTxExtra_eq_some {extra sorted : List TxExtraField} :
    sortTxExtra extra = some sorted ↔
      (∀ field ∈ extra, field.sortRank.isSome) ∧
        sorted = groupByKeys sortRanks TxExtraField.sortRank extra := by
  have picks : (List.range 14).flatMap (fun rank => extra.filter (·.sortRank == some rank)) =
      groupByKeys sortRanks TxExtraField.sortRank extra := by
    rw [groupByKeys, sortRanks, List.flatMap_map]
    refine List.flatMap_congr fun rank _ => List.filter_congr fun field _ => ?_
    rw [Bool.eq_iff_iff, beq_iff_eq, decide_eq_true_iff]
  unfold sortTxExtra
  split
  · next ranked =>
    have allRanked : ∀ field ∈ extra, field.sortRank.isSome := List.all_eq_true.mp ranked
    rw [Option.some.injEq, picks]
    exact ⟨fun same => ⟨allRanked, same.symm⟩, fun both => both.2.symm⟩
  · next unranked =>
    have notAllRanked : ¬∀ field ∈ extra, field.sortRank.isSome := fun allRanked =>
      unranked (List.all_eq_true.mpr allRanked)
    exact ⟨fun noneEq => (Option.some_ne_none sorted noneEq.symm).elim,
      fun both => (notAllRanked both.1).elim⟩

theorem mem_sortTxExtra {extra sorted : List TxExtraField}
    (sortedEq : sortTxExtra extra = some sorted) {field : TxExtraField} :
    field ∈ sorted ↔ field ∈ extra := by
  obtain ⟨ranked, rfl⟩ := sortTxExtra_eq_some.1 sortedEq
  rw [mem_groupByKeys]
  exact ⟨And.left, fun member => ⟨member, sortRank_mem_sortRanks (ranked field member)⟩⟩

theorem sortTxExtra_sortTxExtra {extra sorted : List TxExtraField}
    (sortedEq : sortTxExtra extra = some sorted) : sortTxExtra sorted = some sorted := by
  obtain ⟨ranked, rfl⟩ := sortTxExtra_eq_some.1 sortedEq
  refine sortTxExtra_eq_some.2
    ⟨fun field member => ranked field (mem_groupByKeys.1 member).1, ?_⟩
  rw [groupByKeys_groupByKeys nodup_sortRanks]

theorem isPadding_iff_sortRank {field : TxExtraField} :
    field.isPadding = true ↔ field.sortRank = some 13 := by
  cases field <;> simp [TxExtraField.isPadding, TxExtraField.sortRank]

theorem length_filter_isPadding_le {fields : List TxExtraField}
    (paddingLast : ∀ field ∈ fields.dropLast, field.isPadding = false) :
    (fields.filter (·.isPadding)).length ≤ 1 := by
  rcases List.eq_nil_or_concat fields with rfl | ⟨earlier, last, rfl⟩
  · simp
  · rw [List.concat_eq_append, List.dropLast_concat] at paddingLast
    have none : earlier.filter (·.isPadding) = [] :=
      List.filter_eq_nil_iff.mpr fun field member => by simp [paddingLast field member]
    rw [List.concat_eq_append, List.filter_append, none, List.nil_append]
    exact List.length_filter_le _ _

theorem sortTxExtra_paddingLast {extra sorted : List TxExtraField}
    (sortedEq : sortTxExtra extra = some sorted)
    (paddingLast : ∀ field ∈ extra.dropLast, field.isPadding = false) :
    ∀ field ∈ sorted.dropLast, field.isPadding = false := by
  obtain ⟨ranked, rfl⟩ := sortTxExtra_eq_some.1 sortedEq
  have lastRank : sortRanks = (List.range 13).map some ++ [some 13] := rfl
  have paddings : extra.filter (fun field => field.sortRank = some 13) =
      extra.filter (·.isPadding) :=
    List.filter_congr fun field _ => by simp [← isPadding_iff_sortRank]
  have earlier : ∀ field ∈ groupByKeys ((List.range 13).map some) TxExtraField.sortRank extra,
      field.isPadding = false := by
    intro field member
    have rankedEarly := (mem_groupByKeys.1 member).2
    cases padding : field.isPadding
    · rfl
    · rw [isPadding_iff_sortRank.1 padding] at rankedEarly
      simp at rankedEarly
  have atMostOne := length_filter_isPadding_le paddingLast
  rw [lastRank, groupByKeys_append, groupByKeys_cons, groupByKeys_nil, List.append_nil, paddings]
  intro field member
  rcases padded : extra.filter (·.isPadding) with _ | ⟨padding, _ | ⟨other, more⟩⟩
  · rw [padded, List.append_nil] at member
    exact earlier field (List.mem_of_mem_dropLast member)
  · rw [padded, List.dropLast_concat] at member
    exact earlier field member
  · rw [padded] at atMostOne
    simp at atMostOne

/-! ### Sorting is a normal form -/

/-- On what `parse_tx_extra` accepts with no article info field,
`sort_tx_extra` without `allow_partial` succeeds, its bytes parse to the
fields as its picks group them, and sorting those bytes again returns them
unchanged. -/
theorem sortTxExtraBytes_normal_form {txExtra : List UInt8} {fields : List TxExtraField}
    (parsed : parseTxExtra txExtra = some fields)
    (noArticle : ∀ title content publisher,
      TxExtraField.articleInfo title content publisher ∉ fields) :
    ∃ sorted, sortTxExtraBytes txExtra false = some sorted ∧
      parseTxExtra sorted = sortTxExtra fields ∧ sortTxExtraBytes sorted false = some sorted := by
  obtain ⟨storable, paddingLast⟩ := parseTxExtra_sound parsed
  have ranked : ∀ field ∈ fields, field.sortRank.isSome := by
    intro field member
    cases field with
    | articleInfo title content publisher => exact absurd member (noArticle title content publisher)
    | _ => rfl
  obtain ⟨grouped, sortedEq⟩ : ∃ grouped, sortTxExtra fields = some grouped :=
    ⟨_, sortTxExtra_eq_some.mpr ⟨ranked, rfl⟩⟩
  rcases parseTxExtra_eq_some parsed with ⟨rfl, rfl⟩ | ⟨nonempty, fieldsNonempty, read⟩
  · exact ⟨[], rfl, rfl, rfl⟩
  · have groupedNonempty : grouped ≠ [] := by
      obtain ⟨field, member⟩ := List.exists_mem_of_ne_nil fields fieldsNonempty
      exact List.ne_nil_of_mem ((mem_sortTxExtra sortedEq).mpr member)
    obtain ⟨stored, store, storedNonempty, storedRead⟩ :=
      readTxExtraFields_storeTxExtra grouped groupedNonempty
        (fun field member => storable field ((mem_sortTxExtra sortedEq).mp member))
        (sortTxExtra_paddingLast sortedEq paddingLast)
    refine ⟨stored, ?_, ?_, ?_⟩
    · rw [sortTxExtraBytes_of_complete nonempty read, sortedEq, Option.bind_some, store]
    · rw [parseTxExtra_of_complete storedNonempty storedRead, sortedEq]
    · rw [sortTxExtraBytes_of_complete storedNonempty storedRead, sortTxExtra_sortTxExtra sortedEq,
        Option.bind_some, store]

theorem nonce_key_extra_sorts_to_normal_form :
    ∃ sorted, sortTxExtraBytes (0x02 :: 0x01 :: 0x07 :: 0x01 :: List.replicate 32 0) false =
        some sorted ∧
      parseTxExtra sorted = sortTxExtra [.nonce [7], .pubKey nullPkey] ∧
      sortTxExtraBytes sorted false = some sorted := by
  have readNonce : loadTxExtraField (0x02 :: 0x01 :: 0x07 :: 0x01 :: List.replicate 32 0) =
      some (.nonce [7], 0x01 :: List.replicate 32 0) := by decide
  have readKey : loadTxExtraField (0x01 :: List.replicate 32 0) = some (.pubKey nullPkey, []) := by
    decide
  have parsed : parseTxExtra (0x02 :: 0x01 :: 0x07 :: 0x01 :: List.replicate 32 0) =
      some [.nonce [7], .pubKey nullPkey] := by
    refine parseTxExtra_of_complete (by simp) ?_
    rw [readTxExtraFields_of_more readNonce (by simp), readTxExtraFields_of_last readKey]
  exact sortTxExtraBytes_normal_form parsed (by simp)

end Antd.Cryptonote
