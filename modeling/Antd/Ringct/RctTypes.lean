import Antd.Serialization.Archive
import Antd.Crypto.Types

/-! The RingCT signatures of `ringct/rctTypes.h`, and the writing half of
`rctSigPrunable::serialize_rctsig_prunable` as the calls it makes on its
archive.

The function writes the range proofs (the bulletproofs, or the range
signatures) in an array it opens and closes, then the signatures (the CLSAGs,
or the MGs with their matrices) in another, and then it calls `end_array`
once more before the pseudo-outputs. The binary archive does nothing on
`end_array`, so the binary form is not affected; but every prunable part it
writes without failing closes one array more than it opens, and
`json_archive<true>` writes one `]` more than `[` for it. -/

namespace Antd.Ringct

open Antd.Crypto Antd.Serialization

abbrev Key := Pod 32

/-- `rct::key64`, written as one blob. -/
abbrev Key64 := Pod 2048

/-- `rct::boroSig`, written as one blob. -/
structure BoroSig where
  s0 : Key64
  s1 : Key64
  ee : Key

def BoroSig.data (sig : BoroSig) : List UInt8 := sig.s0.data ++ sig.s1.data ++ sig.ee.data

structure CtKey where
  dest : Key
  mask : Key

structure EcdhTuple where
  mask : Key
  amount : Key

structure RangeSig where
  asig : BoroSig
  Ci : Key64

/-- `rct::Bulletproof`. Its binary form leaves out the commitments `V`. -/
structure Bulletproof where
  V : List Key
  A : Key
  S : Key
  T1 : Key
  T2 : Key
  taux : Key
  mu : Key
  L : List Key
  R : List Key
  a : Key
  b : Key
  t : Key

/-- `rct::mgSig`, without the key images `II` it does not write. -/
structure MgSig where
  ss : List (List Key)
  cc : Key

/-- `rct::clsag`, without the key image `I` it does not write. -/
structure Clsag where
  s : List Key
  c1 : Key
  D : Key

structure RctSigPrunable where
  rangeSigs : List RangeSig
  bulletproofs : List Bulletproof
  MGs : List MgSig
  CLSAGs : List Clsag
  pseudoOuts : List Key

/-- `rct::rctSig`: `rctSigBase` and its prunable part, without the message and
the mix ring, which neither the serialization nor the JSON form writes. -/
structure RctSig where
  type : UInt8
  pseudoOuts : List Key
  ecdhInfo : List EcdhTuple
  outPk : List CtKey
  txnFee : UInt64
  p : RctSigPrunable

def rctTypeNull : Nat := 0
def rctTypeFull : Nat := 1
def rctTypeSimple : Nat := 2
def rctTypeBulletproof : Nat := 3
def rctTypeBulletproof2 : Nat := 4
def rctTypeCLSAG : Nat := 5

def bulletproofType (type : Nat) : Bool :=
  type == rctTypeBulletproof || type == rctTypeBulletproof2 || type == rctTypeCLSAG

/-- `type == RCTTypeSimple || type == RCTTypeBulletproof || type == RCTTypeBulletproof2`:
one MG an input. -/
def simpleMgType (type : Nat) : Bool :=
  type == rctTypeSimple || type == rctTypeBulletproof || type == rctTypeBulletproof2

/-- `rctSig::get_pseudo_outs`: the pseudo-outputs live in the prunable part
for the bulletproof types and in the base for the others. -/
def RctSig.getPseudoOuts (sig : RctSig) : List Key :=
  if bulletproofType sig.type.toNat then sig.p.pseudoOuts else sig.pseudoOuts

def RctSig.setPseudoOuts (sig : RctSig) (pseudoOuts : List Key) : RctSig :=
  if bulletproofType sig.type.toNat then { sig with p := { sig.p with pseudoOuts } }
  else { sig with pseudoOuts }

theorem RctSig.setPseudoOuts_eq (sig : RctSig) (pseudoOuts : List Key) :
    sig.setPseudoOuts pseudoOuts =
      { sig with
        pseudoOuts := if bulletproofType sig.type.toNat then sig.pseudoOuts else pseudoOuts
        p := { sig.p with
          pseudoOuts := if bulletproofType sig.type.toNat then pseudoOuts else sig.p.pseudoOuts } } := by
  unfold setPseudoOuts
  split <;> simp_all

def nBulletproofMaxAmount (proof : Bulletproof) : Nat :=
  if proof.L.length < 6 then 0
  else if proof.L.length ≠ proof.R.length then 0
  else if proof.L.length > 6 + 4 then 0
  else 1 <<< (proof.L.length - 6)

def nBulletproofMaxAmountsLoop : Nat → List Bulletproof → Nat
  | n, [] => n
  | n, proof :: proofs =>
      let n2 := nBulletproofMaxAmount proof
      if ¬n2 < 0xFFFFFFFF - n then 0
      else if n2 = 0 then 0
      else nBulletproofMaxAmountsLoop (n + n2) proofs

def nBulletproofMaxAmounts (proofs : List Bulletproof) : Nat := nBulletproofMaxAmountsLoop 0 proofs

/-! ### The calls -/

def keyCalls (key : Key) : List ArchiveCall := [.blob key.data]

def fieldCalls (name : String) (calls : List ArchiveCall) : List ArchiveCall := .tag name :: calls

def objectCalls (fields : List ArchiveCall) : List ArchiveCall :=
  .beginObject :: fields ++ [.endObject]

/-- `ar.begin_array()`, the elements with `delimit_array` between them, and
`ar.end_array()`: the loops `serialize_rctsig_prunable` writes by hand. -/
def arrayCalls (elements : List (List ArchiveCall)) : List ArchiveCall :=
  .beginArray 0 :: List.intercalate [.delimitArray] elements ++ [.endArray]

def rangeSigCalls (sig : RangeSig) : List ArchiveCall :=
  objectCalls (fieldCalls "asig" [.blob sig.asig.data] ++ fieldCalls "Ci" [.blob sig.Ci.data])

/-- `Bulletproof::do_serialize`: it writes its fields, then fails on `L`
empty or of another size than `R`. -/
def bulletproofCalls (proof : Bulletproof) : Option (List ArchiveCall) :=
  if proof.L.isEmpty ∨ proof.L.length ≠ proof.R.length then none
  else
    some (objectCalls (fieldCalls "A" (keyCalls proof.A) ++ fieldCalls "S" (keyCalls proof.S) ++
      fieldCalls "T1" (keyCalls proof.T1) ++ fieldCalls "T2" (keyCalls proof.T2) ++
      fieldCalls "taux" (keyCalls proof.taux) ++ fieldCalls "mu" (keyCalls proof.mu) ++
      fieldCalls "L" (containerCalls keyCalls proof.L) ++
      fieldCalls "R" (containerCalls keyCalls proof.R) ++
      fieldCalls "a" (keyCalls proof.a) ++ fieldCalls "b" (keyCalls proof.b) ++
      fieldCalls "t" (keyCalls proof.t)))

/-- The range proofs of `serialize_rctsig_prunable`: the count `nbp` and the
bulletproofs, or the range signatures. -/
def rangeProofCalls (p : RctSigPrunable) (type outputs : Nat) : Option (List ArchiveCall) :=
  if bulletproofType type then
    let nbp := p.bulletproofs.length % 2 ^ 32
    let count : ArchiveCall :=
      if type = rctTypeBulletproof2 ∨ type = rctTypeCLSAG then .varint nbp else .int nbp
    if nbp > outputs then none
    else do
      let proofs ← (p.bulletproofs.take nbp).mapM bulletproofCalls
      if nBulletproofMaxAmounts p.bulletproofs < outputs then none
      else some (fieldCalls "nbp" [count] ++ .tag "bp" :: arrayCalls proofs)
  else if p.rangeSigs.length ≠ outputs then none
  else some (.tag "rangeSigs" :: arrayCalls (p.rangeSigs.map rangeSigCalls))

def clsagCalls (p : RctSigPrunable) (inputs mixin : Nat) : Option (List ArchiveCall) :=
  if p.CLSAGs.length ≠ inputs then none
  else do
    let sigs ← p.CLSAGs.mapM fun sig =>
      if sig.s.length ≠ mixin + 1 then none
      else
        some (.beginObject :: .tag "s" :: arrayCalls (sig.s.map keyCalls) ++
          fieldCalls "c1" (keyCalls sig.c1) ++ fieldCalls "D" (keyCalls sig.D) ++ [.endObject])
    some (.tag "CLSAGs" :: arrayCalls sigs)

/-- The MGs, one an input for the simple types and one in all for the full
type, each with a `mixin + 1` by `mg_ss2_elements` matrix. -/
def mgCalls (p : RctSigPrunable) (type inputs mixin : Nat) : Option (List ArchiveCall) :=
  let mgElements := if simpleMgType type then inputs else 1
  if p.MGs.length ≠ mgElements then none
  else do
    let sigs ← p.MGs.mapM fun sig =>
      if sig.ss.length ≠ mixin + 1 then none
      else do
        let mgSs2Elements := (if simpleMgType type then 1 else inputs) + 1
        let rows ← sig.ss.mapM fun row =>
          if row.length ≠ mgSs2Elements then none else some (arrayCalls (row.map keyCalls))
        some (.beginObject :: .tag "ss" :: arrayCalls rows ++ fieldCalls "cc" (keyCalls sig.cc) ++
          [.endObject])
    some (.tag "MGs" :: arrayCalls sigs)

def pseudoOutCalls (p : RctSigPrunable) (type inputs : Nat) : Option (List ArchiveCall) :=
  if bulletproofType type then
    if p.pseudoOuts.length ≠ inputs then none
    else some (.tag "pseudoOuts" :: arrayCalls (p.pseudoOuts.map keyCalls))
  else some []

/-- `rctSigPrunable::serialize_rctsig_prunable` writing: the calls it makes,
`none` where it returns false. -/
def serializeRctsigPrunable (p : RctSigPrunable) (type inputs outputs mixin : Nat) :
    Option (List ArchiveCall) :=
  if type = rctTypeNull then some []
  else if ¬(type = rctTypeFull ∨ type = rctTypeSimple ∨ bulletproofType type = true) then none
  else do
    let rangeProofs ← rangeProofCalls p type outputs
    let signatures ←
      (if type = rctTypeCLSAG then clsagCalls p inputs mixin else mgCalls p type inputs mixin)
    let pseudoOuts ← pseudoOutCalls p type inputs
    some (rangeProofs ++ signatures ++ [.endArray] ++ pseudoOuts)

/-! ### What the calls open and close -/

@[simp] theorem squareBalance_keyCalls (key : Key) : squareBalance (keyCalls key) = 0 := by
  simp [keyCalls, ArchiveCall.squareWeight]

@[simp] theorem squareBalance_objectCalls (fields : List ArchiveCall) :
    squareBalance (objectCalls fields) = squareBalance fields := by
  simp [objectCalls, ArchiveCall.squareWeight]

theorem squareBalance_arrayCalls {elements : List (List ArchiveCall)}
    (balanced : ∀ element ∈ elements, squareBalance element = 0) :
    squareBalance (arrayCalls elements) = 0 := by
  rw [arrayCalls, squareBalance_append, squareBalance_cons,
    squareBalance_intercalate_of_balanced balanced]
  simp [ArchiveCall.squareWeight]

theorem squareBalance_arrayCalls_map {α : Type} {element : α → List ArchiveCall} (items : List α)
    (balanced : ∀ item, squareBalance (element item) = 0) :
    squareBalance (arrayCalls (items.map element)) = 0 := by
  apply squareBalance_arrayCalls
  intro calls member
  obtain ⟨item, _, rfl⟩ := List.mem_map.mp member
  exact balanced item

theorem squareBalance_rangeSigCalls (sig : RangeSig) : squareBalance (rangeSigCalls sig) = 0 := by
  simp [rangeSigCalls, fieldCalls, ArchiveCall.squareWeight]

theorem squareBalance_bulletproofCalls {proof : Bulletproof} {calls : List ArchiveCall}
    (written : bulletproofCalls proof = some calls) : squareBalance calls = 0 := by
  unfold bulletproofCalls at written
  split at written
  · cases written
  · cases written
    simp [fieldCalls, ArchiveCall.squareWeight, squareBalance_containerCalls _ squareBalance_keyCalls]

theorem squareBalance_rangeProofCalls {p : RctSigPrunable} {type outputs : Nat}
    {calls : List ArchiveCall} (written : rangeProofCalls p type outputs = some calls) :
    squareBalance calls = 0 := by
  unfold rangeProofCalls at written
  split at written
  · dsimp only at written
    split at written
    · cases written
    obtain ⟨proofs, made, checked⟩ := Option.bind_eq_some_iff.mp written
    split at checked
    · cases checked
    cases checked
    have proofsBalanced :=
      squareBalance_arrayCalls (balanced_of_mapM (fun _ _ => squareBalance_bulletproofCalls) made)
    split <;> simp [fieldCalls, ArchiveCall.squareWeight, proofsBalanced]
  · split at written
    · cases written
    · cases written
      rw [squareBalance_cons, squareBalance_arrayCalls_map _ squareBalance_rangeSigCalls]
      simp [ArchiveCall.squareWeight]

theorem squareBalance_clsagCalls {p : RctSigPrunable} {inputs mixin : Nat}
    {calls : List ArchiveCall} (written : clsagCalls p inputs mixin = some calls) :
    squareBalance calls = 0 := by
  unfold clsagCalls at written
  split at written
  · cases written
  obtain ⟨sigs, made, listed⟩ := Option.bind_eq_some_iff.mp written
  cases listed
  have eachBalanced : ∀ (sig : Clsag) sigCalls,
      (if sig.s.length ≠ mixin + 1 then none
        else some (.beginObject :: .tag "s" :: arrayCalls (sig.s.map keyCalls) ++
          fieldCalls "c1" (keyCalls sig.c1) ++ fieldCalls "D" (keyCalls sig.D) ++ [.endObject])) =
        some sigCalls → squareBalance sigCalls = 0 := by
    intro sig sigCalls made
    split at made
    · cases made
    · cases made
      have scalars := squareBalance_arrayCalls_map sig.s squareBalance_keyCalls
      simp only [List.cons_append, squareBalance_cons, squareBalance_append, scalars]
      simp [fieldCalls, ArchiveCall.squareWeight]
  rw [squareBalance_cons, squareBalance_arrayCalls (balanced_of_mapM eachBalanced made)]
  simp [ArchiveCall.squareWeight]

theorem squareBalance_mgCalls {p : RctSigPrunable} {type inputs mixin : Nat}
    {calls : List ArchiveCall} (written : mgCalls p type inputs mixin = some calls) :
    squareBalance calls = 0 := by
  unfold mgCalls at written
  dsimp only at written
  generalize (if simpleMgType type then inputs else 1) = mgElements at written
  generalize (if simpleMgType type then 1 else inputs) + 1 = width at written
  split at written
  · cases written
  obtain ⟨sigs, made, listed⟩ := Option.bind_eq_some_iff.mp written
  cases listed
  have rowBalanced : ∀ (row : List Key) rowCalls,
      (if row.length ≠ width then none
        else some (arrayCalls (row.map keyCalls))) = some rowCalls → squareBalance rowCalls = 0 := by
    intro row rowCalls made
    split at made
    · cases made
    · cases made
      exact squareBalance_arrayCalls_map row squareBalance_keyCalls
  have eachBalanced : ∀ (sig : MgSig) sigCalls,
      (if sig.ss.length ≠ mixin + 1 then none
        else do
          let rows ← sig.ss.mapM fun row =>
            if row.length ≠ width then none else some (arrayCalls (row.map keyCalls))
          some (.beginObject :: .tag "ss" :: arrayCalls rows ++ fieldCalls "cc" (keyCalls sig.cc) ++
            [.endObject])) = some sigCalls → squareBalance sigCalls = 0 := by
    intro sig sigCalls made
    split at made
    · cases made
    obtain ⟨rows, rowsMade, listed⟩ := Option.bind_eq_some_iff.mp made
    cases listed
    have matrix := squareBalance_arrayCalls (balanced_of_mapM rowBalanced rowsMade)
    simp only [List.cons_append, squareBalance_cons, squareBalance_append, matrix]
    simp [fieldCalls, ArchiveCall.squareWeight]
  rw [squareBalance_cons, squareBalance_arrayCalls (balanced_of_mapM eachBalanced made)]
  simp [ArchiveCall.squareWeight]

theorem squareBalance_pseudoOutCalls {p : RctSigPrunable} {type inputs : Nat}
    {calls : List ArchiveCall} (written : pseudoOutCalls p type inputs = some calls) :
    squareBalance calls = 0 := by
  unfold pseudoOutCalls at written
  split at written
  · split at written
    · cases written
    · cases written
      rw [squareBalance_cons, squareBalance_arrayCalls_map _ squareBalance_keyCalls]
      simp [ArchiveCall.squareWeight]
  · cases written
    rfl

/-- Every prunable part `serialize_rctsig_prunable` writes without failing, of
any of the five signed types, closes one array more than it opens; written by
`json_archive<true>`, from any state of the archive, its text has one `]` more
than `[`. -/
theorem serializeRctsigPrunable_closes_extra_array {p : RctSigPrunable}
    {type inputs outputs mixin : Nat} {calls : List ArchiveCall} (signed : type ≠ rctTypeNull)
    (written : serializeRctsigPrunable p type inputs outputs mixin = some calls) :
    squareBalance calls = -1 ∧
      ∀ ar : JsonArchive, squareCount (ar.run calls).text = squareCount ar.text - 1 := by
  unfold serializeRctsigPrunable at written
  rw [if_neg signed] at written
  split at written
  · cases written
  obtain ⟨rangeProofs, rangeMade, rest⟩ := Option.bind_eq_some_iff.mp written
  obtain ⟨signatures, signaturesMade, rest⟩ := Option.bind_eq_some_iff.mp rest
  obtain ⟨pseudoOuts, pseudoMade, listed⟩ := Option.bind_eq_some_iff.mp rest
  cases listed
  have signaturesBalanced : squareBalance signatures = 0 := by
    split at signaturesMade
    · exact squareBalance_clsagCalls signaturesMade
    · exact squareBalance_mgCalls signaturesMade
  have balance : squareBalance (rangeProofs ++ signatures ++ [.endArray] ++ pseudoOuts) = -1 := by
    rw [squareBalance_append, squareBalance_append, squareBalance_append,
      squareBalance_rangeProofCalls rangeMade, signaturesBalanced,
      squareBalance_pseudoOutCalls pseudoMade]
    rfl
  refine ⟨balance, fun ar => ?_⟩
  rw [squareCount_run, balance]
  ring

/-- The prunable part of a CLSAG transaction of one input and one output with
no decoys, every key zero. -/
def zeroClsagPrunable : RctSigPrunable where
  rangeSigs := []
  bulletproofs := [⟨[Pod.zero 32], Pod.zero 32, Pod.zero 32, Pod.zero 32, Pod.zero 32, Pod.zero 32,
    Pod.zero 32,
    List.replicate 6 (Pod.zero 32), List.replicate 6 (Pod.zero 32), Pod.zero 32, Pod.zero 32,
    Pod.zero 32⟩]
  MGs := []
  CLSAGs := [⟨[Pod.zero 32], Pod.zero 32, Pod.zero 32⟩]
  pseudoOuts := [Pod.zero 32]

theorem zero_clsag_closes_extra_array :
    ∃ calls, serializeRctsigPrunable zeroClsagPrunable rctTypeCLSAG 1 1 0 = some calls ∧
      squareBalance calls = -1 ∧
        ∀ ar : JsonArchive, squareCount (ar.run calls).text = squareCount ar.text - 1 := by
  obtain ⟨calls, written⟩ :
      ∃ calls, serializeRctsigPrunable zeroClsagPrunable rctTypeCLSAG 1 1 0 = some calls :=
    ⟨_, rfl⟩
  exact ⟨calls, written, serializeRctsigPrunable_closes_extra_array (by decide) written⟩

end Antd.Ringct
