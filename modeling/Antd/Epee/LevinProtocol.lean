import Antd.Epee.NetBuffer
import Antd.Lib.Delimited
import Antd.Lib.LittleEndian

/-! `async_protocol_handler::handle_recv` (`levin_protocol_handler_async.h`):
the levin framing of a connection's byte stream. The bytes of each call are
appended to `m_cache_in_buffer`. In the head state a `bucket_head2` (33
packed bytes, little endian) is read once it is whole, its signature checked
and its `m_cb` bounded; in the body state the packet is carved once `m_cb`
bytes are there, and handed to a response handler, to `invoke` (whose reply
is sent back) or to `notify`. A false return closes the connection.

What the rest of the node does is an input: what a response meets, and
whether a reply can be sent, by the position of the packet in the stream.
The timers are not modelled. -/

namespace Antd.Epee

open LittleEndian Delimited

def levinSignature : UInt64 := 0x0101010101012101

def bucketHead2Size : Nat := 33

/-- `bucket_head2` as it lies in memory: `m_have_to_return_data` is the byte
of the `bool` and `m_return_code` the bits of the `int32_t`. -/
structure BucketHead2 where
  signature : UInt64
  cb : UInt64
  haveToReturnData : UInt8
  command : UInt32
  returnCode : UInt32
  flags : UInt32
  protocolVersion : UInt32
  deriving DecidableEq

def readSignature (bytes : List UInt8) : UInt64 :=
  UInt64.ofNat (ofBytes (bytes.take 8))

def readBucketHead2 (bytes : List UInt8) : BucketHead2 where
  signature := readSignature bytes
  cb := UInt64.ofNat (ofBytes ((bytes.drop 8).take 8))
  haveToReturnData := (bytes.drop 16).headD 0
  command := UInt32.ofNat (ofBytes ((bytes.drop 17).take 4))
  returnCode := UInt32.ofNat (ofBytes ((bytes.drop 21).take 4))
  flags := UInt32.ofNat (ofBytes ((bytes.drop 25).take 4))
  protocolVersion := UInt32.ofNat (ofBytes ((bytes.drop 29).take 4))

def frameBodySize (header : List UInt8) : Nat :=
  (readBucketHead2 header).cb.toNat

/-- `m_config`: the largest packet accepted. -/
structure Config where
  maxPacketSize : Nat

/-- A frame the handler takes: a header with the signature and an `m_cb`
within the maximum packet size, followed by `m_cb` body bytes. -/
def LevinFrame (config : Config) (frame : List UInt8) : Prop :=
  IsBlock bucketHead2Size frameBodySize frame ∧ readSignature frame = levinSignature ∧
    frameBodySize (frame.take bucketHead2Size) ≤ config.maxPacketSize

/-- What is handed on: the header and the body. -/
structure Packet where
  head : BucketHead2
  body : List UInt8
  deriving DecidableEq

def packetOf (frame : List UInt8) : Packet :=
  ⟨readBucketHead2 frame, frame.drop bucketHead2Size⟩

/-! ### The handler -/

/-- Where a packet went. -/
inductive Delivery
  | response
  | expiredResponse
  | invokeResult
  | unexpectedResponse
  | invoke
  | invokeUnsent
  | notify
  deriving DecidableEq

inductive StreamState
  | head
  | body
  deriving DecidableEq

/-- The fields of `async_protocol_handler` that `handle_recv` uses, and the
packets it has handed on. -/
structure Handler where
  state : StreamState
  currentHead : BucketHead2
  cacheInBuffer : Buffer
  oponentProtocolVer : UInt32
  received : List (Packet × Delivery)

def Handler.init : Handler :=
  ⟨.head, ⟨0, 0, 0, 0, 0, 0, 0⟩, Buffer.init (256 * 1024), 0, []⟩

theorem readSignature_take {bytes : List UInt8} {count : Nat} (long : 8 ≤ count) :
    readSignature (bytes.take count) = readSignature bytes := by
  rw [readSignature, readSignature, List.take_take, Nat.min_eq_left long]

theorem readBucketHead2_take (bytes : List UInt8) :
    readBucketHead2 (bytes.take bucketHead2Size) = readBucketHead2 bytes := by
  simp only [readBucketHead2, bucketHead2Size, readSignature_take (show 8 ≤ 33 by decide),
    List.drop_take, List.take_take, BucketHead2.mk.injEq]
  refine ⟨trivial, rfl, ?_, rfl, rfl, rfl, rfl⟩
  cases bytes.drop 16 <;> rfl

theorem readBucketHead2_append {bytes more : List UInt8} (long : bucketHead2Size ≤ bytes.length) :
    readBucketHead2 (bytes ++ more) = readBucketHead2 bytes := by
  rw [← readBucketHead2_take (bytes ++ more), List.take_append_of_le_length long,
    readBucketHead2_take]

theorem readSignature_append {bytes more : List UInt8} (long : 8 ≤ bytes.length) :
    readSignature (bytes ++ more) = readSignature bytes := by
  rw [← readSignature_take (le_refl 8), List.take_append_of_le_length long, readSignature_take le_rfl]

theorem levinFrame_append {config : Config} {header body : List UInt8}
    (headerLength : header.length = bucketHead2Size)
    (signed : readSignature header = levinSignature)
    (bounded : frameBodySize header ≤ config.maxPacketSize)
    (bodyLength : body.length = frameBodySize header) : LevinFrame config (header ++ body) := by
  have front : (header ++ body).take bucketHead2Size = header := by
    exact List.take_left' headerLength
  refine ⟨⟨?_, ?_⟩, ?_, ?_⟩
  · rw [List.length_append]
    omega
  · rw [front, List.length_append, headerLength, bodyLength]
  · rw [readSignature_append (by unfold bucketHead2Size at headerLength; omega), signed]
  · rwa [front]

/-- The packets `received` are the frames at the front of `stream`, and
`rest` follows them. -/
def ReadAs (config : Config) (received : List (Packet × Delivery)) (stream rest : List UInt8) :
    Prop :=
  ∃ frames : List (List UInt8), (∀ frame ∈ frames, LevinFrame config frame) ∧
    received.map Prod.fst = frames.map packetOf ∧ stream = frames.flatten ++ rest

def Holds (config : Config) (h : Handler) (pending : List UInt8) : Prop :=
  match h.state with
  | .head => pending = h.cacheInBuffer.contents
  | .body => ∃ header, header.length = bucketHead2Size ∧ readBucketHead2 header = h.currentHead ∧
      readSignature header = levinSignature ∧ frameBodySize header ≤ config.maxPacketSize ∧
      pending = header ++ h.cacheInBuffer.contents

variable {config : Config} {endpoint : Endpoint}

theorem ReadAs.append {received : List (Packet × Delivery)} {stream rest : List UInt8}
    (reads : ReadAs config received stream rest) (more : List UInt8) :
    ReadAs config received (stream ++ more) (rest ++ more) := by
  obtain ⟨frames, areFrames, packets, split⟩ := reads
  exact ⟨frames, areFrames, packets, by rw [split, List.append_assoc]⟩

theorem ReadAs.frame {received : List (Packet × Delivery)} {stream header contents : List UInt8}
    (reads : ReadAs config received stream (header ++ contents))
    (headerLength : header.length = bucketHead2Size)
    (signed : readSignature header = levinSignature)
    (bounded : frameBodySize header ≤ config.maxPacketSize)
    (enough : frameBodySize header ≤ contents.length) (delivery : Delivery) :
    ReadAs config
      (received ++ [(⟨readBucketHead2 header, contents.take (frameBodySize header)⟩, delivery)])
      stream (contents.drop (frameBodySize header)) := by
  obtain ⟨frames, areFrames, packets, split⟩ := reads
  have bodyLength : (contents.take (frameBodySize header)).length = frameBodySize header := by
    rw [List.length_take]
    omega
  refine ⟨frames ++ [header ++ contents.take (frameBodySize header)], ?_, ?_, ?_⟩
  · intro frame member
    rcases List.mem_append.mp member with old | new
    · exact areFrames frame old
    · rw [List.mem_singleton.mp new]
      exact levinFrame_append headerLength signed bounded bodyLength
  · rw [List.map_append, packets, List.map_append]
    simp only [List.map_cons, List.map_nil, packetOf,
      readBucketHead2_append headerLength.symm.le, ← headerLength, List.drop_left']
  · rw [split, List.flatten_append, List.flatten_singleton]
    simp only [List.append_assoc, List.take_append_drop]

theorem ReadAs.carve {h : Handler} {stream pending body : List UInt8} {buffer : Buffer}
    (reads : ReadAs config h.received stream pending) (holds : Holds config h pending)
    (stateIs : h.state = .body) (enough : h.currentHead.cb.toNat ≤ h.cacheInBuffer.size)
    (carved : h.cacheInBuffer.carve h.currentHead.cb.toNat = some (body, buffer))
    (delivery : Delivery) :
    ReadAs config (h.received ++ [(⟨h.currentHead, body⟩, delivery)]) stream buffer.contents := by
  simp only [Holds, stateIs] at holds
  obtain ⟨header, headerLength, readHead, signed, bounded, rfl⟩ := holds
  obtain ⟨rfl, contentsEq⟩ := Buffer.contents_carve carved
  have bodySize : frameBodySize header = h.currentHead.cb.toNat := by
    rw [frameBodySize, readHead]
  have next := reads.frame headerLength signed bounded
    (by rw [bodySize, ← Buffer.size_eq_length]; exact enough) delivery
  rw [readHead, bodySize] at next
  rw [contentsEq]
  exact next

theorem Holds.header {h : Handler} {pending bytes : List UInt8} {buffer : Buffer}
    (holds : Holds config h pending) (stateIs : h.state = .head)
    (long : bucketHead2Size ≤ h.cacheInBuffer.size)
    (spanned : h.cacheInBuffer.span bucketHead2Size = some bytes)
    (signed : (readBucketHead2 bytes).signature = levinSignature)
    (bounded : (readBucketHead2 bytes).cb.toNat ≤ config.maxPacketSize)
    (erased : h.cacheInBuffer.erase bucketHead2Size = some buffer) :
    Holds config { h with currentHead := readBucketHead2 bytes, cacheInBuffer := buffer,
                          state := .body, oponentProtocolVer := (readBucketHead2 bytes).protocolVersion }
      pending := by
  simp only [Holds, stateIs] at holds
  rw [Buffer.span_eq, if_pos (by rw [← Buffer.size_eq_length]; exact long), Option.some.injEq]
    at spanned
  subst spanned
  refine ⟨_, ?_, rfl, signed, bounded, ?_⟩
  · rw [List.length_take, ← Buffer.size_eq_length]
    exact Nat.min_eq_left long
  · rw [Buffer.contents_erase erased, List.take_append_drop, holds]

theorem Holds.append {h : Handler} {pending chunk : List UInt8} {buffer : Buffer}
    (holds : Holds config h pending) (appended : h.cacheInBuffer.append chunk = some buffer) :
    Holds config { h with cacheInBuffer := buffer } (pending ++ chunk) := by
  unfold Holds at holds ⊢
  cases stateIs : h.state with
  | head =>
      simp only [stateIs] at holds ⊢
      rw [Buffer.contents_append appended, holds]
  | body =>
      simp only [stateIs] at holds ⊢
      obtain ⟨header, headerLength, readHead, signed, bounded, rfl⟩ := holds
      exact ⟨header, headerLength, readHead, signed, bounded,
        by rw [Buffer.contents_append appended, List.append_assoc]⟩

end Antd.Epee
