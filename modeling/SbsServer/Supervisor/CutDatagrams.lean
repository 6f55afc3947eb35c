import SbsServer.CLib.PackedRecord
import SbsServer.Supervisor.DescriptorAccounts
import SbsServer.Supervisor.LastWords

/-!
# Messages that are longer than a frame

`on_frame_available` receives every message of a worker into the space of a video frame
message, 128 bytes.  Status messages have 332 bytes and messages about the signal 160, of
which the kernel drops those behind the first 128; the union that they are read from was
zeroed.
-/

namespace SbsServer
namespace Supervisor

open CLib

/-- `sbs_status_msg_t`, without the type in its header. -/
structure StatusRecord where
  payloadSize : UInt32
  state : UInt32
  frameWidth : UInt32
  frameHeight : UInt32
  frameRateNum : UInt32
  frameRateDen : UInt32
  framesProduced : UInt64
  framesDropped : UInt64
  framesConsumed : UInt64
  framesEncoded : UInt64
  bytesWritten : UInt64
  encoderBitrate : UInt32
  encoderQp : UInt32
  errorMessage : CharArray 256

/-- `sbs_signal_change_msg_t`, without the type in its header. -/
structure SignalChangeRecord where
  payloadSize : UInt32
  reason : CharArray 64
  width : UInt32
  height : UInt32
  frameRateRaw : UInt32
  colorSpace : CharArray 32
  colorDepth : UInt32
  hdrEotf : CharArray 32
  dolbyVision : UInt32
  interlace : UInt32

/-- A message that a worker hands to `sbs_ipc_send_msg`. -/
inductive WorkerRecord
  | status (record : StatusRecord)
  | signalChange (record : SignalChangeRecord)

/-- A `uint32_t` in a packed structure. -/
def uint32Bytes (number : UInt32) : List UInt8 :=
  Packed.numeral 4 number.toNat

/-- A `uint64_t` in a packed structure. -/
def uint64Bytes (number : UInt64) : List UInt8 :=
  Packed.numeral 8 number.toNat

/-- The fields of a status message, in their order. -/
def StatusRecord.fields (record : StatusRecord) : List (List UInt8) :=
  [uint32Bytes msgStatus, uint32Bytes record.payloadSize, uint32Bytes record.state,
    uint32Bytes record.frameWidth, uint32Bytes record.frameHeight,
    uint32Bytes record.frameRateNum, uint32Bytes record.frameRateDen,
    uint64Bytes record.framesProduced, uint64Bytes record.framesDropped,
    uint64Bytes record.framesConsumed, uint64Bytes record.framesEncoded,
    uint64Bytes record.bytesWritten, uint32Bytes record.encoderBitrate,
    uint32Bytes record.encoderQp, Packed.array record.errorMessage]

/-- The fields of a message about the signal, in their order. -/
def SignalChangeRecord.fields (record : SignalChangeRecord) : List (List UInt8) :=
  [uint32Bytes msgSignalChange, uint32Bytes record.payloadSize, Packed.array record.reason,
    uint32Bytes record.width, uint32Bytes record.height, uint32Bytes record.frameRateRaw,
    Packed.array record.colorSpace, uint32Bytes record.colorDepth,
    Packed.array record.hdrEotf, uint32Bytes record.dolbyVision,
    uint32Bytes record.interlace]

/-- The datagram of a message: `sbs_ipc_send_msg` sends the whole structure. -/
def WorkerRecord.bytes : WorkerRecord → List UInt8
  | .status record => record.fields.flatten
  | .signalChange record => record.fields.flatten

/-- A `uint32_t` at an offset. -/
def uint32At (offset : Nat) (bytes : List UInt8) : UInt32 :=
  .ofNat (Packed.numberAt offset 4 bytes)

/-- A `uint64_t` at an offset. -/
def uint64At (offset : Nat) (bytes : List UInt8) : UInt64 :=
  .ofNat (Packed.numberAt offset 8 bytes)

/-- What the bytes of a datagram say about its frame. -/
def datagramOf (bytes : List UInt8) : Datagram where
  size := bytes.length
  msgType := uint32At 0 bytes
  flags := uint32At 100 bytes
  sequence := uint64At 32 bytes
  descriptors := 0

/-- `sizeof(msg_buf)` in `on_frame_available`. -/
def msgBufSize : Nat := 512

/-- `msg_buf` after `sbs_ipc_recv_frame2` received a datagram. -/
def msgBuf (datagram : List UInt8) : List UInt8 :=
  Packed.cut videoFrameSize (msgBufSize - videoFrameSize) datagram

/-- What `on_frame_available` reads of a message. -/
inductive MessageWords
  | status (state : UInt32) (framesProduced framesDropped : UInt64) (errorMessage : CStr)
  | signalChange (change : SignalChangeMsg)
  deriving DecidableEq

/-- What `on_frame_available` reads of `msg_buf`, if it is a status message or one about the
signal. -/
def readWords (buffer : List UInt8) : Option MessageWords :=
  if uint32At 0 buffer = msgStatus then
    some (.status (uint32At 8 buffer) (uint64At 28 buffer) (uint64At 36 buffer)
      (Packed.textAt 76 buffer))
  else if uint32At 0 buffer = msgSignalChange then
    some (.signalChange
      { reason := Packed.textAt 8 buffer
        width := uint32At 72 buffer
        height := uint32At 76 buffer
        colorSpace := Packed.textAt 84 buffer
        colorDepth := uint32At 116 buffer
        hdrEotf := Packed.textAt 120 buffer })
  else none

/-- What the worker sent of that. -/
def WorkerRecord.words : WorkerRecord → MessageWords
  | .status record =>
      .status record.state record.framesProduced record.framesDropped record.errorMessage.text
  | .signalChange record =>
      .signalChange
        { reason := record.reason.text
          width := record.width
          height := record.height
          colorSpace := record.colorSpace.text
          colorDepth := record.colorDepth
          hdrEotf := record.hdrEotf.text }

theorem uint32At_flatten
    {fields : List (List UInt8)}
    {offset : Nat}
    {number : UInt32}
    (index : Nat)
    (starts : (fields.take index).flatten.length = offset)
    (present : fields[index]? = some (uint32Bytes number)) :
    uint32At offset fields.flatten = number := by
  rw [uint32At, Packed.numberAt_flatten index starts present number.toNat_lt]
  exact UInt32.ofNat_toNat

theorem uint64At_flatten
    {fields : List (List UInt8)}
    {offset : Nat}
    {number : UInt64}
    (index : Nat)
    (starts : (fields.take index).flatten.length = offset)
    (present : fields[index]? = some (uint64Bytes number)) :
    uint64At offset fields.flatten = number := by
  rw [uint64At, Packed.numberAt_flatten index starts present number.toNat_lt]
  exact UInt64.ofNat_toNat

@[simp] theorem length_uint32Bytes (number : UInt32) : (uint32Bytes number).length = 4 :=
  Packed.length_numeral 4 number.toNat

@[simp] theorem length_uint64Bytes (number : UInt64) : (uint64Bytes number).length = 8 :=
  Packed.length_numeral 8 number.toNat

theorem StatusRecord.length_bytes (record : StatusRecord) :
    record.fields.flatten.length = 332 := by
  simp [fields]

theorem SignalChangeRecord.length_bytes (record : SignalChangeRecord) :
    record.fields.flatten.length = 160 := by
  simp [fields]

theorem WorkerRecord.length_bytes (record : WorkerRecord) :
    videoFrameSize < record.bytes.length := by
  cases record with
  | status record =>
      rw [bytes, record.length_bytes]
      decide
  | signalChange record =>
      rw [bytes, record.length_bytes]
      decide

/-- Messages are longer than a frame, so a cut one passes for a frame. -/
theorem WorkerRecord.code_recvFrame2 (record : WorkerRecord) :
    (recvFrame2 (.datagram (datagramOf record.bytes)) []).code = .ok := by
  have longer : min record.bytes.length videoFrameSize = videoFrameSize :=
    Nat.min_eq_right (Nat.le_of_lt record.length_bytes)
  unfold recvFrame2 datagramOf
  dsimp only
  rw [longer]
  rfl

section Cut

variable {bytes : List UInt8} {offset : Nat}

theorem uint32At_msgBuf
    (ends : offset + 4 ≤ videoFrameSize)
    (enough : videoFrameSize ≤ bytes.length) :
    uint32At offset (msgBuf bytes) = uint32At offset bytes := by
  rw [uint32At, msgBuf, Packed.numberAt_cut ends enough]
  rfl

theorem uint64At_msgBuf
    (ends : offset + 8 ≤ videoFrameSize)
    (enough : videoFrameSize ≤ bytes.length) :
    uint64At offset (msgBuf bytes) = uint64At offset bytes := by
  rw [uint64At, msgBuf, Packed.numberAt_cut ends enough]
  rfl

theorem textAt_msgBuf
    (begins : offset ≤ videoFrameSize)
    (enough : videoFrameSize ≤ bytes.length) :
    Packed.textAt offset (msgBuf bytes) =
      cutText (videoFrameSize - offset) (Packed.textAt offset bytes) := by
  apply CStr.ext
  have nulFree : 0 ∉ (Packed.textAt offset bytes).bytes.take (videoFrameSize - offset) :=
    fun present => (Packed.textAt offset bytes).nulFree (List.mem_of_mem_take present)
  rw [msgBuf, Packed.bytes_textAt_cut begins enough, cutText, CStr.bytes_ofBytes nulFree]

end Cut

theorem cutText_eq_iff
    {kept : Nat}
    {text : CStr} :
    cutText kept text = text ↔ text.length ≤ kept := by
  have nulFree : 0 ∉ text.bytes.take kept :=
    fun present => text.nulFree (List.mem_of_mem_take present)
  rw [CStr.ext_iff, cutText, CStr.bytes_ofBytes nulFree]
  exact List.take_eq_self_iff _

theorem StatusRecord.readWords_msgBuf (record : StatusRecord) :
    readWords (msgBuf record.fields.flatten) =
      some (.status record.state record.framesProduced record.framesDropped
        (cutText 52 record.errorMessage.text)) := by
  have enough : videoFrameSize ≤ record.fields.flatten.length := by
    rw [record.length_bytes]
    decide
  have type : uint32At 0 record.fields.flatten = msgStatus :=
    uint32At_flatten 0 rfl rfl
  have state : uint32At 8 record.fields.flatten = record.state :=
    uint32At_flatten 2 (by simp [fields]) rfl
  have produced : uint64At 28 record.fields.flatten = record.framesProduced :=
    uint64At_flatten 7 (by simp [fields]) rfl
  have dropped : uint64At 36 record.fields.flatten = record.framesDropped :=
    uint64At_flatten 8 (by simp [fields]) rfl
  have error : Packed.textAt 76 record.fields.flatten = record.errorMessage.text :=
    Packed.textAt_flatten 14 (by simp [fields]) rfl
  unfold readWords
  rw [uint32At_msgBuf (by decide) enough, type, if_pos rfl,
    uint32At_msgBuf (by decide) enough, uint64At_msgBuf (by decide) enough,
    uint64At_msgBuf (by decide) enough, textAt_msgBuf (by decide) enough, state, produced,
    dropped, error]
  rfl

theorem SignalChangeRecord.readWords_msgBuf (record : SignalChangeRecord) :
    readWords (msgBuf record.fields.flatten) =
      some (.signalChange
        { reason := record.reason.text
          width := record.width
          height := record.height
          colorSpace := record.colorSpace.text
          colorDepth := record.colorDepth
          hdrEotf := cutText 8 record.hdrEotf.text }) := by
  have enough : videoFrameSize ≤ record.fields.flatten.length := by
    rw [record.length_bytes]
    decide
  have type : uint32At 0 record.fields.flatten = msgSignalChange :=
    uint32At_flatten 0 rfl rfl
  have reason : Packed.textAt 8 record.fields.flatten = record.reason.text :=
    Packed.textAt_flatten 2 (by simp [fields]) rfl
  have width : uint32At 72 record.fields.flatten = record.width :=
    uint32At_flatten 3 (by simp [fields]) rfl
  have height : uint32At 76 record.fields.flatten = record.height :=
    uint32At_flatten 4 (by simp [fields]) rfl
  have colorSpace : Packed.textAt 84 record.fields.flatten = record.colorSpace.text :=
    Packed.textAt_flatten 6 (by simp [fields]) rfl
  have colorDepth : uint32At 116 record.fields.flatten = record.colorDepth :=
    uint32At_flatten 7 (by simp [fields]) rfl
  have hdrEotf : Packed.textAt 120 record.fields.flatten = record.hdrEotf.text :=
    Packed.textAt_flatten 8 (by simp [fields]) rfl
  have wholeReason : cutText (videoFrameSize - 8) record.reason.text = record.reason.text :=
    cutText_eq_iff.mpr (record.reason.fits.le.trans (by decide))
  have wholeSpace : cutText (videoFrameSize - 84) record.colorSpace.text =
      record.colorSpace.text :=
    cutText_eq_iff.mpr (record.colorSpace.fits.le.trans (by decide))
  unfold readWords
  rw [uint32At_msgBuf (by decide) enough, type, if_neg (by decide), if_pos rfl,
    uint32At_msgBuf (by decide) enough, uint32At_msgBuf (by decide) enough,
    uint32At_msgBuf (by decide) enough, textAt_msgBuf (by decide) enough,
    textAt_msgBuf (by decide) enough, textAt_msgBuf (by decide) enough, reason, width, height,
    colorSpace, colorDepth, hdrEotf, wholeReason, wholeSpace]
  rfl

/-- The message of the model of a connection. -/
def MessageWords.message : MessageWords → WorkerMessage
  | .status state _ _ errorMessage => .status state errorMessage
  | .signalChange change => .signalChange change

/-- The bytes and the messages of the model of a connection. -/
theorem WorkerRecord.message_readWords (record : WorkerRecord) :
    (readWords (msgBuf record.bytes)).map MessageWords.message =
      some record.words.message.received := by
  cases record with
  | status record =>
      rw [bytes, record.readWords_msgBuf]
      rfl
  | signalChange record =>
      rw [bytes, record.readWords_msgBuf]
      rfl

/-- The text that a frame has no room for ends before its end: that of an error begins at byte
76, and that of a transfer function at byte 120. -/
def WorkerRecord.FitsFrame : WorkerRecord → Prop
  | .status record => record.errorMessage.text.length ≤ 52
  | .signalChange record => record.hdrEotf.text.length ≤ 8

theorem words_arrive (record : WorkerRecord) :
    (recvFrame2 (.datagram (datagramOf record.bytes)) []).code = .ok ∧
      (readWords (msgBuf record.bytes) = some record.words ↔ record.FitsFrame) := by
  refine ⟨record.code_recvFrame2, ?_⟩
  cases record with
  | status record =>
      rw [WorkerRecord.bytes, record.readWords_msgBuf, WorkerRecord.words, Option.some_inj,
        MessageWords.status.injEq]
      simp only [true_and]
      exact cutText_eq_iff
  | signalChange record =>
      rw [WorkerRecord.bytes, record.readWords_msgBuf, WorkerRecord.words, Option.some_inj,
        MessageWords.signalChange.injEq, SignalChangeMsg.mk.injEq]
      simp only [true_and]
      exact cutText_eq_iff

/-- A worker that ends with an error of the device. -/
def deviceError : WorkerRecord :=
  .status
    { payloadSize := 324
      state := workerStateError
      frameWidth := 0
      frameHeight := 0
      frameRateNum := 0
      frameRateDen := 0
      framesProduced := 0
      framesDropped := 0
      framesConsumed := 0
      framesEncoded := 0
      bytesWritten := 0
      encoderBitrate := 0
      encoderQp := 0
      errorMessage := .strlcpy 256 "Could not open device '/dev/video0' for reading and writing." }

/-- The error that the supervisor stores ends after 52 bytes. -/
theorem deviceError_cut :
    readWords (msgBuf deviceError.bytes) =
        some (.status workerStateError 0 0
          "Could not open device '/dev/video0' for reading and ") ∧
      readWords (msgBuf deviceError.bytes) ≠ some deviceError.words := by
  decide +kernel

end Supervisor
end SbsServer
