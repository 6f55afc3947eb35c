import SbsServer.CLib.Str
import SbsServer.CLib.Wire

/-!
# Text messages over a WebSocket

A message of a client comes in frames, each with its own mask and its length in one of
three forms.  A message to a client goes out in one frame without a mask.
-/

namespace SbsServer
namespace Api
namespace WebSocket

open CLib

/-- `WS_MAX_TEXT_PAYLOAD` -/
def wsMaxTextPayload : UInt64 :=
  192 * 1024 * 1024

/-- `G_MAXSIZE` -/
def gMaxSize : UInt64 :=
  0xffffffffffffffff

/-- The header that `build_ws_frame` writes for a payload of a length. -/
def wsHeader (len : UInt64) : List UInt8 :=
  if len < 126 then [0x81, len.toUInt8]
  else if len ≤ 0xffff then [0x81, 126, (len >>> 8).toUInt8, len.toUInt8]
  else [0x81, 127, (len >>> 56).toUInt8, (len >>> 48).toUInt8, (len >>> 40).toUInt8,
    (len >>> 32).toUInt8, (len >>> 24).toUInt8, (len >>> 16).toUInt8, (len >>> 8).toUInt8,
    len.toUInt8]

/-- The bytes of a payload, which may be NULL. -/
def payloadBytes (payload : Option CStr) : List UInt8 :=
  (payload.map CStr.bytes).getD []

/-- `build_ws_frame`, whose array appends as many bytes as a `guint` says. -/
def buildWsFrame (payload : Option CStr) : List UInt8 :=
  let len := UInt64.ofNat (payloadBytes payload).length
  wsHeader len ++ (payloadBytes payload).take len.toUInt32.toNat

/-- `recv_exact` -/
def recvExact (socket : Socket) (len : Nat) : Option (List UInt8 × Socket) :=
  socket.receive len

/-- The length of a payload, of which the second byte of the header has the first bits. -/
def readPayloadLen
    (second : UInt8)
    (socket : Socket) : Option (UInt64 × Socket) :=
  let payloadLen := second &&& 0x7f
  if payloadLen = 126 then do
    let (ext, socket) ← recvExact socket 2
    return ((ext.getD 0 0).toUInt64 <<< 8 ||| (ext.getD 1 0).toUInt64, socket)
  else if payloadLen = 127 then do
    let (ext, socket) ← recvExact socket 8
    return (ext.foldl (fun payloadLen byte => payloadLen <<< 8 ||| byte.toUInt64) 0, socket)
  else some (payloadLen.toUInt64, socket)

/-- What `read_ws_text_frame` keeps between two frames. -/
structure Reader where
  /-- The array of the message, if there is one. -/
  message : Option (List UInt8)
  started : Bool

/-- A frame of a message. -/
structure ReadFrame where
  fin : Bool
  /-- The message with the payload of the frame. -/
  message : List UInt8

/-- The body of the loop of `read_ws_text_frame`; it returns NULL if there is no frame. -/
def readFrame
    (reader : Reader)
    (socket : Socket) : Option (ReadFrame × Socket) := do
  let (hdr, socket) ← recvExact socket 2
  let opcode := hdr.getD 0 0 &&& 0x0f
  guard (opcode ≠ 0x8)
  guard (opcode = 0x1 ∨ opcode = 0x0)
  guard (¬((opcode = 0x1 ∧ reader.started = true) ∨ (opcode = 0x0 ∧ reader.started = false)))
  let message := if opcode = 0x1 then some [] else reader.message
  let (payloadLen, socket) ← readPayloadLen (hdr.getD 1 0) socket
  let message ← message
  guard (payloadLen ≤ wsMaxTextPayload ∧
    (UInt32.ofNat message.length).toUInt64 ≤ wsMaxTextPayload - payloadLen ∧
      payloadLen ≤ gMaxSize)
  guard (hdr.getD 1 0 &&& 0x80 ≠ 0)
  let (mask, socket) ← recvExact socket 4
  let (payload, socket) ← recvExact socket payloadLen.toNat
  return (⟨decide (hdr.getD 0 0 &&& 0x80 ≠ 0),
    message ++ (applyMask mask payload).take payloadLen.toUInt32.toNat⟩, socket)

theorem readPayloadLen_size
    {second : UInt8}
    {socket after : Socket}
    {len : UInt64}
    (read : readPayloadLen second socket = some (len, after)) :
    after.size ≤ socket.size := by
  unfold readPayloadLen at read
  dsimp only at read
  split at read
  next =>
    obtain ⟨⟨ext, left⟩, received, same⟩ := Option.bind_eq_some_iff.mp read
    cases same
    have inLength := (Socket.receive_size received).1
    dsimp only
    omega
  next =>
    split at read
    next =>
      obtain ⟨⟨ext, left⟩, received, same⟩ := Option.bind_eq_some_iff.mp read
      cases same
      have inLength := (Socket.receive_size received).1
      dsimp only
      omega
    next =>
      cases read
      exact Nat.le_refl _

/-- A frame takes at least its header. -/
theorem readFrame_size
    {reader : Reader}
    {socket after : Socket}
    {frame : ReadFrame}
    (read : readFrame reader socket = some (frame, after)) :
    after.size < socket.size := by
  unfold readFrame at read
  simp only [Option.bind_eq_bind, Option.bind_eq_some_iff] at read
  obtain ⟨⟨hdr, first⟩, header, _, _, _, _, _, _, ⟨len, second⟩, length, message, _, _, _, _, _,
    ⟨mask, third⟩, masked, ⟨payload, fourth⟩, received, same⟩ := read
  cases same
  have inHeader := (Socket.receive_size header).1
  have inLength := readPayloadLen_size length
  have inMask := (Socket.receive_size masked).1
  have inPayload := (Socket.receive_size received).1
  dsimp only at inHeader inLength inMask inPayload ⊢
  omega

/-- The loop of `read_ws_text_frame`. -/
def readFrames
    (reader : Reader)
    (socket : Socket) : Option (List UInt8 × Socket) :=
  match read : readFrame reader socket with
  | none => none
  | some (frame, after) =>
      if frame.fin then some (frame.message ++ [0], after)
      else readFrames ⟨some frame.message, true⟩ after
termination_by socket.size
decreasing_by exact readFrame_size read

/-- `read_ws_text_frame`: the array that it returns and what is left of the socket. -/
def readWsTextFrame (socket : Socket) : Option (List UInt8 × Socket) :=
  readFrames ⟨none, false⟩ socket

/-- The forms in which a header can give a length. -/
inductive LengthForm
  | short
  | medium
  | long
  deriving DecidableEq

/-- The lengths that a form can give. -/
def LengthForm.Fits (form : LengthForm) (length : Nat) : Prop :=
  match form with
  | .short => length < 126
  | .medium => length < 2 ^ 16
  | .long => length < 2 ^ 64

instance (form : LengthForm) (length : Nat) : Decidable (form.Fits length) := by
  cases form <;> exact Nat.decLt _ _

/-- The last seven bits of the second byte of a header. -/
def LengthForm.code (form : LengthForm) (length : Nat) : UInt8 :=
  match form with
  | .short => UInt8.ofNat length
  | .medium => 126
  | .long => 127

/-- The bytes of a length that follow the header. -/
def LengthForm.extension (form : LengthForm) (length : Nat) : List UInt8 :=
  match form with
  | .short => []
  | .medium => bigEndian 2 length
  | .long => bigEndian 8 length

/-- A piece of a message with what the client chose to send it. -/
structure Fragment where
  payload : List UInt8
  /-- The mask, of four bytes. -/
  mask : List UInt8
  masks : mask.length = 4
  form : LengthForm
  fits : form.Fits payload.length

/-- The frame of a fragment. -/
def Fragment.frame
    (fragment : Fragment)
    (opcode : UInt8)
    (fin : Bool) : List UInt8 :=
  [(if fin then 0x80 else 0) ||| opcode, 0x80 ||| fragment.form.code fragment.payload.length] ++
    fragment.form.extension fragment.payload.length ++ fragment.mask ++
      applyMask fragment.mask fragment.payload

/-- The frames that follow the first, the last of which ends the message. -/
def frames (opcode : UInt8) : Fragment → List Fragment → List UInt8
  | last, [] => last.frame opcode true
  | fragment, next :: rest => fragment.frame opcode false ++ frames 0 next rest

/-- The frames of a message: a text frame and continuation frames. -/
def clientMessage
    (first : Fragment)
    (rest : List Fragment) : List UInt8 :=
  frames 1 first rest

/-! ## Lengths -/

theorem toNat_shiftLeft_or
    (len : UInt64)
    (byte : UInt8) :
    (len <<< 8 ||| byte.toUInt64).toNat = (256 * len.toNat + byte.toNat) % 2 ^ 64 := by
  have small : byte.toNat < 2 ^ 8 := byte.toNat_lt
  have shifted : (len <<< 8).toNat = (len.toNat % 2 ^ 56) <<< 8 := by
    rw [UInt64.toNat_shiftLeft]
    simp only [UInt64.reduceToNat, Nat.reduceMod, Nat.shiftLeft_eq]
    omega
  rw [UInt64.toNat_or, UInt8.toNat_toUInt64, shifted, ← Nat.shiftLeft_add_eq_or_of_lt small,
    Nat.shiftLeft_eq]
  omega

/-- The bytes of a length are read as a number. -/
theorem toNat_foldl_shiftLeft
    (bytes : List UInt8)
    (len : UInt64) :
    (bytes.foldl (fun (len : UInt64) byte => len <<< 8 ||| byte.toUInt64) len).toNat =
      readBigEndian len.toNat bytes % 2 ^ 64 := by
  induction bytes generalizing len with
  | nil => exact (Nat.mod_eq_of_lt len.toNat_lt).symm
  | cons byte bytes ih =>
      rw [List.foldl_cons, ih, toNat_shiftLeft_or, readBigEndian_mod,
        readBigEndian_cons]

/-- The bit of the mask does not count for the length. -/
theorem code_and
    {form : LengthForm}
    {length : Nat}
    (fits : form.Fits length) :
    form.code length &&& 0x7f = form.code length ∧
      (0x80 ||| form.code length) &&& 0x7f = form.code length ∧
        (0x80 ||| form.code length) &&& 0x80 ≠ 0 := by
  have short : ∀ length < 126, UInt8.ofNat length &&& 0x7f = UInt8.ofNat length ∧
      (0x80 ||| UInt8.ofNat length) &&& 0x7f = UInt8.ofNat length ∧
        (0x80 ||| UInt8.ofNat length) &&& 0x80 ≠ 0 := by
    decide +kernel
  cases form with
  | short => exact short length fits
  | medium =>
      simp only [LengthForm.code]
      decide
  | long =>
      simp only [LengthForm.code]
      decide

/-- A length is read in the form in which it was sent. -/
theorem readPayloadLen_extension
    {form : LengthForm}
    {length : Nat}
    {second : UInt8}
    {socket : Socket}
    {rest : List UInt8}
    (fits : form.Fits length)
    (coded : second &&& 0x7f = form.code length)
    (delivers : socket.delivered = form.extension length ++ rest) :
    ∃ after, readPayloadLen second socket = some (UInt64.ofNat length, after) ∧
      after.delivered = rest := by
  unfold readPayloadLen recvExact
  rw [coded]
  cases form with
  | short =>
      have isShort : UInt8.ofNat length ≠ 126 ∧ UInt8.ofNat length ≠ 127 ∧
          (UInt8.ofNat length).toUInt64 = UInt64.ofNat length := by
        have all : ∀ length < 126, UInt8.ofNat length ≠ 126 ∧ UInt8.ofNat length ≠ 127 ∧
            (UInt8.ofNat length).toUInt64 = UInt64.ofNat length := by
          decide +kernel
        exact all length fits
      refine ⟨socket, ?_, delivers⟩
      simp [LengthForm.code, isShort]
  | medium =>
      obtain ⟨after, received, left⟩ := Socket.receive_delivered delivers
      rw [LengthForm.extension, length_bigEndian] at received
      refine ⟨after, ?_, left⟩
      have fitsMedium : length < 2 ^ 16 := fits
      have read : (UInt8.ofNat (length / 256)).toUInt64 <<< 8 ||| (UInt8.ofNat length).toUInt64 =
          UInt64.ofNat length := by
        rw [← UInt64.toNat_inj, toNat_shiftLeft_or, UInt8.toNat_toUInt64, UInt8.toNat_ofNat',
          UInt8.toNat_ofNat', UInt64.toNat_ofNat']
        omega
      simp [LengthForm.code, received, bigEndian, read]
  | long =>
      obtain ⟨after, received, left⟩ := Socket.receive_delivered delivers
      rw [LengthForm.extension, length_bigEndian] at received
      refine ⟨after, ?_, left⟩
      have fitsLong : length < 2 ^ 64 := fits
      have read : (bigEndian 8 length).foldl
          (fun (len : UInt64) byte => len <<< 8 ||| byte.toUInt64) 0 = UInt64.ofNat length := by
        rw [← UInt64.toNat_inj, toNat_foldl_shiftLeft, readBigEndian_bigEndian, UInt64.toNat_ofNat]
        simp
      simp [LengthForm.code, received, read]

/-- A payload that is not too long for its message. -/
theorem payload_fits
    {message payload : List UInt8}
    (bound : message.length + payload.length ≤ wsMaxTextPayload.toNat) :
    (UInt64.ofNat payload.length).toNat = payload.length ∧
      (UInt64.ofNat payload.length).toUInt32.toNat = payload.length ∧
        UInt64.ofNat payload.length ≤ wsMaxTextPayload ∧
          (UInt32.ofNat message.length).toUInt64 ≤
            wsMaxTextPayload - UInt64.ofNat payload.length ∧
          UInt64.ofNat payload.length ≤ gMaxSize := by
  have limit : wsMaxTextPayload.toNat = 201326592 := by decide
  have most : gMaxSize.toNat = 18446744073709551615 := by decide
  rw [limit] at bound
  have length : (UInt64.ofNat payload.length).toNat = payload.length := by
    rw [UInt64.toNat_ofNat', Nat.mod_eq_of_lt (by omega)]
  have fits : UInt64.ofNat payload.length ≤ wsMaxTextPayload := by
    rw [UInt64.le_iff_toNat_le, length, limit]
    omega
  refine ⟨length, ?_, fits, ?_, ?_⟩
  · rw [UInt64.toNat_toUInt32, length, Nat.mod_eq_of_lt (by omega)]
  · rw [UInt64.le_iff_toNat_le, UInt64.toNat_sub_of_le _ _ fits, UInt32.toNat_toUInt64, limit,
      length, UInt32.toNat_ofNat', Nat.mod_eq_of_lt (by omega)]
    omega
  · rw [UInt64.le_iff_toNat_le, length, most]
    omega

/-- The first byte of a frame that belongs to a text message. -/
theorem first_and
    {opcode : UInt8}
    {started : Bool}
    (expected : (opcode = 1 ∧ started = false) ∨ (opcode = 0 ∧ started = true))
    (fin : Bool) :
    let first := (if fin then 0x80 else 0) ||| opcode
    first &&& 0x0f = opcode ∧ opcode ≠ 0x8 ∧ (opcode = 0x1 ∨ opcode = 0x0) ∧
      ¬((opcode = 0x1 ∧ started = true) ∨ (opcode = 0x0 ∧ started = false)) ∧
        decide (first &&& 0x80 ≠ 0) = fin := by
  obtain ⟨rfl, rfl⟩ | ⟨rfl, rfl⟩ := expected
  · cases fin <;> decide
  · cases fin <;> decide

theorem guard_eq_some
    {condition : Prop}
    [Decidable condition]
    (holds : condition) :
    (guard condition : Option Unit) = some () :=
  if_pos holds

/-- A frame that comes when it is expected is read with its payload. -/
theorem readFrame_frame
    {fragment : Fragment}
    {opcode : UInt8}
    {fin : Bool}
    {reader : Reader}
    {message rest : List UInt8}
    {socket : Socket}
    (expected : (opcode = 1 ∧ reader.started = false) ∨ (opcode = 0 ∧ reader.started = true))
    (isMessage : (if opcode = 1 then some [] else reader.message) = some message)
    (bound : message.length + fragment.payload.length ≤ wsMaxTextPayload.toNat)
    (delivers : socket.delivered = fragment.frame opcode fin ++ rest) :
    ∃ after, readFrame reader socket = some (⟨fin, message ++ fragment.payload⟩, after) ∧
      after.delivered = rest := by
  unfold Fragment.frame at delivers
  simp only [List.append_assoc] at delivers
  obtain ⟨first, header, delivers⟩ := Socket.receive_delivered delivers
  obtain ⟨-, coded, masked⟩ := code_and fragment.fits
  obtain ⟨second, length, delivers⟩ := readPayloadLen_extension fragment.fits coded delivers
  obtain ⟨third, mask, delivers⟩ := Socket.receive_delivered delivers
  obtain ⟨fourth, payload, delivers⟩ := Socket.receive_delivered delivers
  rw [length_applyMask] at payload
  rw [fragment.masks] at mask
  refine ⟨fourth, ?_, delivers⟩
  obtain ⟨isOpcode, notClose, isText, inOrder, isFin⟩ := first_and expected fin
  obtain ⟨wide, narrow, fits⟩ := payload_fits bound
  have isHeader : Socket.receive 2 socket = some ([(if fin then 0x80 else 0) ||| opcode,
      0x80 ||| fragment.form.code fragment.payload.length], first) := header
  unfold readFrame recvExact
  simp only [isHeader, Option.bind_eq_bind, Option.bind_some, List.getD_cons_zero,
    List.getD_cons_succ, isOpcode, guard_eq_some notClose, guard_eq_some isText,
    guard_eq_some inOrder, length, isMessage, guard_eq_some fits, guard_eq_some masked, mask, wide,
    payload, isFin, narrow, applyMask_applyMask, List.take_length]
  rfl

/-- The frames that are left complete the message. -/
theorem readFrames_frames
    {fragment : Fragment}
    {later : List Fragment}
    {opcode : UInt8}
    {reader : Reader}
    {message rest : List UInt8}
    {socket : Socket}
    (expected : (opcode = 1 ∧ reader.started = false) ∨ (opcode = 0 ∧ reader.started = true))
    (isMessage : (if opcode = 1 then some [] else reader.message) = some message)
    (bound : message.length + ((fragment :: later).flatMap Fragment.payload).length ≤
      wsMaxTextPayload.toNat)
    (delivers : socket.delivered = frames opcode fragment later ++ rest) :
    ∃ after, readFrames reader socket =
        some (message ++ (fragment :: later).flatMap Fragment.payload ++ [0], after) ∧
      after.delivered = rest := by
  induction later generalizing fragment opcode reader message socket with
  | nil =>
      rw [List.flatMap_singleton] at bound ⊢
      obtain ⟨after, read, left⟩ := readFrame_frame expected isMessage bound delivers
      refine ⟨after, ?_, left⟩
      rw [readFrames]
      split
      next failed => cases failed.symm.trans read
      next found =>
        cases found.symm.trans read
        rfl
  | cons next later ih =>
      rw [List.flatMap_cons, List.length_append] at bound
      rw [frames, List.append_assoc] at delivers
      obtain ⟨after, read, left⟩ := readFrame_frame expected isMessage (by omega) delivers
      obtain ⟨final, completed, remains⟩ := @ih next 0
        ⟨some (message ++ fragment.payload), true⟩ (message ++ fragment.payload) after
        (.inr ⟨rfl, rfl⟩) rfl (by rw [List.length_append]; omega) left
      refine ⟨final, ?_, remains⟩
      rw [readFrames]
      split
      next failed => cases failed.symm.trans read
      next found =>
        cases found.symm.trans read
        rw [List.flatMap_cons, ← List.append_assoc]
        exact completed

/-- The form that `build_ws_frame` chooses. -/
def chosenForm (len : UInt64) : LengthForm :=
  if len < 126 then .short else if len ≤ 0xffff then .medium else .long

theorem toUInt8_shiftRight
    (len shift : UInt64)
    (small : shift.toNat < 64) :
    (len >>> shift).toUInt8 = UInt8.ofNat (len.toNat / 2 ^ shift.toNat) := by
  rw [← UInt8.toNat_inj, UInt64.toNat_toUInt8, UInt64.toNat_shiftRight, UInt8.toNat_ofNat',
    Nat.shiftRight_eq_div_pow, Nat.mod_eq_of_lt small]

/-- The header gives the length in the form that is chosen. -/
theorem wsHeader_eq (len : UInt64) :
    (chosenForm len).Fits len.toNat ∧
      wsHeader len =
        0x81 :: (chosenForm len).code len.toNat :: (chosenForm len).extension len.toNat := by
  have byte : len.toUInt8 = UInt8.ofNat len.toNat := by
    rw [← UInt8.toNat_inj, UInt64.toNat_toUInt8, UInt8.toNat_ofNat']
  unfold wsHeader chosenForm
  split
  next short =>
    refine ⟨UInt64.lt_iff_toNat_lt.mp short, ?_⟩
    rw [byte]
    rfl
  next =>
    split
    next medium =>
      have bound : len.toNat ≤ 0xffff := UInt64.le_iff_toNat_le.mp medium
      refine ⟨Nat.lt_succ_of_le bound, ?_⟩
      rw [byte, toUInt8_shiftRight len 8 (by decide)]
      simp [LengthForm.code, LengthForm.extension, bigEndian]
    next =>
      refine ⟨len.toNat_lt, ?_⟩
      rw [byte, toUInt8_shiftRight len 56 (by decide), toUInt8_shiftRight len 48 (by decide),
        toUInt8_shiftRight len 40 (by decide), toUInt8_shiftRight len 32 (by decide),
        toUInt8_shiftRight len 24 (by decide), toUInt8_shiftRight len 16 (by decide),
        toUInt8_shiftRight len 8 (by decide)]
      simp [LengthForm.code, LengthForm.extension, bigEndian]

/-- What `read_ws_text_frame` and `build_ws_frame` agree on: a message in frames is read back
whole and nothing else is read, and the header of an answer gives the length of its payload. -/
theorem ws_codec :
    (∀ (first : Fragment) (rest : List Fragment) (socket : Socket) (more : List UInt8),
      ((first :: rest).flatMap Fragment.payload).length ≤ wsMaxTextPayload.toNat →
      socket.delivered = clientMessage first rest ++ more →
        ∃ after, readWsTextFrame socket =
            some ((first :: rest).flatMap Fragment.payload ++ [0], after) ∧
          after.delivered = more) ∧
      ∀ payload : Option CStr, (payloadBytes payload).length < 2 ^ 64 →
        ∃ second coded, buildWsFrame payload = 0x81 :: second :: coded ∧
          ∀ socket : Socket, socket.delivered = coded →
            ∃ len after, readPayloadLen second socket = some (len, after) ∧
              len.toNat = (payloadBytes payload).length ∧
              after.delivered = (payloadBytes payload).take (len.toNat % 2 ^ 32) := by
  constructor
  · intro first rest socket more bound delivers
    exact readFrames_frames (.inl ⟨rfl, rfl⟩) rfl (by simpa using bound) delivers
  · intro payload bound
    have length : (UInt64.ofNat (payloadBytes payload).length).toNat =
        (payloadBytes payload).length := by
      rw [UInt64.toNat_ofNat', Nat.mod_eq_of_lt bound]
    obtain ⟨fits, header⟩ := wsHeader_eq (UInt64.ofNat (payloadBytes payload).length)
    refine ⟨_, _, congrArg (· ++ _) header, fun socket delivers => ?_⟩
    obtain ⟨after, read, left⟩ := readPayloadLen_extension fits (code_and fits).1 delivers
    refine ⟨_, after, read, ?_, ?_⟩
    · rw [length, length]
    · rw [left, UInt64.toNat_toUInt32, length, length]

/-- A message in two frames of different forms, cut into chunks, and an answer. -/
theorem ws_codec_twoFrames :
    (∃ after, readWsTextFrame [.chunk [0x01, 0x82, 1, 2], .again, .chunk [3, 4, 0x69, 0x6b, 0x80],
          .chunk [0xfe, 0, 1, 0, 0, 0, 0, 0x21, 0x81]] = some ([0x68, 0x69, 0x21, 0], after) ∧
        after.delivered = [0x81]) ∧
      ∃ second coded, buildWsFrame (some "ok") = 0x81 :: second :: coded ∧
        ∀ socket : Socket, socket.delivered = coded →
          ∃ len after, readPayloadLen second socket = some (len, after) ∧
            len.toNat = 2 ∧
              after.delivered = (payloadBytes (some "ok")).take (len.toNat % 2 ^ 32) :=
  ⟨ws_codec.1 { payload := [0x68, 0x69], mask := [1, 2, 3, 4], masks := rfl, form := .short
                fits := by decide }
      [{ payload := [0x21], mask := [0, 0, 0, 0], masks := rfl, form := .medium
         fits := by decide }] _ [0x81] (by decide) (by decide),
    ws_codec.2 (some "ok") (by decide)⟩

end WebSocket
end Api
end SbsServer
