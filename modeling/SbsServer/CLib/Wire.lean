import Mathlib.Data.List.Basic
import Mathlib.Data.Nat.Bitwise
import Mathlib.Tactic.Ring

/-!
# Bytes on a wire

A stream socket hands out the bytes that were sent in chunks of any size, with calls in
between that have to be made again.  Numbers are sent with their first byte the most
significant one, and payloads under a mask that is undone by applying it again.
-/

namespace CLib

/-- What a call of `recv` on a stream socket meets. -/
inductive Arrival
  /-- The call is interrupted or would block. -/
  | again
  /-- The call fails. -/
  | failed
  /-- Bytes have arrived, or the end of the stream if there are none. -/
  | chunk (bytes : List UInt8)

/-- A stream socket, as all that its readers will meet. -/
abbrev Socket := List Arrival

namespace Socket

/-- The bytes that can still be read. -/
def delivered : Socket → List UInt8
  | [] => []
  | .again :: rest => delivered rest
  | .failed :: _ => []
  | .chunk [] :: _ => []
  | .chunk (byte :: bytes) :: rest => byte :: bytes ++ delivered rest

/-- The number of bytes in all chunks. -/
def size (socket : Socket) : Nat :=
  (socket.map fun
    | .chunk bytes => bytes.length
    | _ => 0).sum

/-- Reads until a number of bytes is there. -/
def receive : Nat → Socket → Option (List UInt8 × Socket)
  | 0, socket => some ([], socket)
  | _ + 1, [] => none
  | count + 1, .again :: rest => receive (count + 1) rest
  | _ + 1, .failed :: _ => none
  | _ + 1, .chunk [] :: _ => none
  | count + 1, .chunk (byte :: bytes) :: rest =>
      if bytes.length ≤ count then
        (receive (count - bytes.length) rest).map fun received =>
          (byte :: bytes ++ received.1, received.2)
      else some (byte :: bytes.take count, .chunk (bytes.drop count) :: rest)

/-- Bytes that are delivered are received, and no more than these. -/
theorem receive_delivered
    {socket : Socket}
    {bytes rest : List UInt8}
    (delivers : socket.delivered = bytes ++ rest) :
    ∃ after : Socket, receive bytes.length socket = some (bytes, after) ∧
      after.delivered = rest := by
  induction socket generalizing bytes with
  | nil =>
      obtain ⟨rfl, rfl⟩ := List.append_eq_nil_iff.mp delivers.symm
      exact ⟨[], rfl, rfl⟩
  | cons arrival later ih =>
      cases bytes with
      | nil => exact ⟨arrival :: later, rfl, delivers⟩
      | cons first others =>
          cases arrival with
          | again => exact ih delivers
          | failed => cases delivers
          | chunk chunk =>
              cases chunk with
              | nil => cases delivers
              | cons byte chunk =>
                  obtain ⟨rfl, same⟩ := List.cons.inj delivers
                  have more : chunk ++ delivered later = others ++ rest := same
                  rw [List.length_cons, receive]
                  split
                  next fits =>
                    obtain ⟨missing, rfl, left⟩ : ∃ missing, others = chunk ++ missing ∧
                        delivered later = missing ++ rest := by
                      obtain ⟨missing, split, left⟩ | ⟨missing, split, left⟩ :=
                        List.append_eq_append_iff.mp more
                      · exact ⟨missing, split, left⟩
                      · rw [split, List.length_append] at fits
                        have none : missing = [] := List.eq_nil_of_length_eq_zero (by omega)
                        rw [none, List.append_nil] at split
                        rw [none, List.nil_append] at left
                        exact ⟨[], by rw [split, List.append_nil], left.symm⟩
                    obtain ⟨after, received, delivers⟩ := ih left
                    refine ⟨after, ?_, delivers⟩
                    rw [List.length_append, Nat.add_sub_cancel_left, received]
                    rfl
                  next longer =>
                    have taken := congrArg (List.take others.length) more
                    have dropped := congrArg (List.drop others.length) more
                    rw [List.take_append_of_le_length (by omega), List.take_left] at taken
                    rw [List.drop_append_of_le_length (by omega), List.drop_left] at dropped
                    refine ⟨_, by rw [taken], ?_⟩
                    have remains : chunk.drop others.length ≠ [] := by
                      rw [ne_eq, List.drop_eq_nil_iff]
                      omega
                    obtain ⟨head, tail, isCons⟩ := List.exists_cons_of_ne_nil remains
                    rw [← dropped, isCons]
                    rfl

/-- What is received is taken from the chunks. -/
theorem receive_size
    {count : Nat}
    {socket after : Socket}
    {bytes : List UInt8}
    (received : receive count socket = some (bytes, after)) :
    after.size + count ≤ socket.size ∧ bytes.length = count := by
  induction socket generalizing count bytes with
  | nil =>
      cases count with
      | zero =>
          cases received
          exact ⟨Nat.le_refl _, rfl⟩
      | succ count => cases received
  | cons arrival later ih =>
      cases count with
      | zero =>
          cases received
          exact ⟨Nat.le_refl _, rfl⟩
      | succ count =>
          cases arrival with
          | again =>
              obtain ⟨bound, length⟩ := ih received
              refine ⟨?_, length⟩
              simpa [size] using bound
          | failed => cases received
          | chunk chunk =>
              cases chunk with
              | nil => cases received
              | cons byte chunk =>
                  unfold receive at received
                  split at received
                  next fits =>
                    obtain ⟨⟨bytes, after⟩, more, same⟩ := Option.map_eq_some_iff.mp received
                    cases same
                    obtain ⟨bound, length⟩ := ih more
                    simp only [size, List.map_cons, List.sum_cons, List.length_cons,
                      List.length_append] at bound length ⊢
                    omega
                  next longer =>
                    cases received
                    simp only [size, List.map_cons, List.sum_cons, List.length_cons,
                      List.length_drop, List.length_take]
                    omega

end Socket

/-- A number in a fixed number of bytes, the most significant one first. -/
def bigEndian : Nat → Nat → List UInt8
  | 0, _ => []
  | width + 1, number => UInt8.ofNat (number / 256 ^ width) :: bigEndian width number

@[simp] theorem length_bigEndian (width number : Nat) :
    (bigEndian width number).length = width := by
  induction width with
  | zero => rfl
  | succ width ih =>
      rw [bigEndian, List.length_cons, ih]

/-- A number with the bytes that follow. -/
def readBigEndian
    (start : Nat)
    (bytes : List UInt8) : Nat :=
  bytes.foldl (fun read byte => 256 * read + byte.toNat) start

@[simp] theorem readBigEndian_cons (start : Nat) (byte : UInt8) (bytes : List UInt8) :
    readBigEndian start (byte :: bytes) = readBigEndian (256 * start + byte.toNat) bytes :=
  rfl

/-- A number is read byte by byte. -/
theorem readBigEndian_bigEndian
    (start width number : Nat) :
    readBigEndian start (bigEndian width number) =
      start * 256 ^ width + number % 256 ^ width := by
  induction width generalizing start with
  | zero => simp [bigEndian, readBigEndian, Nat.mod_one]
  | succ width ih =>
      rw [bigEndian, readBigEndian_cons, ih]
      have byte : (UInt8.ofNat (number / 256 ^ width)).toNat = number / 256 ^ width % 256 :=
        UInt8.toNat_ofNat
      have split : number % 256 ^ (width + 1) =
          256 ^ width * (number / 256 ^ width % 256) + number % 256 ^ width := by
        rw [pow_succ, Nat.mod_mul, Nat.add_comm]
      rw [byte, split, pow_succ]
      ring

/-- Only the remainder of what was read counts for the remainder. -/
theorem readBigEndian_mod
    (start modulus : Nat)
    (bytes : List UInt8) :
    readBigEndian (start % modulus) bytes % modulus = readBigEndian start bytes % modulus := by
  induction bytes generalizing start with
  | nil => exact Nat.mod_mod _ _
  | cons byte bytes ih =>
      have same : (256 * (start % modulus) + byte.toNat) % modulus =
          (256 * start + byte.toNat) % modulus := by
        simp [Nat.add_mod, Nat.mul_mod]
      rw [readBigEndian_cons, readBigEndian_cons, ← ih, same, ih]

/-- Byte `i` under a mask that repeats every four bytes. -/
def applyMask
    (mask : List UInt8)
    (bytes : List UInt8) : List UInt8 :=
  bytes.mapIdx fun index byte => byte ^^^ mask.getD (index % 4) 0

@[simp] theorem length_applyMask (mask bytes : List UInt8) :
    (applyMask mask bytes).length = bytes.length :=
  List.length_mapIdx

/-- A mask is undone by applying it again. -/
theorem applyMask_applyMask (mask bytes : List UInt8) :
    applyMask mask (applyMask mask bytes) = bytes := by
  unfold applyMask
  refine List.ext_getElem (by simp) fun index _ _ => ?_
  rw [List.getElem_mapIdx, List.getElem_mapIdx, UInt8.xor_assoc, UInt8.xor_self, UInt8.xor_zero]

end CLib
