import Mathlib.Data.List.Basic

/-!
# Packets in a stream

A stream of symbols that is cut into packets of one size.  `scan` finds the
packets that start at a sync symbol and skips what lies between them; `groups`
cuts a sequence into full groups.  Both may be computed piece by piece, if what
is left over is put before the next piece.
-/

namespace CLib

variable {Symbol : Type}

/-- How packets are found in a stream. -/
structure Framing (Symbol : Type) where
  /-- The symbol at which a packet starts. -/
  sync : Symbol
  /-- The number of symbols of a packet. -/
  size : Nat
  positive : 0 < size

namespace Framing

variable [DecidableEq Symbol]

/-- The packets of a stream and the symbols of an unfinished packet. -/
def scan (framing : Framing Symbol) :
    List Symbol → List (List Symbol) × List Symbol
  | [] => ([], [])
  | symbol :: rest =>
      if symbol = framing.sync then
        if framing.size ≤ rest.length + 1 then
          let later := scan framing ((symbol :: rest).drop framing.size)
          ((symbol :: rest).take framing.size :: later.1, later.2)
        else ([], symbol :: rest)
      else scan framing rest
termination_by stream => stream.length
decreasing_by
  · have positive := framing.positive
    simp only [List.length_drop, List.length_cons]
    omega
  · simp

variable {framing : Framing Symbol}

/-- The packets of a stream. -/
def packets
    (framing : Framing Symbol)
    (stream : List Symbol) : List (List Symbol) :=
  (framing.scan stream).1

/-- The unfinished packet at the end of a stream. -/
def unfinished
    (framing : Framing Symbol)
    (stream : List Symbol) : List Symbol :=
  (framing.scan stream).2

@[simp] theorem packets_nil : framing.packets [] = [] := by
  simp [packets, scan]

variable {rest : List Symbol}

/-- A symbol that is not the sync symbol is skipped. -/
theorem scan_skip
    {symbol : Symbol}
    (other : symbol ≠ framing.sync) :
    framing.scan (symbol :: rest) = framing.scan rest := by
  rw [scan]
  simp [other]

/-- A stream that starts at a sync symbol and is long enough has a first packet. -/
theorem scan_packet
    (enough : framing.size ≤ rest.length + 1) :
    framing.scan (framing.sync :: rest) =
      ((framing.sync :: rest).take framing.size ::
          (framing.scan ((framing.sync :: rest).drop framing.size)).1,
        (framing.scan ((framing.sync :: rest).drop framing.size)).2) := by
  rw [scan]
  simp [enough]

/-- A stream that starts at a sync symbol and is too short is unfinished. -/
theorem scan_short
    (short : rest.length + 1 < framing.size) :
    framing.scan (framing.sync :: rest) = ([], framing.sync :: rest) := by
  rw [scan]
  simp [Nat.not_le.mpr short]

/-- Symbols before the first sync symbol are skipped. -/
theorem scan_dropWhile (stream : List Symbol) :
    framing.scan (stream.dropWhile (· ≠ framing.sync)) = framing.scan stream := by
  induction stream with
  | nil => rfl
  | cons symbol rest ih =>
      by_cases isSync : symbol = framing.sync
      · simp [isSync]
      · rw [scan_skip isSync, ← ih]
        simp [isSync]

/-- A stream is scanned piece by piece. -/
theorem scan_append
    (stream later : List Symbol) :
    framing.scan (stream ++ later) =
      (framing.packets stream ++ framing.packets (framing.unfinished stream ++ later),
        framing.unfinished (framing.unfinished stream ++ later)) := by
  unfold packets unfinished
  induction stream using scan.induct framing with
  | case1 => simp [scan]
  | case2 rest enough ih =>
      have longer : framing.size ≤ (rest ++ later).length + 1 := by
        rw [List.length_append]
        omega
      rw [List.cons_append, scan_packet longer, scan_packet enough]
      rw [← List.cons_append, List.drop_append_of_le_length (by simpa using enough),
        List.take_append_of_le_length (by simpa using enough), ih]
      rfl
  | case3 rest short =>
      rw [scan_short (Nat.not_le.mp short)]
      simp
  | case4 symbol rest other ih =>
      rw [List.cons_append, scan_skip other, scan_skip other]
      exact ih

theorem packets_append
    (stream later : List Symbol) :
    framing.packets (stream ++ later) =
      framing.packets stream ++ framing.packets (framing.unfinished stream ++ later) := by
  rw [packets, scan_append]

theorem unfinished_append
    (stream later : List Symbol) :
    framing.unfinished (stream ++ later) =
      framing.unfinished (framing.unfinished stream ++ later) := by
  rw [unfinished, scan_append]

/-- Packets have the size of packets. -/
theorem length_of_mem_packets
    {stream packet : List Symbol}
    (isPacket : packet ∈ framing.packets stream) :
    packet.length = framing.size := by
  unfold packets at isPacket
  induction stream using scan.induct framing with
  | case1 => simp [scan] at isPacket
  | case2 rest enough ih =>
      rw [scan_packet enough, List.mem_cons] at isPacket
      obtain first | later := isPacket
      · rw [first, List.length_take]
        exact Nat.min_eq_left (by simpa using enough)
      · exact ih later
  | case3 rest short =>
      rw [scan_short (Nat.not_le.mp short)] at isPacket
      simp at isPacket
  | case4 symbol rest other ih =>
      rw [scan_skip other] at isPacket
      exact ih isPacket

/-- Less than a packet is left over, and has no packet. -/
theorem scan_unfinished
    {stream : List Symbol}
    (short : stream.length < framing.size) :
    framing.packets stream = [] := by
  unfold packets
  induction stream with
  | nil => simp [scan]
  | cons symbol rest ih =>
      by_cases isSync : symbol = framing.sync
      · rw [isSync, scan_short (by simpa using short)]
      · rw [scan_skip isSync]
        exact ih (by
          rw [List.length_cons] at short
          omega)

end Framing

namespace Groups

variable {Item : Type} {size : Nat}

/-- The full groups of a sequence and the items left over. -/
def cut (size : Nat) (items : List Item) : List (List Item) × List Item :=
  if 0 < size ∧ size ≤ items.length then
    let later := cut size (items.drop size)
    (items.take size :: later.1, later.2)
  else ([], items)
termination_by items.length
decreasing_by
  simp only [List.length_drop]
  omega

/-- The full groups. -/
def full (size : Nat) (items : List Item) : List (List Item) :=
  (cut size items).1

/-- The items left over. -/
def rest (size : Nat) (items : List Item) : List Item :=
  (cut size items).2

/-- A sequence with enough items has a first group. -/
theorem cut_group
    {items : List Item}
    (positive : 0 < size)
    (enough : size ≤ items.length) :
    cut size items =
      (items.take size :: full size (items.drop size), rest size (items.drop size)) := by
  rw [cut, if_pos ⟨positive, enough⟩]
  rfl

/-- A sequence with too few items is left over. -/
theorem cut_short
    {items : List Item}
    (short : items.length < size) :
    cut size items = ([], items) := by
  rw [cut, if_neg (by omega)]

/-- A sequence is cut piece by piece. -/
theorem cut_append
    (positive : 0 < size)
    (items later : List Item) :
    cut size (items ++ later) =
      (full size items ++ full size (rest size items ++ later),
        rest size (rest size items ++ later)) := by
  unfold full rest
  induction items using cut.induct size with
  | case1 items enough ih =>
      have longer : size ≤ (items ++ later).length := by
        rw [List.length_append]
        omega
      rw [cut_group positive longer, cut_group positive enough.2]
      rw [List.drop_append_of_le_length enough.2, List.take_append_of_le_length enough.2]
      unfold full rest
      rw [ih]
      rfl
  | case2 items short =>
      rw [cut_short (by omega : items.length < size)]
      rfl

theorem full_append
    (positive : 0 < size)
    (items later : List Item) :
    full size (items ++ later) =
      full size items ++ full size (rest size items ++ later) := by
  rw [full, cut_append positive]

theorem rest_append
    (positive : 0 < size)
    (items later : List Item) :
    rest size (items ++ later) = rest size (rest size items ++ later) := by
  rw [rest, cut_append positive]

/-- Cutting loses nothing. -/
theorem full_flatten_append_rest
    (items : List Item) :
    (full size items).flatten ++ rest size items = items := by
  unfold full rest
  induction items using cut.induct size with
  | case1 items enough ih =>
      rw [cut_group enough.1 enough.2]
      unfold full rest
      rw [List.flatten_cons, List.append_assoc, ih]
      exact List.take_append_drop size items
  | case2 items short =>
      rw [cut, if_neg short]
      rfl

/-- A full group has as many items as it should. -/
theorem length_of_mem_full
    {items group : List Item}
    (isGroup : group ∈ full size items) :
    group.length = size := by
  unfold full at isGroup
  induction items using cut.induct size with
  | case1 items enough ih =>
      rw [cut_group enough.1 enough.2, List.mem_cons] at isGroup
      obtain first | later := isGroup
      · rw [first, List.length_take]
        exact Nat.min_eq_left enough.2
      · exact ih later
  | case2 items short =>
      rw [cut, if_neg short] at isGroup
      simp at isGroup

end Groups
end CLib
