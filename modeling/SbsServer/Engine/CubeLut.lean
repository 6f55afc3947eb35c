import Mathlib.Algebra.Group.Defs
import SbsServer.CLib.Lines
import SbsServer.CLib.Numeral
import SbsServer.CLib.Str

/-!
# The parser of cube LUT files

`parse_cube_lut` reads a file with a buffer of 512 bytes, so a longer line comes in
pieces.  The conversion of numbers and their quantisation are given.
-/

namespace SbsServer
namespace Engine

open CLib

/-- `strtof` with its end pointer, and `unorm8`. -/
structure LutNumbers (Value : Type) where
  /-- The number at the head of a text and the text behind it, if there is one. -/
  strtof : List UInt8 → Option (Value × List UInt8)
  unorm8 : Value → UInt8

/-- Four bytes of a table. -/
structure LutEntry where
  red : UInt8
  green : UInt8
  blue : UInt8
  alpha : UInt8
  deriving DecidableEq

/-- An entry of `calloc`. -/
def LutEntry.zero : LutEntry where
  red := 0
  green := 0
  blue := 0
  alpha := 0

/-- `SBS_LUT_MAX_SIZE` -/
def lutMaxSize : UInt32 := 65

namespace CubeLut

/-- `trim_ascii` -/
def trimAscii (text : List UInt8) : List UInt8 :=
  (text.dropWhile isSpace).rdropWhile isSpace

/-- `strncmp` with all of a prefix. -/
def startsWith
    (name : CStr)
    (text : List UInt8) : Bool :=
  name.bytes.isPrefixOf text

/-- `sscanf` with the format `LUT_3D_SIZE %u`. -/
def scanSize (text : List UInt8) : Option UInt32 :=
  let name : CStr := "LUT_3D_SIZE"
  if startsWith name text then
    let number := text.drop name.bytes.length
    let digits := (Double.scanSign (number.dropWhile isSpace)).2
    if (Double.scanDigits 10 0 0 digits).2.1 = 0 then none
    else some (strtoul number).toUInt32
  else none

variable {Value : Type}

/-- The three numbers of a data line, quantised. -/
def scanTriple
    (numbers : LutNumbers Value)
    (text : List UInt8) : Option LutEntry := do
  let (red, text) ← numbers.strtof text
  let (green, text) ← numbers.strtof text
  let (blue, _) ← numbers.strtof text
  return {
    red := numbers.unorm8 red
    green := numbers.unorm8 green
    blue := numbers.unorm8 blue
    alpha := 255 }

/-- What a line says to the parser. -/
inductive CubeItem
  | skipped
  | size (size : UInt32)
  | entry (entry : LutEntry)
  deriving DecidableEq

/-- A line after `trim_ascii`. -/
def itemOfTrimmed
    (numbers : LutNumbers Value)
    (text : List UInt8) : CubeItem :=
  if text = [] ∨ text.head? = some 35 then .skipped
  else if startsWith "TITLE" text || startsWith "DOMAIN_MIN" text ||
      startsWith "DOMAIN_MAX" text then .skipped
  else
    match scanSize text with
    | some size => .size size
    | none =>
        match scanTriple numbers text with
        | some entry => .entry entry
        | none => .skipped

/-- A string that `fgets` has read. -/
def itemOf
    (numbers : LutNumbers Value)
    (text : List UInt8) : CubeItem :=
  itemOfTrimmed numbers (trimAscii text)

/-- The variables of `parse_cube_lut`. -/
structure CubeParser where
  data : Option (List LutEntry)
  size : UInt32
  count : UInt32
  expected : UInt32
  /-- How often `calloc` was called. -/
  allocations : Nat
  /-- A write has gone past the allocation. -/
  overrun : Bool
  deriving DecidableEq

namespace CubeParser

/-- The variables before the loop. -/
def start : CubeParser where
  data := none
  size := 0
  count := 0
  expected := 0
  allocations := 0
  overrun := false

/-- The loop body for a header. -/
def readSize
    (parser : CubeParser)
    (callocs : Nat → Bool)
    (size : UInt32) : Option CubeParser :=
  if size < 2 ∨ lutMaxSize < size then none
  else
    let expected := size * size * size
    if callocs parser.allocations then
      some { parser with
        size := size
        expected := expected
        data := some (List.replicate expected.toNat .zero)
        allocations := parser.allocations + 1 }
    else none

/-- The loop body for three numbers, which are read only if there is a table. -/
def readEntry
    (parser : CubeParser)
    (entry : LutEntry) : Option CubeParser :=
  match parser.data with
  | none => some parser
  | some data =>
      if parser.expected ≤ parser.count then none
      else
        some { parser with
          data := some (data.set parser.count.toNat entry)
          count := parser.count + 1
          overrun := parser.overrun || decide (data.length ≤ parser.count.toNat) }

/-- The loop body. -/
def readItem
    (callocs : Nat → Bool)
    (parser : CubeParser) : CubeItem → Option CubeParser
  | .skipped => some parser
  | .size size => parser.readSize callocs size
  | .entry entry => parser.readEntry entry

end CubeParser

/-- A parsed table. -/
structure LutTable where
  data : List LutEntry
  size : UInt32
  deriving DecidableEq

/-- What the parser returns after the loop. -/
def finish (parser : CubeParser) : Option LutTable :=
  match parser.data with
  | none => none
  | some data => if parser.count ≠ parser.expected then none else some ⟨data, parser.size⟩

/-- The items that the parser reads: of the strings of `fgets`. -/
def readItems
    (numbers : LutNumbers Value)
    (file : CStr) : List CubeItem :=
  (Lines.fgetsAll 511 [] file.bytes).map (itemOf numbers)

/-- `parse_cube_lut`, for a file that can be opened. -/
def parseCubeLut
    (numbers : LutNumbers Value)
    (callocs : Nat → Bool)
    (file : CStr) : Option LutTable :=
  ((readItems numbers file).foldlM (CubeParser.readItem callocs) .start).bind finish

/-- The lines of a file. -/
def lineItems
    (numbers : LutNumbers Value)
    (file : CStr) : List CubeItem :=
  (Lines.lines [] file.bytes).map (itemOf numbers)

/-- The size that an item declares. -/
def CubeItem.declared : CubeItem → Option UInt32
  | .size declared => some declared
  | _ => none

/-- The entry of a data line. -/
def CubeItem.triple : CubeItem → Option LutEntry
  | .entry triple => some triple
  | _ => none

/-- A table that says what the lines of a file say: they declare its size and no other, and their
data triples are its entries in order. -/
structure Reads
    (items : List CubeItem)
    (table : LutTable) : Prop where
  declared : items.filterMap CubeItem.declared ≠ []
  agree : ∀ size ∈ items.filterMap CubeItem.declared, size = table.size
  complete : table.data.length = table.size.toNat ^ 3
  entries : ∀ index < table.size.toNat ^ 3,
    (items.filterMap CubeItem.triple)[index]? = table.data[index]?

/-- The table of the last header among some items. -/
structure LastTable where
  size : UInt32
  /-- How many entries stand between the first and the last header. -/
  earlier : Nat
  /-- The entries behind the last header. -/
  entries : List LutEntry

/-- The last table with one more item. -/
def extend (last : Option LastTable) : CubeItem → Option LastTable
  | .skipped => last
  | .size size =>
      some {
        size := size
        earlier := (last.map fun last => last.earlier + last.entries.length).getD 0
        entries := [] }
  | .entry entry => last.map fun last => { last with entries := last.entries ++ [entry] }

/-- The last table of some items. -/
def lastTable (items : List CubeItem) : Option LastTable :=
  items.foldl extend none

/-- The strings that are read give the table of the lines: all lines declare the size of the last
header that is read, no entry is read between two headers, and the entries read behind the last
header are the first ones of the lines. -/
def SameTable
    (lines reads : List CubeItem) : Prop :=
  ∃ last ∈ lastTable reads,
    lines.filterMap CubeItem.declared ≠ [] ∧
      (∀ size ∈ lines.filterMap CubeItem.declared, size = last.size) ∧
        last.earlier = 0 ∧
          (lines.filterMap CubeItem.triple).take (last.size.toNat ^ 3) = last.entries

/-! ## The loop -/

/-- The parser behind some items. -/
structure Behind
    (last : Option LastTable)
    (parser : CubeParser) : Prop where
  inBounds : parser.overrun = false
  before : last = none → parser.data = none ∧ parser.count = 0
  table : ∀ table ∈ last,
    parser.size = table.size ∧ parser.expected.toNat = table.size.toNat ^ 3 ∧
      0 < parser.expected.toNat ∧
      parser.count.toNat = table.earlier + table.entries.length ∧
      ∃ data, parser.data = some data ∧
        ((parser.count ≤ parser.expected ∧
            data = List.replicate table.earlier .zero ++ table.entries ++
              List.replicate (parser.expected.toNat - parser.count.toNat) .zero) ∨
          (parser.expected < parser.count ∧ table.entries = []))

theorem behind_start : Behind none .start where
  inBounds := rfl
  before _ := ⟨rfl, rfl⟩
  table := nofun

variable {last : Option LastTable} {parser after : CubeParser}

/-- The number of entries of a table. -/
theorem toNat_expected
    {size : UInt32}
    (large : size ≤ lutMaxSize) :
    (size * size * size).toNat = size.toNat ^ 3 := by
  have bound : size.toNat ≤ 65 := large
  have square : size.toNat * size.toNat ≤ 65 * 65 := Nat.mul_le_mul bound bound
  have cube : size.toNat * size.toNat * size.toNat ≤ 65 * 65 * 65 := Nat.mul_le_mul square bound
  have first : (size * size).toNat = size.toNat * size.toNat := by
    rw [UInt32.toNat_mul]
    exact Nat.mod_eq_of_lt (by omega)
  rw [UInt32.toNat_mul, first, Nat.mod_eq_of_lt (by omega)]
  exact (pow_three' _).symm

variable {callocs : Nat → Bool}

theorem Behind.size
    (behind : Behind last parser)
    {size : UInt32}
    (reads : parser.readSize callocs size = some after) :
    Behind (extend last (.size size)) after := by
  unfold CubeParser.readSize at reads
  split at reads
  next => cases reads
  next inRange =>
    rw [not_or, UInt32.not_lt, UInt32.not_lt] at inRange
    dsimp only at reads
    split at reads
    next =>
      obtain rfl := Option.some.inj reads
      have expected := toNat_expected inRange.2
      have count : parser.count.toNat =
          (last.map fun last => last.earlier + last.entries.length).getD 0 := by
        cases last with
        | none => rw [(behind.before rfl).2]; rfl
        | some table => exact (behind.table table rfl).2.2.2.1
      refine ⟨behind.inBounds, nofun, ?_⟩
      intro table isTable
      obtain rfl := Option.some.inj isTable
      refine ⟨rfl, expected, ?_, count, _, rfl, ?_⟩
      · rw [expected]
        have positive : 0 < size.toNat := Nat.lt_of_lt_of_le (by decide : 0 < 2) inRange.1
        exact Nat.pow_pos positive
      · dsimp only
        by_cases room : parser.count ≤ size * size * size
        · left
          refine ⟨room, ?_⟩
          rw [← count, List.append_nil, ← List.replicate_add]
          congr 1
          exact (Nat.add_sub_of_le room).symm
        · exact .inr ⟨UInt32.not_le.mp room, rfl⟩
    next => cases reads

theorem Behind.entry
    (behind : Behind last parser)
    {entry : LutEntry}
    (reads : parser.readEntry entry = some after) :
    Behind (extend last (.entry entry)) after := by
  unfold CubeParser.readEntry at reads
  cases last with
  | none =>
      rw [(behind.before rfl).1] at reads
      obtain rfl := Option.some.inj reads
      exact behind
  | some table =>
      obtain ⟨size, expected, positive, count, data, isData, shape⟩ := behind.table table rfl
      rw [isData] at reads
      dsimp only at reads
      split at reads
      next => cases reads
      next room =>
        rw [UInt32.not_le] at room
        obtain ⟨-, isShape⟩ := shape.resolve_right fun beyond => UInt32.lt_asymm room beyond.1
        obtain rfl := Option.some.inj reads
        have below : parser.count.toNat < parser.expected.toNat := room
        have next : (parser.count + 1).toNat = parser.count.toNat + 1 := by
          have bound := parser.expected.toNat_lt
          rw [UInt32.toNat_add]
          exact Nat.mod_eq_of_lt (by have one : (1 : UInt32).toNat = 1 := rfl; omega)
        have written : (List.replicate table.earlier LutEntry.zero ++ table.entries).length =
            parser.count.toNat := by
          rw [count, List.length_append, List.length_replicate]
        have free : parser.expected.toNat - parser.count.toNat =
            (parser.expected.toNat - (parser.count + 1).toNat) + 1 := by
          omega
        refine ⟨?_, nofun, ?_⟩
        · have length : data.length = parser.expected.toNat := by
            rw [isShape, List.length_append, written, List.length_replicate]
            omega
          dsimp only
          rw [behind.inBounds, length, Bool.false_or, decide_eq_false (by omega)]
        · intro extended isExtended
          obtain rfl := Option.some.inj isExtended
          refine ⟨size, expected, positive, ?_, _, rfl, .inl ⟨?_, ?_⟩⟩
          · dsimp only
            rw [next, count, List.length_append]
            rfl
          · rw [UInt32.le_iff_toNat_le]
            dsimp only
            omega
          · dsimp only
            rw [isShape, free, List.replicate_succ, ← written, ← List.append_assoc]
            rw [List.set_append_right _ _ (Nat.le_refl _), Nat.sub_self, List.set_cons_zero]
            simp

theorem Behind.item
    (behind : Behind last parser)
    {item : CubeItem}
    (reads : parser.readItem callocs item = some after) :
    Behind (extend last item) after := by
  cases item with
  | skipped =>
      obtain rfl := Option.some.inj reads
      exact behind
  | size size => exact behind.size reads
  | entry entry => exact behind.entry reads

/-- The loop reads the last table of the items. -/
theorem behind_of_reads
    {items : List CubeItem}
    (reads : items.foldlM (CubeParser.readItem callocs) .start = some parser) :
    Behind (lastTable items) parser := by
  induction items using List.reverseRecOn generalizing parser with
  | nil =>
      obtain rfl := Option.some.inj reads
      exact behind_start
  | append_singleton items item ih =>
      rw [List.foldlM_append] at reads
      obtain ⟨before, readsBefore, readsItem⟩ := Option.bind_eq_some_iff.mp reads
      rw [List.foldlM_cons] at readsItem
      obtain ⟨behind, isBehind, ends⟩ := Option.bind_eq_some_iff.mp readsItem
      obtain rfl := Option.some.inj ends
      unfold lastTable
      rw [List.foldl_append]
      exact (ih readsBefore).item isBehind

/-- No write of the loop goes past the allocation. -/
theorem inBounds_of_reads
    {items : List CubeItem}
    (reads : items.foldlM (CubeParser.readItem callocs) .start = some parser) :
    parser.overrun = false :=
  (behind_of_reads reads).inBounds

variable {numbers : LutNumbers Value} {file : CStr}

/-- An accepted table: what was read between the headers is lost. -/
theorem table_of_accepted
    {table : LutTable}
    (accepted : parseCubeLut numbers callocs file = some table) :
    ∃ last ∈ lastTable (readItems numbers file),
      table.size = last.size ∧ 0 < last.size.toNat ^ 3 ∧
        last.earlier + last.entries.length = last.size.toNat ^ 3 ∧
          table.data = List.replicate last.earlier .zero ++ last.entries := by
  obtain ⟨parser, reads, finishes⟩ := Option.bind_eq_some_iff.mp accepted
  have behind := behind_of_reads reads
  unfold finish at finishes
  cases isLast : lastTable (readItems numbers file) with
  | none =>
      rw [(behind.before isLast).1] at finishes
      cases finishes
  | some last =>
      obtain ⟨size, expected, positive, count, data, isData, shape⟩ := behind.table last isLast
      rw [isData] at finishes
      dsimp only at finishes
      split at finishes
      next => cases finishes
      next full =>
        rw [ne_eq, not_not] at full
        obtain rfl := Option.some.inj finishes
        refine ⟨last, rfl, size, expected ▸ positive, ?_, ?_⟩
        · rw [← count, full, expected]
        · obtain ⟨-, isShape⟩ | ⟨beyond, -⟩ := shape
          · rw [isShape, full, Nat.sub_self, List.replicate_zero, List.append_nil]
          · rw [full] at beyond
            exact absurd beyond (UInt32.lt_irrefl _)

/-- Every data triple is an entry with full alpha. -/
theorem alpha_of_triple
    {texts : List (List UInt8)}
    {entry : LutEntry}
    (member : entry ∈ (texts.map (itemOf numbers)).filterMap CubeItem.triple) :
    entry.alpha = 255 := by
  obtain ⟨item, isItem, isTriple⟩ := List.mem_filterMap.mp member
  obtain ⟨text, -, rfl⟩ := List.mem_map.mp isItem
  unfold itemOf itemOfTrimmed at isTriple
  split at isTriple
  · cases isTriple
  split at isTriple
  · cases isTriple
  split at isTriple
  · cases isTriple
  split at isTriple
  next triple scanned =>
    obtain rfl := Option.some.inj isTriple
    unfold scanTriple at scanned
    simp only [Option.bind_eq_bind, Option.bind_eq_some_iff, pure, Option.some.injEq] at scanned
    obtain ⟨_, _, _, _, _, _, rfl⟩ := scanned
    rfl
  next => cases isTriple

/-- An accepted table is what the file says if and only if the strings that are read give the
table of the lines. -/
theorem reads_iff
    {table : LutTable}
    (accepted : parseCubeLut numbers callocs file = some table) :
    Reads (lineItems numbers file) table ↔
      SameTable (lineItems numbers file) (readItems numbers file) := by
  obtain ⟨last, isLast, size, positive, total, isData⟩ := table_of_accepted accepted
  constructor
  · rintro ⟨declared, agree, complete, entries⟩
    rw [size] at agree entries
    have alone : last.earlier = 0 := by
      by_contra lost
      have first : table.data[0]? = some .zero := by
        rw [isData, List.getElem?_append_left (by rw [List.length_replicate]; omega),
          List.getElem?_replicate_of_lt (by omega)]
      have triple := (entries 0 positive).trans first
      have alpha := alpha_of_triple (List.mem_of_getElem? triple)
      exact absurd alpha (by decide)
    rw [alone, List.replicate_zero, List.nil_append] at isData
    rw [alone, Nat.zero_add] at total
    refine ⟨last, isLast, declared, agree, alone, ?_⟩
    apply List.ext_getElem?
    intro index
    rw [← isData]
    by_cases inside : index < last.size.toNat ^ 3
    · rw [List.getElem?_take_of_lt inside, entries index inside]
    · rw [List.getElem?_eq_none (by rw [List.length_take]; omega),
        List.getElem?_eq_none (by rw [isData]; omega)]
  · rintro ⟨other, isOther, declared, agree, alone, same⟩
    obtain rfl := Option.some.inj (isLast.symm.trans isOther)
    rw [alone, List.replicate_zero, List.nil_append] at isData
    rw [alone, Nat.zero_add] at total
    constructor
    · exact declared
    · rwa [size]
    · rw [isData, size, total]
    · intro index inside
      rw [size] at inside
      rw [isData, ← same, List.getElem?_take_of_lt inside]

/-- No write goes past the allocation, and an accepted table is what the file says if and only if
the strings that are read give the table of the lines. -/
theorem parses_cube_lut
    (numbers : LutNumbers Value)
    (callocs : Nat → Bool)
    (file : CStr) :
    (∀ items, items <+: readItems numbers file →
      ∀ parser ∈ items.foldlM (CubeParser.readItem callocs) .start, parser.overrun = false) ∧
    ∀ table, parseCubeLut numbers callocs file = some table →
      (Reads (lineItems numbers file) table ↔
        SameTable (lineItems numbers file) (readItems numbers file)) :=
  ⟨fun _ _ _ reads => inBounds_of_reads reads, fun _ accepted => reads_iff accepted⟩

/-- Where no line has more than 511 bytes, the strings that are read are the lines. -/
theorem readItems_of_short
    (numbers : LutNumbers Value)
    (short : ∀ line ∈ Lines.lines [] file.bytes, line.length ≤ 511) :
    readItems numbers file = lineItems numbers file := by
  unfold readItems lineItems
  rw [Lines.fgetsAll_eq_lines [] file.bytes short]

/-- `strtof` on a text of digits and blanks. -/
def digitNumbers : LutNumbers Nat where
  strtof text :=
    let (value, count, rest) := Double.scanDigits 10 0 0 (text.dropWhile isSpace)
    if count = 0 then none else some (value, rest)
  unorm8 value := if value = 0 then 0 else 255

/-- A table of size 2. -/
def smallCube : CStr :=
  "TITLE x\nLUT_3D_SIZE 2\n0 0 0\n1 0 0\n0 1 0\n1 1 0\n# z\n0 0 1\n1 0 1\n0 1 1\n1 1 1\n"

/-- The header again, behind the first triple. -/
def repeatedHeader : CStr :=
  "LUT_3D_SIZE 2\n1 1 1\nLUT_3D_SIZE 2\n1 1 1\n1 1 1\n1 1 1\n1 1 1\n1 1 1\n1 1 1\n1 1 1\n"

/-- The table of `smallCube`. -/
def smallTable : LutTable where
  data := [⟨0, 0, 0, 255⟩, ⟨255, 0, 0, 255⟩, ⟨0, 255, 0, 255⟩, ⟨255, 255, 0, 255⟩,
    ⟨0, 0, 255, 255⟩, ⟨255, 0, 255, 255⟩, ⟨0, 255, 255, 255⟩, ⟨255, 255, 255, 255⟩]
  size := 2

theorem parses_cube_lut_small :
    parseCubeLut digitNumbers (fun _ => true) smallCube = some smallTable ∧
      Reads (lineItems digitNumbers smallCube) smallTable := by
  have accepted : parseCubeLut digitNumbers (fun _ => true) smallCube = some smallTable := by
    decide +kernel
  have declared : (lineItems digitNumbers smallCube).filterMap CubeItem.declared = [2] := by
    decide +kernel
  refine ⟨accepted, ((parses_cube_lut digitNumbers (fun _ => true) smallCube).2 _ accepted).mpr ?_⟩
  refine ⟨⟨2, 0, smallTable.data⟩, by rfl, ?_⟩
  rw [declared]
  refine ⟨by decide, ?_, rfl, by decide +kernel⟩
  intro size member
  exact List.mem_singleton.mp member

/-- A table whose first triple is lost is accepted. -/
theorem repeated_header_accepted :
    ∃ table, parseCubeLut digitNumbers (fun _ => true) repeatedHeader = some table ∧
      ¬ Reads (lineItems digitNumbers repeatedHeader) table := by
  refine ⟨⟨LutEntry.zero :: List.replicate 7 ⟨255, 255, 255, 255⟩, 2⟩, by decide +kernel, ?_⟩
  intro reads
  have first := reads.entries 0 (by decide)
  exact absurd first (by decide +kernel)

end CubeLut

end Engine
end SbsServer
