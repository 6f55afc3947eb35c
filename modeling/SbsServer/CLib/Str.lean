import Mathlib.Data.List.TakeWhile
import Mathlib.Data.Nat.Digits.Defs
import Mathlib.Order.Defs.Unbundled

/-!
# C strings

A C string is the list of its bytes before the terminating NUL.  The type
carries the absence of NUL bytes, so `strlen`, `strcmp` and the escaping
functions of the C library read the whole list.  Bytes are not required to
form UTF-8: the programs modelled over this library pass client bytes through
unchecked.
-/

namespace CLib

/-- A NUL-terminated string, given by the bytes before its terminator. -/
structure CStr where
  /-- The bytes before the terminator. -/
  bytes : List UInt8
  /-- No byte of the string is the terminator. -/
  nulFree : 0 ∉ bytes
  deriving DecidableEq

namespace CStr

/-- The string that C reads from a buffer: everything before the first NUL. -/
def ofBytes (buffer : List UInt8) : CStr where
  bytes := buffer.takeWhile (· ≠ 0)
  nulFree := fun present => by
    have nonzero := List.all_takeWhile (p := (· ≠ (0 : UInt8))) (l := buffer)
    rw [List.all_eq_true] at nonzero
    simpa using nonzero 0 present

/-- A string literal of the source. -/
def lit (text : String) : CStr :=
  ofBytes text.toUTF8.data.toList

instance : Coe String CStr := ⟨lit⟩

instance : Inhabited CStr := ⟨lit ""⟩

@[ext] theorem ext
    {left right : CStr}
    (equal : left.bytes = right.bytes) :
    left = right := by
  cases left
  cases right
  simpa using equal

/-- A buffer without NUL is read back whole. -/
theorem bytes_ofBytes
    {buffer : List UInt8}
    (nulFree : 0 ∉ buffer) :
    (ofBytes buffer).bytes = buffer := by
  simp only [ofBytes]
  rw [List.takeWhile_eq_self_iff]
  intro byte present
  have : byte ≠ 0 := fun zero => nulFree (zero ▸ present)
  simpa using this

/-- `g_strconcat` of two strings. -/
instance : Append CStr := ⟨fun first second => {
  bytes := first.bytes ++ second.bytes
  nulFree := by simp [first.nulFree, second.nulFree] }⟩

/-- `strlen`. -/
def length (text : CStr) : Nat :=
  text.bytes.length

/-- The byte order of `strcmp`, with bytes read as unsigned. -/
instance : LE CStr := ⟨fun left right => left.bytes ≤ right.bytes⟩

instance : DecidableLE CStr := fun left right =>
  inferInstanceAs (Decidable (left.bytes ≤ right.bytes))

theorem le_total (left right : CStr) : left ≤ right ∨ right ≤ left :=
  List.le_total left.bytes right.bytes

theorem le_trans
    {first second third : CStr}
    (lower : first ≤ second)
    (upper : second ≤ third) :
    first ≤ third :=
  List.le_trans lower upper

/-- Bytes of the decimal numeral of a natural number, as `%u` prints it. -/
def decimalBytes (value : Nat) : List UInt8 :=
  if value = 0 then [48]
  else (Nat.digits 10 value).reverse.map fun digit => (48 + digit).toUInt8

/-- `g_strdup_printf("%u", value)`. -/
def ofNat (value : Nat) : CStr :=
  ofBytes (decimalBytes value)

end CStr

/-- A string argument that passes the check `!s || !*s`. -/
def given (argument : Option CStr) : Option CStr :=
  argument.filter fun value => value ≠ ""

/-- The content of a `char` array of `capacity` bytes: a string that fits with
its terminator. -/
structure CharArray (capacity : Nat) where
  /-- The string in the array. -/
  text : CStr
  /-- The string and its terminator fit. -/
  fits : text.bytes.length < capacity
  deriving DecidableEq

namespace CharArray

@[ext] theorem ext
    {left right : CharArray capacity}
    (equal : left.text = right.text) :
    left = right := by
  cases left
  cases right
  simpa using equal

/-- `g_strlcpy` into an array of `capacity` bytes: the copy is cut so that the
terminator fits. -/
def strlcpy
    (capacity : Nat)
    (source : CStr)
    (positive : 0 < capacity := by decide) :
    CharArray capacity where
  text := {
    bytes := source.bytes.take (capacity - 1)
    nulFree := fun present => source.nulFree (List.mem_of_mem_take present) }
  fits := by
    simp only [List.length_take]
    omega

/-- Copying the content of an array into an array of the same size loses
nothing. -/
@[simp] theorem strlcpy_text
    (array : CharArray capacity)
    (positive : 0 < capacity) :
    strlcpy capacity array.text positive = array := by
  apply CharArray.ext
  apply CStr.ext
  have fits := array.fits
  simp only [strlcpy]
  exact List.take_of_length_le (by omega)

end CharArray
end CLib
