import SbsServer.Json.Grammar
import Mathlib.Data.Rat.Defs
import Mathlib.Tactic.Common

/-!
# The JSON lexicon

String literals and numbers of RFC 8259, read at the level of bytes: the bytes
of multi-byte UTF-8 characters are `unescaped`, whatever they encode.  A
literal decodes to the UTF-8 text of its characters; a `\u` escape of an
unpaired surrogate has no UTF-8 text.
-/

namespace Json

/-- The bytes of `unescaped`: no control character, no quotation mark, no
reverse solidus. -/
def isUnescaped (byte : UInt8) : Bool :=
  32 ≤ byte && byte ≠ 34 && byte ≠ 92

/-- The characters after `escape`, without `u`. -/
inductive Escape
  | quotationMark
  | reverseSolidus
  | solidus
  | backspace
  | formFeed
  | lineFeed
  | carriageReturn
  | tab
  deriving DecidableEq

namespace Escape

/-- The character after the reverse solidus. -/
def code : Escape → UInt8
  | quotationMark => 34
  | reverseSolidus => 92
  | solidus => 47
  | backspace => 98
  | formFeed => 102
  | lineFeed => 110
  | carriageReturn => 114
  | tab => 116

/-- The character that the escape stands for. -/
def meaning : Escape → UInt8
  | quotationMark => 34
  | reverseSolidus => 92
  | solidus => 47
  | backspace => 8
  | formFeed => 12
  | lineFeed => 10
  | carriageReturn => 13
  | tab => 9

end Escape

/-- The bytes of decimal digits. -/
def isDigit (byte : UInt8) : Bool :=
  48 ≤ byte && byte ≤ 57

/-- The bytes of hexadecimal digits. -/
def isHexDigit (byte : UInt8) : Bool :=
  isDigit byte || (65 ≤ byte && byte ≤ 70) || (97 ≤ byte && byte ≤ 102)

/-- A hexadecimal digit. -/
structure HexDigit where
  byte : UInt8
  hexadecimal : isHexDigit byte = true
  deriving DecidableEq

/-- A hexadecimal digit is no control byte. -/
theorem HexDigit.textByte (digit : HexDigit) : isTextByte digit.byte = true := by
  have range := digit.hexadecimal
  simp only [isHexDigit, isDigit, isTextByte, Bool.or_eq_true, Bool.and_eq_true,
    decide_eq_true_eq, UInt8.le_iff_toNat_le] at *
  simp at *
  omega

/-- The value of a hexadecimal digit. -/
def HexDigit.value (digit : HexDigit) : Nat :=
  if digit.byte ≤ 57 then digit.byte.toNat - 48
  else if digit.byte ≤ 70 then digit.byte.toNat - 55
  else digit.byte.toNat - 87

/-- The production `char`. -/
inductive Item
  | unescaped (byte : UInt8) (allowed : isUnescaped byte = true)
  | escape (kind : Escape)
  | unicode (first second third fourth : HexDigit)
  deriving DecidableEq

namespace Item

/-- The text of a character. -/
def render : Item → List UInt8
  | unescaped byte _ => [byte]
  | escape kind => [92, kind.code]
  | unicode first second third fourth =>
      [92, 117, first.byte, second.byte, third.byte, fourth.byte]

/-- The test for a `\u` escape. -/
def isUnicode : Item → Bool
  | unicode _ _ _ _ => true
  | _ => false

end Item

/-- The production `string`, by its characters. -/
abbrev Literal := List Item

namespace Literal

/-- The text of a literal with its quotation marks. -/
def render (literal : Literal) : List UInt8 :=
  34 :: literal.flatMap Item.render ++ [34]

/-- UTF-8 bytes of a code point. -/
def utf8 (codePoint : Nat) : List UInt8 :=
  String.utf8EncodeChar (Char.ofNat codePoint)

/-- The code unit of a `\u` escape. -/
def codeUnit (first second third fourth : HexDigit) : Nat :=
  ((first.value * 16 + second.value) * 16 + third.value) * 16 + fourth.value

/-- UTF-8 text of characters after an optional high surrogate that waits for
its low surrogate. -/
def decodeAfter : (high : Option Nat) → Literal → Option (List UInt8)
  | none, [] => some []
  | some _, [] => none
  | none, .unescaped byte _ :: rest => (byte :: ·) <$> decodeAfter none rest
  | none, .escape kind :: rest => (kind.meaning :: ·) <$> decodeAfter none rest
  | none, .unicode first second third fourth :: rest =>
      let unit := codeUnit first second third fourth
      if 0xD800 ≤ unit ∧ unit < 0xDC00 then decodeAfter (some unit) rest
      else if 0xDC00 ≤ unit ∧ unit < 0xE000 then none
      else (utf8 unit ++ ·) <$> decodeAfter none rest
  | some high, .unicode first second third fourth :: rest =>
      let unit := codeUnit first second third fourth
      if 0xDC00 ≤ unit ∧ unit < 0xE000 then
        (utf8 (0x10000 + (high - 0xD800) * 0x400 + (unit - 0xDC00)) ++ ·) <$>
          decodeAfter none rest
      else none
  | some _, _ :: _ => none

/-- UTF-8 text of a literal. -/
def decode (literal : Literal) : Option (List UInt8) :=
  decodeAfter none literal

/-- Some character of the literal is a `\u` escape. -/
def HasUnicodeEscape (literal : Literal) : Prop :=
  ∃ item ∈ literal, item.isUnicode = true

end Literal

/-- One or more decimal digits. -/
structure Digits where
  bytes : List UInt8
  nonempty : bytes ≠ []
  decimal : ∀ byte ∈ bytes, isDigit byte = true
  deriving DecidableEq

/-- The production `exp`. -/
structure Exponent where
  capital : Bool
  /-- The sign, `true` for minus. -/
  sign : Option Bool
  digits : Digits
  deriving DecidableEq

/-- The production `number`. -/
structure Number where
  minus : Bool
  whole : Digits
  /-- Only the number zero starts with the digit zero. -/
  canonical : whole.bytes.head? = some 48 → whole.bytes = [48]
  fraction : Option Digits
  exponent : Option Exponent
  deriving DecidableEq

/-- The value of decimal digits read after others of a value. -/
def digitsValue (start : Nat) (digits : List UInt8) : Nat :=
  digits.foldl (fun value byte => value * 10 + (byte.toNat - 48)) start

namespace Exponent

/-- The text of a sign. -/
def signText : Option Bool → List UInt8
  | none => []
  | some true => [45]
  | some false => [43]

/-- The byte before an exponent. -/
def marker (capital : Bool) : UInt8 :=
  if capital then 69 else 101

/-- The text of an exponent. -/
def render (exponent : Exponent) : List UInt8 :=
  marker exponent.capital :: signText exponent.sign ++ exponent.digits.bytes

/-- The value of an exponent. -/
def value (exponent : Exponent) : ℤ :=
  let magnitude : ℤ := digitsValue 0 exponent.digits.bytes
  if exponent.sign = some true then -magnitude else magnitude

end Exponent

namespace Number

/-- The text of the fraction with its point. -/
def fractionText (number : Number) : List UInt8 :=
  number.fraction.elim [] fun digits => 46 :: digits.bytes

/-- The text of the exponent. -/
def exponentText (number : Number) : List UInt8 :=
  number.exponent.elim [] Exponent.render

/-- The text of a number. -/
def render (number : Number) : List UInt8 :=
  (if number.minus then [45] else []) ++ number.whole.bytes ++
    number.fractionText ++ number.exponentText

/-- The value of a number without its sign. -/
def magnitude (number : Number) : ℚ :=
  let places := number.fraction.elim [] Digits.bytes
  let digits : ℚ := digitsValue (digitsValue 0 number.whole.bytes) places
  digits / 10 ^ places.length *
    (10 : ℚ) ^ (number.exponent.elim 0 Exponent.value)

end Number

namespace Literal

/-- UTF-8 text of a code point has at most four bytes. -/
theorem length_utf8_le (codePoint : Nat) : (utf8 codePoint).length ≤ 4 := by
  rw [utf8, String.length_utf8EncodeChar]
  exact Char.utf8Size_le_four _

end Literal

/-- The characters of a literal are made of text bytes. -/
theorem Item.render_all (item : Item) : item.render.all isTextByte = true := by
  cases item with
  | unescaped byte allowed =>
      simp only [isUnescaped, Bool.and_eq_true] at allowed
      simp [render, isTextByte, allowed.1.1]
  | escape kind => cases kind <;> decide
  | unicode first second third fourth =>
      have introduced : isTextByte 92 = true ∧ isTextByte 117 = true := by decide
      simp only [render, List.all_cons, List.all_nil, introduced, first.textByte,
        second.textByte, third.textByte, fourth.textByte, Bool.and_self]

/-- A literal is made of text bytes. -/
theorem Literal.render_all (literal : Literal) :
    (Literal.render literal).all isTextByte = true := by
  have quotationMark : isTextByte 34 = true := by decide
  have items : (literal.flatMap Item.render).all isTextByte = true := by
    rw [List.all_flatMap, List.all_eq_true]
    exact fun item _ => item.render_all
  simp only [Literal.render, List.all_cons, List.all_append, List.all_nil,
    quotationMark, items, Bool.and_self]

/-- Digits are made of text bytes. -/
theorem Digits.bytes_all (digits : Digits) : digits.bytes.all isTextByte = true := by
  rw [List.all_eq_true]
  intro byte member
  have range := digits.decimal byte member
  simp only [isDigit, isTextByte, Bool.or_eq_true, Bool.and_eq_true,
    decide_eq_true_eq, UInt8.le_iff_toNat_le] at *
  simp at *
  omega

/-- An exponent is made of text bytes. -/
theorem Exponent.render_all (exponent : Exponent) :
    exponent.render.all isTextByte = true := by
  rcases exponent with ⟨capital, sign, digits⟩
  rcases sign with _ | minus
  · cases capital <;>
      simp [Exponent.render, marker, signText, digits.bytes_all, isTextByte,
        -List.all_eq_true]
  · cases capital <;> cases minus <;>
      simp [Exponent.render, marker, signText, digits.bytes_all, isTextByte,
        -List.all_eq_true]

/-- A number is made of text bytes. -/
theorem Number.render_all (number : Number) :
    number.render.all isTextByte = true := by
  have fraction : number.fractionText.all isTextByte = true := by
    cases held : number.fraction with
    | none => simp [Number.fractionText, held]
    | some digits =>
        simp [Number.fractionText, held, digits.bytes_all, isTextByte,
          -List.all_eq_true]
  have exponent : number.exponentText.all isTextByte = true := by
    cases held : number.exponent with
    | none => simp [Number.exponentText, held]
    | some exponent =>
        simp [Number.exponentText, held, exponent.render_all, -List.all_eq_true]
  cases sign : number.minus <;>
    simp [Number.render, sign, number.whole.bytes_all, fraction, exponent,
      isTextByte, -List.all_eq_true]

/-- A text of the RFC 8259 grammar. -/
abbrev Rfc8259 := Text Literal Number

/-- The bytes of a text of the grammar. -/
def Rfc8259.bytes (text : Rfc8259) : List UInt8 :=
  text.render Literal.render Number.render

/-- A text of the grammar is made of text bytes. -/
theorem Rfc8259.bytes_all (text : Rfc8259) : text.bytes.all isTextByte = true := by
  rw [Rfc8259.bytes, Text.render_all fun _ => id, Bool.and_eq_true,
    List.all_eq_true, List.all_eq_true]
  exact ⟨fun literal _ => literal.render_all, fun number _ => number.render_all⟩

/-- The texts of the grammar. -/
def IsJson (bytes : List UInt8) : Prop :=
  ∃ text : Rfc8259, text.bytes = bytes

end Json
