import Mathlib.Data.List.Basic
import Mathlib.Data.Rat.Defs

/-!
# The JSON grammar

Concrete syntax of RFC 8259 over bytes.  A syntax tree keeps everything that
the grammar leaves open, down to the whitespace, and `render` writes its text:
the texts of the grammar are the texts of the trees.  The ABNF attaches
whitespace to the structural characters; here it stands around the elements,
which gives the same texts.

The trees are generic in their string literals and numerals, so that the
layout of arrays and objects is shared by every lexicon.
-/

namespace Json

/-- The characters of `ws`. -/
inductive Space
  | space
  | horizontalTab
  | lineFeed
  | carriageReturn
  deriving DecidableEq

/-- The byte of a whitespace character. -/
def Space.byte : Space → UInt8
  | .space => 32
  | .horizontalTab => 9
  | .lineFeed => 10
  | .carriageReturn => 13

/-- The production `ws`. -/
abbrev Whitespace := List Space

/-- The text of whitespace. -/
def Whitespace.render (blank : Whitespace) : List UInt8 :=
  blank.map Space.byte

@[simp] theorem Whitespace.render_nil : Whitespace.render [] = [] := by
  simp [Whitespace.render]

/-- The name of an object member with the whitespace around it. -/
structure Name (Literal : Type) where
  before : Whitespace
  literal : Literal
  after : Whitespace

mutual

/-- The production `value`. -/
inductive Value (Literal Numeral : Type)
  | null
  | bool (truth : Bool)
  | number (numeral : Numeral)
  | string (literal : Literal)
  | emptyArray (blank : Whitespace)
  | array (elements : Elements Literal Numeral)
  | emptyObject (blank : Whitespace)
  | object (members : Members Literal Numeral)

/-- The elements of an array, each with the whitespace around it. -/
inductive Elements (Literal Numeral : Type)
  | last (before : Whitespace) (value : Value Literal Numeral) (after : Whitespace)
  | more (before : Whitespace) (value : Value Literal Numeral) (after : Whitespace)
      (rest : Elements Literal Numeral)

/-- The members of an object. -/
inductive Members (Literal Numeral : Type)
  | last (name : Name Literal) (before : Whitespace) (value : Value Literal Numeral)
      (after : Whitespace)
  | more (name : Name Literal) (before : Whitespace) (value : Value Literal Numeral)
      (after : Whitespace) (rest : Members Literal Numeral)

end

/-- The production `JSON-text`. -/
structure Text (Literal Numeral : Type) where
  before : Whitespace
  value : Value Literal Numeral
  after : Whitespace

section Rendering

variable {Literal Numeral : Type}
variable (literalText : Literal → List UInt8)
variable (numeralText : Numeral → List UInt8)

/-- The text of a member name. -/
def Name.render (name : Name Literal) : List UInt8 :=
  name.before.render ++ literalText name.literal ++ name.after.render

mutual

/-- The text of a value. -/
def Value.render : Value Literal Numeral → List UInt8
  | .null => [110, 117, 108, 108]
  | .bool true => [116, 114, 117, 101]
  | .bool false => [102, 97, 108, 115, 101]
  | .number numeral => numeralText numeral
  | .string literal => literalText literal
  | .emptyArray blank => 91 :: blank.render ++ [93]
  | .array elements => 91 :: elements.render ++ [93]
  | .emptyObject blank => 123 :: blank.render ++ [125]
  | .object members => 123 :: members.render ++ [125]

/-- The text of elements. -/
def Elements.render : Elements Literal Numeral → List UInt8
  | .last before value after => before.render ++ value.render ++ after.render
  | .more before value after rest =>
      before.render ++ value.render ++ after.render ++ 44 :: rest.render

/-- The text of members. -/
def Members.render : Members Literal Numeral → List UInt8
  | .last name before value after =>
      name.render literalText ++ 58 :: before.render ++ value.render ++ after.render
  | .more name before value after rest =>
      name.render literalText ++ 58 :: before.render ++ value.render ++ after.render ++
        44 :: rest.render

end

/-- The text of a whole tree. -/
def Text.render (text : Text Literal Numeral) : List UInt8 :=
  text.before.render ++ text.value.render literalText numeralText ++ text.after.render

end Rendering

section Tokens

variable {Literal Numeral : Type}

mutual

/-- The string literals of a value, member names included. -/
def Value.literals : Value Literal Numeral → List Literal
  | .string literal => [literal]
  | .array elements => elements.literals
  | .object members => members.literals
  | _ => []

/-- The string literals of elements. -/
def Elements.literals : Elements Literal Numeral → List Literal
  | .last _ value _ => value.literals
  | .more _ value _ rest => value.literals ++ rest.literals

/-- The string literals of members. -/
def Members.literals : Members Literal Numeral → List Literal
  | .last name _ value _ => name.literal :: value.literals
  | .more name _ value _ rest => name.literal :: (value.literals ++ rest.literals)

end

mutual

/-- The numerals of a value. -/
def Value.numerals : Value Literal Numeral → List Numeral
  | .number numeral => [numeral]
  | .array elements => elements.numerals
  | .object members => members.numerals
  | _ => []

/-- The numerals of elements. -/
def Elements.numerals : Elements Literal Numeral → List Numeral
  | .last _ value _ => value.numerals
  | .more _ value _ rest => value.numerals ++ rest.numerals

/-- The numerals of members. -/
def Members.numerals : Members Literal Numeral → List Numeral
  | .last _ _ value _ => value.numerals
  | .more _ _ value _ rest => value.numerals ++ rest.numerals

end

end Tokens

/-- The bytes of a text: no control characters but those of whitespace. -/
def isTextByte (byte : UInt8) : Bool :=
  32 ≤ byte || byte = 9 || byte = 10 || byte = 13

section Bytes

variable {Literal Numeral : Type}
variable {literalText : Literal → List UInt8} {numeralText : Numeral → List UInt8}
variable {good : UInt8 → Bool}
variable (textBytes : ∀ byte, isTextByte byte = true → good byte = true)
include textBytes

/-- Whitespace is made of text bytes. -/
theorem Whitespace.render_all
    (blank : Whitespace) :
    blank.render.all good = true := by
  induction blank with
  | nil => simp
  | cons character rest hypothesis =>
      have first : good character.byte = true :=
        textBytes _ (by cases character <;> decide)
      simp only [Whitespace.render] at hypothesis
      simp only [Whitespace.render, List.map_cons, List.all_cons, first, hypothesis,
        Bool.and_self]

/-- All bytes of a name are good when those of its literal are. -/
theorem Name.render_all
    (name : Name Literal) :
    (name.render literalText).all good = (literalText name.literal).all good := by
  simp only [Name.render, List.all_append, Whitespace.render_all textBytes,
    Bool.true_and, Bool.and_true]

mutual

/-- All bytes of a value are good when those of its tokens are. -/
theorem Value.render_all
    (value : Value Literal Numeral) :
    (value.render literalText numeralText).all good =
      (value.literals.all (fun literal => (literalText literal).all good) &&
        value.numerals.all fun numeral => (numeralText numeral).all good) := by
  have byte (code : UInt8) (text : isTextByte code = true := by decide) :
      good code = true :=
    textBytes code text
  cases value with
  | null => simp only [Value.render, Value.literals, Value.numerals, List.all_cons,
      List.all_nil, byte 110, byte 117, byte 108, Bool.and_self]
  | bool truth =>
      cases truth <;>
        simp only [Value.render, Value.literals, Value.numerals, List.all_cons,
          List.all_nil, byte 116, byte 114, byte 117, byte 101, byte 102, byte 97,
          byte 108, byte 115, Bool.and_self]
  | number numeral =>
      simp only [Value.render, Value.literals, Value.numerals, List.all_cons,
        List.all_nil, Bool.true_and, Bool.and_true]
  | string literal =>
      simp only [Value.render, Value.literals, Value.numerals, List.all_cons,
        List.all_nil, Bool.and_true]
  | emptyArray blank =>
      simp only [Value.render, Value.literals, Value.numerals, List.all_cons,
        List.all_append, List.all_nil, byte 91, byte 93,
        blank.render_all textBytes, Bool.and_self]
  | array elements =>
      simp only [Value.render, Value.literals, Value.numerals, List.all_cons,
        List.all_append, List.all_nil, byte 91, byte 93,
        elements.render_all, Bool.true_and, Bool.and_true]
  | emptyObject blank =>
      simp only [Value.render, Value.literals, Value.numerals, List.all_cons,
        List.all_append, List.all_nil, byte 123, byte 125,
        blank.render_all textBytes, Bool.and_self]
  | object members =>
      simp only [Value.render, Value.literals, Value.numerals, List.all_cons,
        List.all_append, List.all_nil, byte 123, byte 125,
        members.render_all, Bool.true_and, Bool.and_true]

/-- The same for elements. -/
theorem Elements.render_all
    (elements : Elements Literal Numeral) :
    (elements.render literalText numeralText).all good =
      (elements.literals.all (fun literal => (literalText literal).all good) &&
        elements.numerals.all fun numeral => (numeralText numeral).all good) := by
  cases elements with
  | last before value after =>
      simp only [Elements.render, Elements.literals, Elements.numerals,
        List.all_append, Whitespace.render_all textBytes,
        value.render_all, Bool.true_and, Bool.and_true]
  | more before value after rest =>
      have comma : good 44 = true := textBytes 44 (by decide)
      simp only [Elements.render, Elements.literals, Elements.numerals,
        List.all_append, List.all_cons, Whitespace.render_all textBytes,
        value.render_all, rest.render_all, comma,
        Bool.true_and, Bool.and_true]
      ac_rfl

/-- The same for members. -/
theorem Members.render_all
    (members : Members Literal Numeral) :
    (members.render literalText numeralText).all good =
      (members.literals.all (fun literal => (literalText literal).all good) &&
        members.numerals.all fun numeral => (numeralText numeral).all good) := by
  have colon : good 58 = true := textBytes 58 (by decide)
  cases members with
  | last name before value after =>
      simp only [Members.render, Members.literals, Members.numerals,
        List.all_append, List.all_cons, Name.render_all textBytes,
        Whitespace.render_all textBytes, value.render_all, colon,
        Bool.and_true]
      ac_rfl
  | more name before value after rest =>
      have comma : good 44 = true := textBytes 44 (by decide)
      simp only [Members.render, Members.literals, Members.numerals,
        List.all_append, List.all_cons, Name.render_all textBytes,
        Whitespace.render_all textBytes, value.render_all,
        rest.render_all, colon, comma, Bool.true_and, Bool.and_true]
      ac_rfl

end

/-- All bytes of a whole text are good when those of its tokens are. -/
theorem Text.render_all
    (text : Text Literal Numeral) :
    (text.render literalText numeralText).all good =
      (text.value.literals.all (fun literal => (literalText literal).all good) &&
        text.value.numerals.all fun numeral => (numeralText numeral).all good) := by
  simp only [Text.render, List.all_append, Whitespace.render_all textBytes,
    Value.render_all textBytes, Bool.true_and, Bool.and_true]

end Bytes

section Translation

variable {Literal Numeral Literal' Numeral' : Type}
variable {literalText : Literal → List UInt8} {numeralText : Numeral → List UInt8}
variable {literalText' : Literal' → List UInt8} {numeralText' : Numeral' → List UInt8}

/-- A name whose literal has a text in another lexicon is a name of that
lexicon. -/
theorem Name.exists_translation
    (name : Name Literal)
    (translated : ∃ literal, literalText' literal = literalText name.literal) :
    ∃ other : Name Literal', other.render literalText' = name.render literalText := by
  obtain ⟨literal, same⟩ := translated
  exact ⟨⟨name.before, literal, name.after⟩, by simp [Name.render, same]⟩

mutual

/-- When every token of a value has its text in another lexicon, the value is
a value of that lexicon. -/
theorem Value.exists_translation
    (value : Value Literal Numeral)
    (literals : ∀ literal ∈ value.literals,
      ∃ other, literalText' other = literalText literal)
    (numerals : ∀ numeral ∈ value.numerals,
      ∃ other, numeralText' other = numeralText numeral) :
    ∃ other : Value Literal' Numeral',
      other.render literalText' numeralText' =
        value.render literalText numeralText := by
  cases value with
  | null => exact ⟨.null, by simp [Value.render]⟩
  | bool truth => exact ⟨.bool truth, by cases truth <;> simp [Value.render]⟩
  | number numeral =>
      obtain ⟨other, same⟩ := numerals numeral (by simp [Value.numerals])
      exact ⟨.number other, by simp [Value.render, same]⟩
  | string literal =>
      obtain ⟨other, same⟩ := literals literal (by simp [Value.literals])
      exact ⟨.string other, by simp [Value.render, same]⟩
  | emptyArray blank => exact ⟨.emptyArray blank, by simp [Value.render]⟩
  | array elements =>
      obtain ⟨other, same⟩ := elements.exists_translation
        (by simpa only [Value.literals] using literals)
        (by simpa only [Value.numerals] using numerals)
      exact ⟨.array other, by simp [Value.render, same]⟩
  | emptyObject blank => exact ⟨.emptyObject blank, by simp [Value.render]⟩
  | object members =>
      obtain ⟨other, same⟩ := members.exists_translation
        (by simpa only [Value.literals] using literals)
        (by simpa only [Value.numerals] using numerals)
      exact ⟨.object other, by simp [Value.render, same]⟩

/-- The same for elements. -/
theorem Elements.exists_translation
    (elements : Elements Literal Numeral)
    (literals : ∀ literal ∈ elements.literals,
      ∃ other, literalText' other = literalText literal)
    (numerals : ∀ numeral ∈ elements.numerals,
      ∃ other, numeralText' other = numeralText numeral) :
    ∃ other : Elements Literal' Numeral',
      other.render literalText' numeralText' =
        elements.render literalText numeralText := by
  cases elements with
  | last before value after =>
      obtain ⟨other, same⟩ := value.exists_translation
        (by simpa only [Elements.literals] using literals)
        (by simpa only [Elements.numerals] using numerals)
      exact ⟨.last before other after, by simp [Elements.render, same]⟩
  | more before value after rest =>
      simp only [Elements.literals, List.forall_mem_append] at literals
      simp only [Elements.numerals, List.forall_mem_append] at numerals
      obtain ⟨other, same⟩ := value.exists_translation literals.1 numerals.1
      obtain ⟨others, same_rest⟩ := rest.exists_translation literals.2 numerals.2
      exact ⟨.more before other after others, by
        simp [Elements.render, same, same_rest]⟩

/-- The same for members. -/
theorem Members.exists_translation
    (members : Members Literal Numeral)
    (literals : ∀ literal ∈ members.literals,
      ∃ other, literalText' other = literalText literal)
    (numerals : ∀ numeral ∈ members.numerals,
      ∃ other, numeralText' other = numeralText numeral) :
    ∃ other : Members Literal' Numeral',
      other.render literalText' numeralText' =
        members.render literalText numeralText := by
  cases members with
  | last name before value after =>
      simp only [Members.literals, List.forall_mem_cons] at literals
      obtain ⟨otherName, same_name⟩ := name.exists_translation literals.1
      obtain ⟨other, same⟩ := value.exists_translation literals.2
        (by simpa only [Members.numerals] using numerals)
      exact ⟨.last otherName before other after, by
        simp [Members.render, same, same_name]⟩
  | more name before value after rest =>
      simp only [Members.literals, List.forall_mem_cons, List.forall_mem_append]
        at literals
      simp only [Members.numerals, List.forall_mem_append] at numerals
      obtain ⟨otherName, same_name⟩ := name.exists_translation literals.1
      obtain ⟨other, same⟩ := value.exists_translation literals.2.1 numerals.1
      obtain ⟨others, same_rest⟩ :=
        rest.exists_translation literals.2.2 numerals.2
      exact ⟨.more otherName before other after others, by
        simp [Members.render, same, same_name, same_rest]⟩

end

end Translation

end Json
