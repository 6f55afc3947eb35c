import SbsServer.Common.CJsonLayout

/-!
# The JSON codec

What the printer writes the parser reads back; which printed texts are JSON;
and which JSON texts the parser decodes.
-/

namespace SbsServer

open CLib CLib.Double Json

namespace CJson

/-- A syntax tree over strings and doubles whose text is the printed text of a
tree. -/
structure Describes
    (value : Value CStr Double)
    (item : CJson) : Prop where
  text : value.render printString formatG17 = printItem item
  tree : ofValue id id value = item
  literals : value.literals = item.strings
  numerals : value.numerals = item.numbers

/-- The same for the items of an array. -/
structure DescribesItems
    (elements : Elements CStr Double)
    (items : List CJson) : Prop where
  text : elements.render printString formatG17 = printItems items
  tree : ofElements id id elements = items
  literals : elements.literals = stringsOfItems items
  numerals : elements.numerals = numbersOfItems items

/-- The same for the members of an object. -/
structure DescribesMembers
    (described : Members CStr Double)
    (members : List (CStr × CJson)) : Prop where
  text : described.render printString formatG17 = printMembers members
  tree : ofMembers id id described = members
  literals : described.literals = stringsOfMembers members
  numerals : described.numerals = numbersOfMembers members

mutual

/-- Every tree has a syntax tree. -/
theorem exists_describes (item : CJson) : ∃ value, Describes value item := by
  cases item with
  | null =>
      exact ⟨.null, by simp [Value.render, printItem], by simp [ofValue],
        by simp [Value.literals, strings], by simp [Value.numerals, numbers]⟩
  | bool truth =>
      refine ⟨.bool truth, ?_, by simp [ofValue],
        by simp [Value.literals, strings], by simp [Value.numerals, numbers]⟩
      cases truth <;> simp [Value.render, printItem]
  | number value =>
      exact ⟨.number value, by simp [Value.render, printItem], by simp [ofValue],
        by simp [Value.literals, strings], by simp [Value.numerals, numbers]⟩
  | string value =>
      exact ⟨.string value, by simp [Value.render, printItem], by simp [ofValue],
        by simp [Value.literals, strings], by simp [Value.numerals, numbers]⟩
  | array items =>
      by_cases empty : items = []
      · subst empty
        exact ⟨.emptyArray [], by simp [Value.render, printItem, printItems],
          by simp [ofValue], by simp [Value.literals, strings, stringsOfItems],
          by simp [Value.numerals, numbers, numbersOfItems]⟩
      · obtain ⟨elements, described⟩ := exists_describesItems items empty
        exact ⟨.array elements, by simp [Value.render, printItem, described.text],
          by simp [ofValue, described.tree],
          by simp [Value.literals, strings, described.literals],
          by simp [Value.numerals, numbers, described.numerals]⟩
  | object members =>
      by_cases empty : members = []
      · subst empty
        exact ⟨.emptyObject [], by simp [Value.render, printItem, printMembers],
          by simp [ofValue], by simp [Value.literals, strings, stringsOfMembers],
          by simp [Value.numerals, numbers, numbersOfMembers]⟩
      · obtain ⟨described, fields⟩ := exists_describesMembers members empty
        exact ⟨.object described, by simp [Value.render, printItem, fields.text],
          by simp [ofValue, fields.tree],
          by simp [Value.literals, strings, fields.literals],
          by simp [Value.numerals, numbers, fields.numerals]⟩

/-- Every nonempty list of items has a syntax tree. -/
theorem exists_describesItems
    (items : List CJson)
    (nonempty : items ≠ []) :
    ∃ elements, DescribesItems elements items := by
  match items with
  | [] => exact absurd rfl nonempty
  | first :: rest =>
      obtain ⟨value, described⟩ := exists_describes first
      by_cases empty : rest = []
      · subst empty
        exact ⟨.last [] value [],
          by simp [Elements.render, printItems, described.text],
          by simp [ofElements, described.tree],
          by simp [Elements.literals, stringsOfItems, described.literals],
          by simp [Elements.numerals, numbersOfItems, described.numerals]⟩
      · obtain ⟨elements, others⟩ := exists_describesItems rest empty
        exact ⟨.more [] value [] elements,
          by simp [Elements.render, printItems, described.text, others.text],
          by simp [ofElements, described.tree, others.tree],
          by simp [Elements.literals, stringsOfItems, described.literals,
            others.literals],
          by simp [Elements.numerals, numbersOfItems, described.numerals,
            others.numerals]⟩

/-- Every nonempty list of members has a syntax tree. -/
theorem exists_describesMembers
    (members : List (CStr × CJson))
    (nonempty : members ≠ []) :
    ∃ described, DescribesMembers described members := by
  match members with
  | [] => exact absurd rfl nonempty
  | (name, item) :: rest =>
      obtain ⟨value, described⟩ := exists_describes item
      by_cases empty : rest = []
      · subst empty
        exact ⟨.last ⟨[], name, []⟩ [] value [],
          by simp [Members.render, Name.render, printMembers, described.text],
          by simp [ofMembers, described.tree],
          by simp [Members.literals, stringsOfMembers, described.literals],
          by simp [Members.numerals, numbersOfMembers, described.numerals]⟩
      · obtain ⟨members, others⟩ := exists_describesMembers rest empty
        exact ⟨.more ⟨[], name, []⟩ [] value [] members,
          by simp [Members.render, Name.render, printMembers, described.text,
            others.text],
          by simp [ofMembers, described.tree, others.tree],
          by simp [Members.literals, stringsOfMembers, described.literals,
            others.literals],
          by simp [Members.numerals, numbersOfMembers, described.numerals,
            others.numerals]⟩

end

/-- The byte that stands for one byte of a string is read back. -/
theorem unquoted_escaped
    (byte : UInt8)
    (stored : List UInt8) :
    unquoted (escaped byte ++ stored) =
      (unquoted stored).map fun later => (byte :: later.1, later.2) := by
  unfold escaped
  split <;> simp_all [unquoted, unescaped]

/-- The bytes that stand for a string are read back up to the closing quote. -/
theorem unquoted_flatMap_escaped (bytes rest : List UInt8) :
    unquoted (bytes.flatMap escaped ++ 34 :: rest) = some (bytes, rest) := by
  induction bytes with
  | nil => simp [unquoted]
  | cons byte tail hypothesis =>
      rw [List.flatMap_cons, List.append_assoc, unquoted_escaped, hypothesis]
      simp

theorem parseStringToken_printString (value : CStr) :
    ReadsLiteral printString id value := by
  intro rest
  have read := unquoted_flatMap_escaped value.bytes rest
  have whole : CStr.ofBytes value.bytes = value :=
    CStr.ext (CStr.bytes_ofBytes value.nulFree)
  simp [printString, parseStringToken, read, whole]

theorem render_number_starts (number : Number) :
    ∃ byte tail, number.render = byte :: tail ∧ (isDigit byte = true ∨ byte = 45) := by
  obtain ⟨byte, tail, held, decimal⟩ := Digits.exists_cons number.whole
  cases sign : number.minus with
  | true => exact ⟨45, _, by simp [Number.render, sign]; rfl, by simp⟩
  | false =>
      exact ⟨byte, _, by simp [Number.render, sign, held]; rfl, .inl decimal⟩

/-- A finite number that `strtod` reads back from its text alone is read back
from every text that ends it. -/
theorem readsNumeral_formatG17
    {value : Double}
    (finite : value.isFinite = true)
    (readsBack : readDouble (formatG17 value) = some (value, [])) :
    ReadsNumeral formatG17 id value := by
  obtain ⟨number, same⟩ := exists_number_formatG17 finite
  have alone := readDouble_render number endsNumber_nil
  rw [List.append_nil, same, readsBack] at alone
  have nearest : nearestDouble number = value := by
    simpa using alone.symm
  refine ⟨same ▸ render_number_starts number, fun rest ends => ?_⟩
  have read := readDouble_render number ends
  rwa [same, nearest] at read

/-- No byte of a numeral is the terminator. -/
theorem formatG17_all (value : Double) :
    (formatG17 value).all isTextByte = true := by
  cases value with
  | nan => decide
  | infinity negative => cases negative <;> decide
  | negativeZero => decide
  | finite rational =>
      have finite : (Double.finite rational).isFinite = true := by simp [isFinite]
      obtain ⟨number, same⟩ := exists_number_formatG17 finite
      rw [← same]
      exact number.render_all

/-- All bytes of a printed string are good when its own are. -/
theorem printString_all
    {good : UInt8 → Bool}
    (textBytes : ∀ byte, isTextByte byte = true → good byte = true)
    (value : CStr) :
    (printString value).all good = value.bytes.all good := by
  have quote : good 34 = true := textBytes 34 (by decide)
  have backslash : good 92 = true := textBytes 92 (by decide)
  have byte (code : UInt8) : (escaped code).all good = good code := by
    unfold escaped
    split
    · simp [quote, backslash]
    · simp [backslash]
    · simp [backslash, textBytes 110 (by decide), textBytes 10 (by decide)]
    · simp [backslash, textBytes 114 (by decide), textBytes 13 (by decide)]
    · simp [backslash, textBytes 116 (by decide), textBytes 9 (by decide)]
    · simp
  have bytes : (value.bytes.flatMap escaped).all good = value.bytes.all good := by
    simp only [List.all_flatMap, byte]
  simp only [printString, List.all_cons, List.all_append, List.all_nil, quote, bytes,
    Bool.true_and, Bool.and_true]

/-- All bytes of a printed tree are good when those of its strings are. -/
theorem printItem_all
    {good : UInt8 → Bool}
    (textBytes : ∀ byte, isTextByte byte = true → good byte = true)
    (item : CJson) :
    (printItem item).all good = item.strings.all fun text => text.bytes.all good := by
  obtain ⟨value, described⟩ := exists_describes item
  have numerals :
      (item.numbers.all fun number => (formatG17 number).all good) = true := by
    rw [List.all_eq_true]
    intro number _
    have text := formatG17_all number
    rw [List.all_eq_true] at text ⊢
    exact fun byte member => textBytes byte (text byte member)
  rw [← described.text, value.render_all textBytes, described.literals,
    described.numerals, numerals, Bool.and_true]
  simp only [printString_all textBytes]

/-- The printed bytes are those of a C string. -/
theorem bytes_printUnformatted (item : CJson) :
    (printUnformatted item).bytes = printItem item := by
  have textBytes : ∀ byte : UInt8, isTextByte byte = true → (byte != 0) = true := by
    intro byte text
    rw [bne_iff_ne]
    rintro rfl
    exact absurd text (by decide)
  have nonzero := printItem_all textBytes item
  have strings :
      (item.strings.all fun text => text.bytes.all fun byte => byte != 0) = true := by
    simp only [List.all_eq_true]
    intro text _ byte member
    simp only [bne_iff_ne, ne_eq]
    rintro rfl
    exact text.nulFree member
  rw [strings, List.all_eq_true] at nonzero
  apply CStr.bytes_ofBytes
  intro terminator
  simpa using nonzero 0 terminator

/-- `cJSON_Parse` reads the text of a syntax tree, whatever its lexicon. -/
theorem parse_render
    {Literal Numeral : Type}
    {literalText : Literal → List UInt8}
    {numeralText : Numeral → List UInt8}
    {readLiteral : Literal → CStr}
    {readNumeral : Numeral → Double}
    (syntaxTree : Text Literal Numeral)
    (literals : ∀ literal ∈ syntaxTree.value.literals,
      ReadsLiteral literalText readLiteral literal)
    (numerals : ∀ numeral ∈ syntaxTree.value.numerals,
      ReadsNumeral numeralText readNumeral numeral)
    {text : CStr}
    (same : text.bytes = syntaxTree.render literalText numeralText) :
    parse text = some (ofValue readLiteral readNumeral syntaxTree.value) := by
  have enough :
      3 * (syntaxTree.value.render literalText numeralText).length ≤
        3 * text.bytes.length + 3 := by
    rw [same]
    simp only [Text.render, List.length_append]
    omega
  have parsed := parseValue_render syntaxTree.value literals numerals enough
    (endsNumber_render_append endsNumber_nil syntaxTree.after)
  have ended := skipWs_render_append syntaxTree.after []
  have nothing : skipWs [] = [] := by simp [skipWs]
  simp only [List.append_nil, nothing] at parsed ended
  have whole : text.bytes = syntaxTree.before.render ++
      (syntaxTree.value.render literalText numeralText ++ syntaxTree.after.render) := by
    rw [same, Text.render, List.append_assoc]
  rw [whole] at parsed
  simp only [parse, whole, parseValue_render_append, parsed]
  simp [ended]

/-- Every tree is read back from its printed text, when `strtod` reads each of
its numbers back from the text of that number. -/
theorem parse_printUnformatted
    (item : CJson)
    (finite : ∀ value ∈ item.numbers, value.isFinite = true)
    (readsBack : ∀ value ∈ item.numbers,
      readDouble (formatG17 value) = some (value, [])) :
    parse (printUnformatted item) = some item := by
  obtain ⟨value, described⟩ := exists_describes item
  have printed : (printUnformatted item).bytes =
      Text.render printString formatG17 ⟨[], value, []⟩ := by
    simp [bytes_printUnformatted, Text.render, described.text]
  rw [← described.tree] at printed ⊢
  refine parse_render ⟨[], value, []⟩ ?_ ?_ printed
  · exact fun literal _ => parseStringToken_printString literal
  · intro number member
    rw [described.numerals] at member
    exact readsNumeral_formatG17 (finite number member) (readsBack number member)

/-- A tree with an escaped string, numbers and an empty array. -/
theorem parse_printUnformatted_document :
    let item : CJson :=
      .object [("fade \"in\"", .array [.number (.finite (1 / 2)), .number .negativeZero, .null,
        .array []])]
    (∀ value ∈ item.numbers, value.isFinite = true) ∧
      (∀ value ∈ item.numbers, readDouble (formatG17 value) = some (value, [])) ∧
      parse (printUnformatted item) = some item := by
  intro item
  have finite : ∀ value ∈ item.numbers, value.isFinite = true := by decide +kernel
  have readsBack : ∀ value ∈ item.numbers,
      readDouble (formatG17 value) = some (value, []) := by decide +kernel
  exact ⟨finite, readsBack, parse_printUnformatted item finite readsBack⟩

/-! ## Printed text as JSON -/

/-- A text byte is printed as a character of a literal. -/
theorem exists_item_escaped
    {byte : UInt8}
    (text : isTextByte byte = true) :
    ∃ item : Item, item.render = escaped byte := by
  unfold escaped
  split
  · exact ⟨.escape .quotationMark, by decide⟩
  · exact ⟨.escape .reverseSolidus, by decide⟩
  · exact ⟨.escape .lineFeed, by decide⟩
  · exact ⟨.escape .carriageReturn, by decide⟩
  · exact ⟨.escape .tab, by decide⟩
  · next quote backslash lineFeed carriageReturn tab =>
      have allowed : isUnescaped byte = true := by
        simp only [isTextByte, Bool.or_eq_true, decide_eq_true_eq] at text
        simp only [isUnescaped, Bool.and_eq_true, decide_eq_true_eq]
        grind
      exact ⟨.unescaped byte allowed, by simp [Item.render]⟩

/-- A string without raw control characters is printed as a literal. -/
theorem exists_literal_printString
    {value : CStr}
    (text : value.bytes.all isTextByte = true) :
    ∃ literal : Literal, literal.render = printString value := by
  have items :
      ∃ literal : Literal,
        literal.flatMap Item.render = value.bytes.flatMap escaped := by
    generalize value.bytes = bytes at text
    induction bytes with
    | nil => exact ⟨[], by simp⟩
    | cons byte tail hypothesis =>
        rw [List.all_cons, Bool.and_eq_true] at text
        obtain ⟨literal, same⟩ := hypothesis text.2
        obtain ⟨item, written⟩ := exists_item_escaped text.1
        exact ⟨item :: literal, by simp [written, same]⟩
  obtain ⟨literal, same⟩ := items
  exact ⟨literal, by simp [Literal.render, printString, same]⟩

/-- The printed text of a tree is JSON exactly when its strings have no
control characters but tabs, line feeds and carriage returns. -/
theorem isJson_printUnformatted_iff
    (item : CJson)
    (finite : ∀ value ∈ item.numbers, value.isFinite = true) :
    IsJson (printUnformatted item).bytes ↔
      ∀ text ∈ item.strings, text.bytes.all isTextByte = true := by
  rw [bytes_printUnformatted]
  constructor
  · rintro ⟨json, same⟩
    have bytes := json.bytes_all
    rw [same, printItem_all fun _ => id, List.all_eq_true] at bytes
    exact bytes
  · intro strings
    obtain ⟨value, described⟩ := exists_describes item
    have literals : ∀ literal ∈ value.literals,
        ∃ other : Literal, other.render = printString literal := by
      rw [described.literals]
      exact fun text member => exists_literal_printString (strings text member)
    have numerals : ∀ numeral ∈ value.numerals,
        ∃ other : Number, other.render = formatG17 numeral := by
      rw [described.numerals]
      exact fun number member => exists_number_formatG17 (finite number member)
    obtain ⟨json, same⟩ := value.exists_translation literals numerals
    exact ⟨⟨[], json, []⟩, by
      simp [Rfc8259.bytes, Text.render, same, described.text]⟩

/-- A string with a line feed is printed as JSON. -/
theorem isJson_printUnformatted_lineFeed :
    let item : CJson := .array [.string "two\nlines", .number (.finite (1 / 2))]
    (∀ value ∈ item.numbers, value.isFinite = true) ∧
      IsJson (printUnformatted item).bytes := by
  intro item
  have finite : ∀ value ∈ item.numbers, value.isFinite = true := by decide +kernel
  exact ⟨finite, (isJson_printUnformatted_iff item finite).mpr (by decide +kernel)⟩

/-- The text of a string with one control character is not JSON. -/
theorem isJson_control_string :
    ¬ ∀ item : CJson, (∀ value ∈ item.numbers, value.isFinite = true) →
      IsJson (printUnformatted item).bytes := by
  intro valid
  obtain ⟨json, same⟩ := valid (.string ⟨[1], by decide⟩) (by decide)
  have bytes := json.bytes_all
  rw [same] at bytes
  exact absurd bytes (by decide)

/-- The bytes that the parser stores for a character of a literal.  It has no
case for `u`, so that a `\u` escape leaves its digits. -/
def storedItem : Item → List UInt8
  | .unescaped byte _ => [byte]
  | .escape kind => [kind.meaning]
  | .unicode first second third fourth =>
      [117, first.byte, second.byte, third.byte, fourth.byte]

/-- The bytes that the parser stores for a literal. -/
def stored (literal : Literal) : List UInt8 :=
  literal.flatMap storedItem

/-- Bytes but the quote and the backslash are stored as they are. -/
theorem unquoted_cons
    {byte : UInt8}
    (quote : byte ≠ 34)
    (backslash : byte ≠ 92)
    (rest : List UInt8) :
    unquoted (byte :: rest) =
      (unquoted rest).map fun later => (byte :: later.1, later.2) := by
  rw [unquoted]
  · exact quote
  · exact fun same _ => backslash same
  · exact fun _ _ same _ => backslash same

/-- A hexadecimal digit is neither quote nor backslash. -/
theorem hexDigit_ne (digit : HexDigit) : digit.byte ≠ 34 ∧ digit.byte ≠ 92 := by
  have range := digit.hexadecimal
  constructor
  all_goals
    intro same
    rw [same] at range
    exact absurd range (by decide)

/-- A character of a literal is read as the bytes that are stored for it. -/
theorem unquoted_item
    (item : Item)
    (rest : List UInt8) :
    unquoted (item.render ++ rest) =
      (unquoted rest).map fun later => (storedItem item ++ later.1, later.2) := by
  cases item with
  | unescaped byte allowed =>
      simp only [isUnescaped, Bool.and_eq_true, decide_eq_true_eq] at allowed
      simp [Item.render, unquoted_cons allowed.1.2 allowed.2, storedItem]
  | escape kind =>
      cases kind <;> simp [Item.render, Escape.code, unquoted, unescaped, storedItem,
        Escape.meaning]
  | unicode first second third fourth =>
      simp [Item.render, unquoted, unescaped, unquoted_cons, hexDigit_ne, storedItem,
        Function.comp_def]

/-- The characters of a literal are read up to the closing quote. -/
theorem unquoted_literal
    (literal : Literal)
    (rest : List UInt8) :
    unquoted (literal.flatMap Item.render ++ 34 :: rest) =
      some (stored literal, rest) := by
  induction literal with
  | nil => simp [unquoted, stored]
  | cons item tail hypothesis =>
      rw [List.flatMap_cons, List.append_assoc, unquoted_item, hypothesis]
      simp [stored]

/-- What is stored for a literal. -/
def storedText (literal : Literal) : CStr :=
  CStr.ofBytes (stored literal)

theorem parseStringToken_literal (literal : Literal) :
    ReadsLiteral Literal.render storedText literal := by
  intro rest
  simp [Literal.render, parseStringToken, unquoted_literal, storedText]

/-- No terminator is stored for a literal. -/
theorem bytes_storedText (literal : Literal) :
    (storedText literal).bytes = stored literal := by
  apply CStr.bytes_ofBytes
  simp only [stored, List.mem_flatMap, not_exists, not_and]
  intro item _ member
  cases item with
  | unescaped byte allowed =>
      rw [storedItem, List.mem_singleton] at member
      rw [← member] at allowed
      exact absurd allowed (by decide)
  | escape kind => cases kind <;> exact absurd member (by decide)
  | unicode first second third fourth =>
      have nonzero (digit : HexDigit) : 0 ≠ digit.byte := by
        have range := digit.hexadecimal
        intro same
        rw [← same] at range
        exact absurd range (by decide)
      simp [storedItem, nonzero] at member

/-- `cJSON_Parse` accepts every text of the grammar. -/
theorem parse_rfc8259
    (json : Rfc8259)
    {text : CStr}
    (same : json.bytes = text.bytes) :
    parse text = some (ofValue storedText nearestDouble json.value) :=
  parse_render json (fun literal _ => parseStringToken_literal literal)
    (fun number _ => ⟨render_number_starts number, fun _ => readDouble_render number⟩)
    same.symm

/-- Text without `\u` escapes is stored as it decodes; with one, more bytes are
stored than its UTF-8 text has. -/
theorem length_decodeAfter
    (high : Option Nat)
    (literal : Literal)
    {bytes : List UInt8}
    (decoded : Literal.decodeAfter high literal = some bytes) :
    bytes.length ≤ (stored literal).length ∧
      (high.isSome = true ∨ literal.HasUnicodeEscape →
        bytes.length < (stored literal).length) := by
  induction literal generalizing high bytes with
  | nil =>
      cases high with
      | some unit => cases decoded
      | none =>
          simp only [Literal.decodeAfter, Option.some.injEq] at decoded
          simp [← decoded, Literal.HasUnicodeEscape]
  | cons item tail hypothesis =>
      have length : (stored (item :: tail)).length =
          (storedItem item).length + (stored tail).length := by
        simp [stored]
      have escapes : Literal.HasUnicodeEscape (item :: tail) ↔
          item.isUnicode = true ∨ Literal.HasUnicodeEscape tail := by
        simp [Literal.HasUnicodeEscape]
      rw [length, escapes]
      cases item with
      | unescaped byte allowed =>
          cases high with
          | some unit => cases decoded
          | none =>
              simp only [Literal.decodeAfter, Option.map_eq_map, Option.map_eq_some_iff]
                at decoded
              obtain ⟨later, decoded, rfl⟩ := decoded
              have shorter := hypothesis none decoded
              simp [storedItem, Item.isUnicode] at shorter ⊢
              grind
      | escape kind =>
          cases high with
          | some unit => cases decoded
          | none =>
              simp only [Literal.decodeAfter, Option.map_eq_map, Option.map_eq_some_iff]
                at decoded
              obtain ⟨later, decoded, rfl⟩ := decoded
              have shorter := hypothesis none decoded
              simp [storedItem, Item.isUnicode] at shorter ⊢
              grind
      | unicode first second third fourth =>
          have five : (storedItem (.unicode first second third fourth)).length = 5 := by
            simp [storedItem]
          -- Five bytes are stored; no character takes more than four.
          have enough : bytes.length < 5 + (stored tail).length := by
            cases high with
            | some unit =>
                simp only [Literal.decodeAfter] at decoded
                split_ifs at decoded
                simp only [Option.map_eq_map, Option.map_eq_some_iff] at decoded
                obtain ⟨later, decoded, rfl⟩ := decoded
                have shorter := (hypothesis none decoded).1
                have character := Literal.length_utf8_le (0x10000 +
                  (unit - 0xD800) * 0x400 +
                    (Literal.codeUnit first second third fourth - 0xDC00))
                rw [List.length_append]
                omega
            | none =>
                simp only [Literal.decodeAfter] at decoded
                split_ifs at decoded
                · have shorter := (hypothesis _ decoded).1
                  omega
                · simp only [Option.map_eq_map, Option.map_eq_some_iff] at decoded
                  obtain ⟨later, decoded, rfl⟩ := decoded
                  have shorter := (hypothesis none decoded).1
                  have character := Literal.length_utf8_le
                    (Literal.codeUnit first second third fourth)
                  rw [List.length_append]
                  omega
          rw [five]
          exact ⟨enough.le, fun _ => enough⟩

/-- A literal is stored as it decodes exactly when it has no `\u` escape. -/
theorem decode_eq_stored_iff (literal : Literal) :
    literal.decode = some (stored literal) ↔ ¬ literal.HasUnicodeEscape := by
  constructor
  · intro decoded escape
    have shorter := (length_decodeAfter none literal decoded).2 (.inr escape)
    omega
  · intro plain
    induction literal with
    | nil => simp [Literal.decode, Literal.decodeAfter, stored]
    | cons item tail hypothesis =>
        simp only [Literal.HasUnicodeEscape, List.exists_mem_cons_iff, not_or]
          at plain hypothesis
        have decoded := hypothesis plain.2
        simp only [Literal.decode] at decoded
        cases item with
        | unescaped byte allowed =>
            simp [Literal.decode, Literal.decodeAfter, decoded, stored, storedItem]
        | escape kind =>
            simp [Literal.decode, Literal.decodeAfter, decoded, stored, storedItem]
        | unicode first second third fourth => simp [Item.isUnicode] at plain

end CJson
end SbsServer
