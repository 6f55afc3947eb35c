import SbsServer.Common.CJsonCodec

/-!
# Accepted texts

A text that `cJSON_Parse` accepts is JSON up to its control characters, as long
as it has no escapes and no numbers.  The two sides together tell which texts
the parser treats as RFC 8259 asks.
-/

namespace SbsServer

open CLib CLib.Double Json

namespace CJson

/-- A control character becomes a space. -/
def blank (byte : UInt8) : UInt8 :=
  if byte < 32 then 32 else byte

/-- The text with its control characters replaced by spaces. -/
def blanked (text : List UInt8) : List UInt8 :=
  text.map blank

/-- Other characters stay. -/
theorem blank_of_le
    {byte : UInt8}
    (printable : 32 ≤ byte) :
    blank byte = byte := by
  rw [blank, if_neg (UInt8.not_lt.mpr printable)]

/-- A space is blank. -/
theorem blank_of_isSpace
    {byte : UInt8}
    (space : isSpace byte = true) :
    blank byte = 32 := by
  simp only [isSpace, Bool.or_eq_true, Bool.and_eq_true, decide_eq_true_eq] at space
  unfold blank
  split
  · simp
  · next printable =>
      rcases space with same | ⟨-, small⟩
      · exact same
      · exact absurd (UInt8.lt_of_le_of_lt small (by decide)) printable

/-- No blanked character is a control character. -/
theorem le_blank (byte : UInt8) : 32 ≤ blank byte := by
  unfold blank
  split
  · decide
  · next printable => exact UInt8.not_lt.mp printable

theorem exists_whitespace_skipWs (text : List UInt8) :
    ∃ space : Whitespace, blanked text = space.render ++ blanked (skipWs text) := by
  induction text with
  | nil => exact ⟨[], by simp [blanked, skipWs]⟩
  | cons byte tail hypothesis =>
      by_cases space : isSpace byte = true
      · obtain ⟨rest, same⟩ := hypothesis
        refine ⟨.space :: rest, ?_⟩
        simp only [blanked, skipWs] at same
        simp [blanked, skipWs, space, blank_of_isSpace space, same, Whitespace.render,
          Space.byte]
      · exact ⟨[], by simp [blanked, skipWs, space]⟩

/-- The stored part of an accepted literal without escapes. -/
theorem exists_literal_unquoted
    {text rest bytes : List UInt8}
    (accepted : unquoted text = some (bytes, rest))
    (plain : 92 ∉ blanked text) :
    ∃ literal : Literal,
      blanked text = literal.flatMap Item.render ++ 34 :: blanked rest := by
  induction text generalizing bytes with
  | nil => simp [unquoted] at accepted
  | cons byte tail hypothesis =>
      simp only [blanked, List.map_cons, List.mem_cons, not_or] at plain
      by_cases quote : byte = 34
      · subst quote
        simp only [unquoted, Option.some.injEq, Prod.mk.injEq] at accepted
        exact ⟨[], by simp [blanked, blank, accepted.2]⟩
      · have backslash : byte ≠ 92 := by
          rintro rfl
          exact plain.1 (by decide)
        rw [unquoted_cons quote backslash, Option.map_eq_some_iff] at accepted
        obtain ⟨⟨later, after⟩, accepted, same⟩ := accepted
        cases same
        obtain ⟨literal, same⟩ := hypothesis accepted plain.2
        have other : blank byte ≠ 34 := by
          unfold blank
          split
          · decide
          · exact quote
        have allowed : isUnescaped (blank byte) = true := by
          simp [isUnescaped, le_blank, other, Ne.symm plain.1]
        refine ⟨.unescaped (blank byte) allowed :: literal, ?_⟩
        simp only [blanked] at same
        simp [blanked, Item.render, same]

/-- An accepted literal without escapes. -/
theorem exists_literal_parseStringToken
    {text rest : List UInt8}
    {value : CStr}
    (accepted : parseStringToken text = some (value, rest))
    (plain : 92 ∉ blanked text) :
    ∃ literal : Literal, blanked text = literal.render ++ blanked rest := by
  unfold parseStringToken at accepted
  split at accepted
  · next tail =>
      rw [Option.map_eq_some_iff] at accepted
      obtain ⟨⟨bytes, after⟩, accepted, same⟩ := accepted
      cases same
      simp only [blanked, List.map_cons, List.mem_cons, not_or] at plain
      obtain ⟨literal, same⟩ := exists_literal_unquoted accepted plain.2
      refine ⟨literal, ?_⟩
      simp only [blanked] at same
      simp [blanked, Literal.render, same, blank]
  · cases accepted

/-! ## Structure -/

/-- Whitespace in front of elements belongs to the first. -/
theorem exists_elements_append
    (space : Whitespace)
    (elements : Elements Literal Number) :
    ∃ other : Elements Literal Number,
      other.render Literal.render Number.render =
        space.render ++ elements.render Literal.render Number.render := by
  cases elements with
  | last before value after =>
      exact ⟨.last (space ++ before) value after, by
        simp [Elements.render, Whitespace.render]⟩
  | more before value after rest =>
      exact ⟨.more (space ++ before) value after rest, by
        simp [Elements.render, Whitespace.render]⟩

/-- Whitespace in front of members belongs to the first name. -/
theorem exists_members_append
    (space : Whitespace)
    (members : Members Literal Number) :
    ∃ other : Members Literal Number,
      other.render Literal.render Number.render =
        space.render ++ members.render Literal.render Number.render := by
  cases members with
  | last name before value after =>
      exact ⟨.last ⟨space ++ name.before, name.literal, name.after⟩ before value after,
        by simp [Members.render, Name.render, Whitespace.render]⟩
  | more name before value after rest =>
      exact ⟨.more ⟨space ++ name.before, name.literal, name.after⟩ before value after
        rest, by simp [Members.render, Name.render, Whitespace.render]⟩

/-- A text whose blanked form starts with whitespace and a value. -/
def StartsWithValue (text rest : List UInt8) : Prop :=
  ∃ (space : Whitespace) (value : Value Literal Number),
    blanked text =
      space.render ++ (value.render Literal.render Number.render ++ blanked rest)

/-- Whitespace may stand before the value. -/
theorem StartsWithValue.of_skipWs
    {text rest : List UInt8}
    (starts : StartsWithValue (skipWs text) rest) :
    StartsWithValue text rest := by
  obtain ⟨space, value, same⟩ := starts
  obtain ⟨before, skipped⟩ := exists_whitespace_skipWs text
  exact ⟨before ++ space, value, by simp [skipped, same, Whitespace.render]⟩

/-- No backslash stands behind the value either. -/
theorem not_mem_of_append
    {text before rest : List UInt8}
    (same : text = before ++ rest)
    (plain : 92 ∉ text) :
    92 ∉ rest :=
  fun member => plain (same ▸ List.mem_append_right before member)

/-- A printable character stays. -/
theorem blanked_cons
    {byte : UInt8}
    (printable : 32 ≤ byte)
    (rest : List UInt8) :
    blanked (byte :: rest) = byte :: blanked rest := by
  simp [blanked, blank_of_le printable]

/-- Nothing is blanked in printable text. -/
theorem blanked_append
    {text : List UInt8}
    (printable : text.all (32 ≤ ·) = true)
    (rest : List UInt8) :
    blanked (text ++ rest) = text ++ blanked rest := by
  induction text with
  | nil => simp
  | cons byte tail hypothesis =>
      simp only [List.all_cons, Bool.and_eq_true, decide_eq_true_eq] at printable
      rw [List.cons_append, blanked_cons printable.1, hypothesis printable.2,
        List.cons_append]

mutual

/-- `parse_value` accepts values without numbers only where blanking leaves a
value. -/
theorem startsWithValue_parseValue
    {fuel : Nat}
    {text rest : List UInt8}
    {item : CJson}
    (accepted : parseValue fuel text = some (item, rest))
    (plain : 92 ∉ blanked text)
    (wordless : item.numbers = []) :
    StartsWithValue text rest := by
  obtain ⟨before, skipped⟩ := exists_whitespace_skipWs text
  have plain_skipped := not_mem_of_append skipped plain
  apply StartsWithValue.of_skipWs
  match fuel with
  | 0 => cases accepted
  | fuel + 1 =>
      rw [parseValue] at accepted
      generalize skipWs text = start at accepted plain_skipped
      split_ifs at accepted with object array string isTrue isFalse isNull
      · exact startsWithValue_parseObject accepted plain_skipped wordless
      · exact startsWithValue_parseArray accepted plain_skipped wordless
      · rw [Option.map_eq_some_iff] at accepted
        obtain ⟨⟨value, after⟩, accepted, same⟩ := accepted
        cases same
        obtain ⟨literal, same⟩ :=
          exists_literal_parseStringToken accepted plain_skipped
        exact ⟨[], .string literal, by simp [same, Value.render]⟩
      · obtain ⟨tail, rfl⟩ := List.isPrefixOf_iff_prefix.mp isTrue
        cases accepted
        exact ⟨[], .bool true, by
          rw [blanked_append (by decide)]
          simp [Value.render]⟩
      · obtain ⟨tail, rfl⟩ := List.isPrefixOf_iff_prefix.mp isFalse
        cases accepted
        exact ⟨[], .bool false, by
          rw [blanked_append (by decide)]
          simp [Value.render]⟩
      · obtain ⟨tail, rfl⟩ := List.isPrefixOf_iff_prefix.mp isNull
        cases accepted
        exact ⟨[], .null, by
          rw [blanked_append (by decide)]
          simp [Value.render]⟩
      · rw [Option.map_eq_some_iff] at accepted
        obtain ⟨read, -, same⟩ := accepted
        cases same
        simp [numbers] at wordless

theorem startsWithValue_parseArray
    {fuel : Nat}
    {text rest : List UInt8}
    {item : CJson}
    (accepted : parseArray fuel text = some (item, rest))
    (plain : 92 ∉ blanked text)
    (wordless : item.numbers = []) :
    StartsWithValue text rest := by
  obtain ⟨before, skipped⟩ := exists_whitespace_skipWs text
  have plain_skipped := not_mem_of_append skipped plain
  apply StartsWithValue.of_skipWs
  match fuel with
  | 0 => cases accepted
  | fuel + 1 =>
      rw [parseArray] at accepted
      split at accepted
      · next tail opened =>
          rw [opened] at plain_skipped ⊢
          obtain ⟨space, inner⟩ := exists_whitespace_skipWs tail
          have bracket := blanked_cons (show 32 ≤ 91 by decide) tail
          rw [bracket, List.mem_cons, not_or] at plain_skipped
          split at accepted
          · next after closed =>
              cases accepted
              have closing := blanked_cons (show 32 ≤ 93 by decide) rest
              exact ⟨[], .emptyArray space, by
                simp [bracket, inner, closed, closing, Value.render]⟩
          · next other =>
              rw [Option.map_eq_some_iff] at accepted
              obtain ⟨⟨items, after⟩, accepted, same⟩ := accepted
              cases same
              obtain ⟨elements, same⟩ := exists_elements_parseItems accepted
                (not_mem_of_append inner plain_skipped.2)
                (by simpa [numbers] using wordless)
              obtain ⟨moved, moved_text⟩ := exists_elements_append space elements
              exact ⟨[], .array moved, by
                simp [bracket, inner, same, Value.render, moved_text]⟩
      · cases accepted

/-- The loop of `parse_array` accepts items without numbers only where blanking
leaves elements and a bracket. -/
theorem exists_elements_parseItems
    {fuel : Nat}
    {text rest : List UInt8}
    {items : List CJson}
    (accepted : parseItems fuel text = some (items, rest))
    (plain : 92 ∉ blanked text)
    (wordless : numbersOfItems items = []) :
    ∃ elements : Elements Literal Number,
      blanked text =
        elements.render Literal.render Number.render ++ 93 :: blanked rest := by
  match fuel with
  | 0 => cases accepted
  | fuel + 1 =>
      simp only [parseItems, Option.bind_eq_bind, Option.bind_eq_some_iff] at accepted
      obtain ⟨⟨item, after⟩, parsed, accepted⟩ := accepted
      obtain ⟨space, skipped⟩ := exists_whitespace_skipWs after
      split at accepted
      · next tail closed =>
          cases accepted
          obtain ⟨before, value, same⟩ := startsWithValue_parseValue parsed plain
            (by simpa [numbersOfItems] using wordless)
          have closing := blanked_cons (show 32 ≤ 93 by decide) rest
          exact ⟨.last before value space, by
            simp [same, skipped, closed, closing, Elements.render]⟩
      · next tail separated =>
          simp only [Option.bind_eq_some_iff, Option.some.injEq] at accepted
          obtain ⟨⟨others, last⟩, accepted, same⟩ := accepted
          cases same
          simp only [numbersOfItems, List.append_eq_nil_iff] at wordless
          obtain ⟨before, value, same⟩ :=
            startsWithValue_parseValue parsed plain wordless.1
          have comma := blanked_cons (show 32 ≤ 44 by decide) tail
          obtain ⟨next_space, next_skipped⟩ := exists_whitespace_skipWs tail
          have plain_after : 92 ∉ blanked after := by
            rw [same, ← List.append_assoc] at plain
            exact not_mem_of_append rfl plain
          have plain_next : 92 ∉ blanked (skipWs tail) := by
            rw [skipped, separated, comma] at plain_after
            have plain_tail := (not_mem_of_append rfl plain_after)
            rw [List.mem_cons, not_or] at plain_tail
            exact not_mem_of_append next_skipped plain_tail.2
          obtain ⟨elements, rest_same⟩ :=
            exists_elements_parseItems accepted plain_next wordless.2
          obtain ⟨moved, moved_text⟩ := exists_elements_append next_space elements
          exact ⟨.more before value space moved, by
            simp [same, skipped, separated, comma, next_skipped, rest_same, moved_text,
              Elements.render]⟩
      · cases accepted

theorem startsWithValue_parseObject
    {fuel : Nat}
    {text rest : List UInt8}
    {item : CJson}
    (accepted : parseObject fuel text = some (item, rest))
    (plain : 92 ∉ blanked text)
    (wordless : item.numbers = []) :
    StartsWithValue text rest := by
  obtain ⟨before, skipped⟩ := exists_whitespace_skipWs text
  have plain_skipped := not_mem_of_append skipped plain
  apply StartsWithValue.of_skipWs
  match fuel with
  | 0 => cases accepted
  | fuel + 1 =>
      rw [parseObject] at accepted
      split at accepted
      · next tail opened =>
          rw [opened] at plain_skipped ⊢
          obtain ⟨space, inner⟩ := exists_whitespace_skipWs tail
          have brace := blanked_cons (show 32 ≤ 123 by decide) tail
          rw [brace, List.mem_cons, not_or] at plain_skipped
          split at accepted
          · next after closed =>
              cases accepted
              have closing := blanked_cons (show 32 ≤ 125 by decide) rest
              exact ⟨[], .emptyObject space, by
                simp [brace, inner, closed, closing, Value.render]⟩
          · next other =>
              rw [Option.map_eq_some_iff] at accepted
              obtain ⟨⟨members, after⟩, accepted, same⟩ := accepted
              cases same
              obtain ⟨described, same⟩ := exists_members_parseMembers accepted
                (not_mem_of_append inner plain_skipped.2)
                (by simpa [numbers] using wordless)
              obtain ⟨moved, moved_text⟩ := exists_members_append space described
              exact ⟨[], .object moved, by
                simp [brace, inner, same, Value.render, moved_text]⟩
      · cases accepted

/-- The loop of `parse_object` accepts members without numbers only where
blanking leaves members and a brace. -/
theorem exists_members_parseMembers
    {fuel : Nat}
    {text rest : List UInt8}
    {members : List (CStr × CJson)}
    (accepted : parseMembers fuel text = some (members, rest))
    (plain : 92 ∉ blanked text)
    (wordless : numbersOfMembers members = []) :
    ∃ described : Members Literal Number,
      blanked text =
        described.render Literal.render Number.render ++ 125 :: blanked rest := by
  match fuel with
  | 0 => cases accepted
  | fuel + 1 =>
      simp only [parseMembers, Option.bind_eq_bind, Option.bind_eq_some_iff] at accepted
      obtain ⟨⟨key, behind⟩, named, accepted⟩ := accepted
      obtain ⟨literal, key_same⟩ := exists_literal_parseStringToken named plain
      have plain_behind := not_mem_of_append key_same plain
      obtain ⟨key_space, key_skipped⟩ := exists_whitespace_skipWs behind
      split at accepted
      · next value_text colon_found =>
          simp only [Option.bind_eq_some_iff] at accepted
          obtain ⟨⟨item, after⟩, parsed, accepted⟩ := accepted
          have colon := blanked_cons (show 32 ≤ 58 by decide) value_text
          obtain ⟨value_space, value_skipped⟩ := exists_whitespace_skipWs value_text
          have plain_value : 92 ∉ blanked (skipWs value_text) := by
            rw [key_skipped, colon_found, colon] at plain_behind
            have plain_text := not_mem_of_append rfl plain_behind
            rw [List.mem_cons, not_or] at plain_text
            exact not_mem_of_append value_skipped plain_text.2
          obtain ⟨space, skipped⟩ := exists_whitespace_skipWs after
          split at accepted
          · next tail closed =>
              cases accepted
              obtain ⟨before, value, same⟩ :=
                startsWithValue_parseValue parsed plain_value
                  (by simpa [numbersOfMembers] using wordless)
              have closing := blanked_cons (show 32 ≤ 125 by decide) rest
              exact ⟨.last ⟨[], literal, key_space⟩ (value_space ++ before) value space,
                by
                  simp [key_same, key_skipped, colon_found, colon, value_skipped, same,
                    skipped, closed, closing, Members.render, Name.render,
                    Whitespace.render]⟩
          · next tail separated =>
              simp only [Option.bind_eq_some_iff, Option.some.injEq] at accepted
              obtain ⟨⟨others, last⟩, accepted, same⟩ := accepted
              cases same
              simp only [numbersOfMembers, List.append_eq_nil_iff] at wordless
              obtain ⟨before, value, same⟩ :=
                startsWithValue_parseValue parsed plain_value wordless.1
              have comma := blanked_cons (show 32 ≤ 44 by decide) tail
              obtain ⟨next_space, next_skipped⟩ := exists_whitespace_skipWs tail
              have plain_after : 92 ∉ blanked after := by
                rw [same, ← List.append_assoc] at plain_value
                exact not_mem_of_append rfl plain_value
              have plain_next : 92 ∉ blanked (skipWs tail) := by
                rw [skipped, separated, comma] at plain_after
                have plain_tail := not_mem_of_append rfl plain_after
                rw [List.mem_cons, not_or] at plain_tail
                exact not_mem_of_append next_skipped plain_tail.2
              obtain ⟨described, rest_same⟩ :=
                exists_members_parseMembers accepted plain_next wordless.2
              obtain ⟨moved, moved_text⟩ := exists_members_append next_space described
              exact ⟨.more ⟨[], literal, key_space⟩ (value_space ++ before) value space
                moved, by
                  simp [key_same, key_skipped, colon_found, colon, value_skipped, same,
                    skipped, separated, comma, next_skipped, rest_same, moved_text,
                    Members.render, Name.render, Whitespace.render]⟩
          · cases accepted
      · cases accepted

end

/-- An accepted text without escapes and numbers is JSON after blanking. -/
theorem isJson_blanked
    {text : CStr}
    {item : CJson}
    (accepted : parse text = some item)
    (plain : 92 ∉ text.bytes)
    (wordless : item.numbers = []) :
    IsJson (blanked text.bytes) := by
  have plain_blanked : 92 ∉ blanked text.bytes := by
    simp only [blanked, List.mem_map, not_exists, not_and]
    intro byte member same
    unfold blank at same
    split at same
    · exact absurd same (by decide)
    · exact plain (same ▸ member)
  simp only [parse, Option.bind_eq_bind, Option.bind_eq_some_iff] at accepted
  obtain ⟨⟨found, rest⟩, parsed, accepted⟩ := accepted
  obtain ⟨after, skipped⟩ := exists_whitespace_skipWs rest
  split at accepted
  · next ended =>
      cases accepted
      obtain ⟨before, value, same⟩ :=
        startsWithValue_parseValue parsed plain_blanked wordless
      have nothing : blanked [] = [] := by simp [blanked]
      rw [ended, nothing, List.append_nil] at skipped
      refine ⟨⟨before, value, after⟩, ?_⟩
      rw [same, skipped, Rfc8259.bytes, Text.render, List.append_assoc]
  · cases accepted

mutual

/-- The strings of the tree that a value describes. -/
theorem strings_ofValue
    {Literal Numeral : Type}
    (readLiteral : Literal → CStr)
    (readNumeral : Numeral → Double)
    (value : Value Literal Numeral) :
    (ofValue readLiteral readNumeral value).strings =
      value.literals.map readLiteral := by
  cases value with
  | array elements =>
      simpa [ofValue, strings, Value.literals] using
        stringsOfItems_ofElements readLiteral readNumeral elements
  | object members =>
      simpa [ofValue, strings, Value.literals] using
        stringsOfMembers_ofMembers readLiteral readNumeral members
  | null => simp [ofValue, strings, Value.literals]
  | bool truth => simp [ofValue, strings, Value.literals]
  | number numeral => simp [ofValue, strings, Value.literals]
  | string literal => simp [ofValue, strings, Value.literals]
  | emptyArray space => simp [ofValue, strings, stringsOfItems, Value.literals]
  | emptyObject space => simp [ofValue, strings, stringsOfMembers, Value.literals]

theorem stringsOfItems_ofElements
    {Literal Numeral : Type}
    (readLiteral : Literal → CStr)
    (readNumeral : Numeral → Double)
    (elements : Elements Literal Numeral) :
    stringsOfItems (ofElements readLiteral readNumeral elements) =
      elements.literals.map readLiteral := by
  cases elements with
  | last before value after =>
      simp [ofElements, stringsOfItems, Elements.literals,
        strings_ofValue readLiteral readNumeral value]
  | more before value after rest =>
      simp [ofElements, stringsOfItems, Elements.literals,
        strings_ofValue readLiteral readNumeral value,
        stringsOfItems_ofElements readLiteral readNumeral rest]

/-- The strings of the items that members describe. -/
theorem stringsOfMembers_ofMembers
    {Literal Numeral : Type}
    (readLiteral : Literal → CStr)
    (readNumeral : Numeral → Double)
    (members : Members Literal Numeral) :
    stringsOfMembers (ofMembers readLiteral readNumeral members) =
      members.literals.map readLiteral := by
  cases members with
  | last name before value after =>
      simp [ofMembers, stringsOfMembers, Members.literals,
        strings_ofValue readLiteral readNumeral value]
  | more name before value after rest =>
      simp [ofMembers, stringsOfMembers, Members.literals,
        strings_ofValue readLiteral readNumeral value,
        stringsOfMembers_ofMembers readLiteral readNumeral rest]

end

/-- If the text is JSON, it is accepted, and each string of the result is the
UTF-8 text of its literal. -/
def DecodesJson (text : CStr) : Prop :=
  ∀ json : Rfc8259, json.bytes = text.bytes →
    ∃ reading : Literal → CStr,
      parse text = some (ofValue reading nearestDouble json.value) ∧
        ∀ literal ∈ json.value.literals,
          literal.decode = some (reading literal).bytes

/-- If the text is accepted, without escapes and numbers, it is JSON up to its
control characters. -/
def AcceptsJson (text : CStr) : Prop :=
  ∀ item, parse text = some item → 92 ∉ text.bytes → item.numbers = [] →
    IsJson (blanked text.bytes)

/-- The parser treats a text as the grammar asks exactly when the text is not
JSON with a `\u` escape. -/
theorem decodesJson_and_acceptsJson_iff (text : CStr) :
    DecodesJson text ∧ AcceptsJson text ↔
      ∀ json : Rfc8259, json.bytes = text.bytes →
        ∀ literal ∈ json.value.literals, ¬ literal.HasUnicodeEscape := by
  constructor
  · rintro ⟨decodes, -⟩ json same literal member
    obtain ⟨reading, parsed, decoded⟩ := decodes json same
    rw [parse_rfc8259 json same, Option.some.injEq] at parsed
    have readings : json.value.literals.map storedText =
        json.value.literals.map reading := by
      rw [← strings_ofValue storedText nearestDouble json.value, parsed,
        strings_ofValue]
    have reading_same := List.map_inj_left.mp readings literal member
    rw [← decode_eq_stored_iff, decoded literal member, ← reading_same,
      bytes_storedText]
  · intro plain
    refine ⟨fun json same => ?_, fun item accepted => isJson_blanked accepted⟩
    refine ⟨storedText, parse_rfc8259 json same, fun literal member => ?_⟩
    rw [bytes_storedText, decode_eq_stored_iff]
    exact plain json same literal member

/-- The parser reads `\u0041` as five letters. -/
theorem unicode_escape_not_decoded :
    ¬ ∀ text : CStr, DecodesJson text ∧ AcceptsJson text := by
  intro all
  let zero : HexDigit := ⟨48, by decide⟩
  let literal : Literal := [.unicode zero zero ⟨52, by decide⟩ ⟨49, by decide⟩]
  let json : Rfc8259 := ⟨[], .string literal, []⟩
  obtain ⟨reading, parsed, decoded⟩ := (all ⟨json.bytes, by decide⟩).1 json rfl
  have letter := decoded literal (by simp [json, Value.literals])
  rw [parse_rfc8259 json rfl] at parsed
  simp only [json, ofValue, Option.some.injEq, CJson.string.injEq] at parsed
  rw [← parsed, bytes_storedText] at letter
  exact absurd letter (by decide)

end CJson
end SbsServer
