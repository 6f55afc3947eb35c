import SbsServer.Common.CJsonText

/-!
# Layouts of JSON text

A syntax tree of JSON is read as a `cJSON` tree, and `cJSON_Parse` finds that
tree in its text, whatever the lexicon, as long as the source reads each
literal and each numeral of the tree.
-/

namespace SbsServer

open CLib CLib.Double Json

namespace CJson

section Reading

variable {Literal Numeral : Type}
variable (literalText : Literal → List UInt8) (numeralText : Numeral → List UInt8)
variable (readLiteral : Literal → CStr) (readNumeral : Numeral → Double)

mutual

/-- The tree that a value describes. -/
def ofValue : Value Literal Numeral → CJson
  | .null => .null
  | .bool truth => .bool truth
  | .number numeral => .number (readNumeral numeral)
  | .string literal => .string (readLiteral literal)
  | .emptyArray _ => .array []
  | .array elements => .array (ofElements elements)
  | .emptyObject _ => .object []
  | .object members => .object (ofMembers members)

/-- The items that elements describe. -/
def ofElements : Elements Literal Numeral → List CJson
  | .last _ value _ => [ofValue value]
  | .more _ value _ rest => ofValue value :: ofElements rest

/-- The named items that members describe. -/
def ofMembers : Members Literal Numeral → List (CStr × CJson)
  | .last name _ value _ => [(readLiteral name.literal, ofValue value)]
  | .more name _ value _ rest =>
      (readLiteral name.literal, ofValue value) :: ofMembers rest

end

/-- `parse_string_token` reads the text of a literal up to its end. -/
def ReadsLiteral (literal : Literal) : Prop :=
  ∀ rest, parseStringToken (literalText literal ++ rest) =
    some (readLiteral literal, rest)

/-- `strtod` reads the text of a numeral up to its end, and the text starts as
a number does. -/
structure ReadsNumeral (numeral : Numeral) : Prop where
  starts : ∃ byte tail, numeralText numeral = byte :: tail ∧
    (isDigit byte = true ∨ byte = 45)
  reads : ∀ rest, EndsNumber rest →
    readDouble (numeralText numeral ++ rest) = some (readNumeral numeral, rest)

end Reading

/-- Whitespace of the grammar is skipped. -/
theorem skipWs_render_append
    (blank : Whitespace)
    (rest : List UInt8) :
    skipWs (blank.render ++ rest) = skipWs rest := by
  induction blank with
  | nil => simp
  | cons character tail hypothesis =>
      cases character <;>
        simpa [Whitespace.render, Space.byte, skipWs, isSpace] using hypothesis

/-- Skipping stops at the first byte that is no space. -/
theorem skipWs_cons
    {byte : UInt8}
    (other : isSpace byte = false)
    (rest : List UInt8) :
    skipWs (byte :: rest) = byte :: rest := by
  simp [skipWs, other]

/-- The structural characters are no spaces. -/
theorem skipWs_structural (rest : List UInt8) :
    skipWs (44 :: rest) = 44 :: rest ∧ skipWs (58 :: rest) = 58 :: rest ∧
      skipWs (93 :: rest) = 93 :: rest ∧ skipWs (125 :: rest) = 125 :: rest :=
  ⟨skipWs_cons (by decide) rest, skipWs_cons (by decide) rest,
    skipWs_cons (by decide) rest, skipWs_cons (by decide) rest⟩

/-- Skipping twice skips nothing more. -/
@[simp] theorem skipWs_skipWs (text : List UInt8) :
    skipWs (skipWs text) = skipWs text := by
  induction text with
  | nil => simp [skipWs]
  | cons byte tail hypothesis =>
      by_cases space : isSpace byte = true
      · simpa [skipWs, space] using hypothesis
      · simp [skipWs, space]

theorem parseValue_skipWs
    (fuel : Nat)
    (text : List UInt8) :
    parseValue fuel (skipWs text) = parseValue fuel text := by
  cases fuel with
  | zero => simp [parseValue]
  | succ fuel => simp [parseValue]

/-- `parse_value` skips the whitespace of the grammar. -/
theorem parseValue_render_append
    (fuel : Nat)
    (blank : Whitespace)
    (rest : List UInt8) :
    parseValue fuel (blank.render ++ rest) = parseValue fuel rest := by
  rw [← parseValue_skipWs, skipWs_render_append, parseValue_skipWs]

/-- Whitespace and what follows it end a number. -/
theorem endsNumber_render_append
    {rest : List UInt8}
    (ends : EndsNumber rest)
    (blank : Whitespace) :
    EndsNumber (blank.render ++ rest) := by
  cases blank with
  | nil => simpa using ends
  | cons character tail =>
      intro byte head
      cases character <;>
        simp only [Whitespace.render, List.map_cons, List.cons_append,
          List.head?_cons, Option.some.injEq, Space.byte] at head <;>
        subst head <;> decide

/-- The end of the text ends a number. -/
theorem endsNumber_nil : EndsNumber [] := by
  simp [EndsNumber]

/-- The bytes behind the values of arrays and objects end a number. -/
theorem endsNumber_cons
    {byte : UInt8}
    (structural : byte = 44 ∨ byte = 93 ∨ byte = 125)
    (rest : List UInt8) :
    EndsNumber (byte :: rest) := by
  intro code head
  simp only [List.head?_cons, Option.some.injEq] at head
  subst head
  rcases structural with rfl | rfl | rfl <;> decide

/-! ## Parsing a layout -/

section Parsing

variable {Literal Numeral : Type}
variable {literalText : Literal → List UInt8} {numeralText : Numeral → List UInt8}
variable {readLiteral : Literal → CStr} {readNumeral : Numeral → Double}

/-- A literal that is read starts with a quotation mark. -/
theorem ReadsLiteral.exists_cons
    {literal : Literal}
    (reads : ReadsLiteral literalText readLiteral literal) :
    ∃ tail, literalText literal = 34 :: tail := by
  have read := reads []
  rw [List.append_nil] at read
  generalize literalText literal = text at read
  unfold parseStringToken at read
  split at read
  · exact ⟨_, rfl⟩
  · cases read

/-- A name is read as its literal. -/
theorem parseStringToken_name
    {name : Name Literal}
    (reads : ReadsLiteral literalText readLiteral name.literal)
    (rest : List UInt8) :
    parseStringToken (skipWs (name.render literalText ++ rest)) =
      some (readLiteral name.literal, name.after.render ++ rest) := by
  obtain ⟨tail, held⟩ := reads.exists_cons
  have read := reads (name.after.render ++ rest)
  rw [held] at read
  rw [Name.render, List.append_assoc, List.append_assoc, skipWs_render_append,
    held, List.cons_append, skipWs_cons (by decide)]
  exact read

/-- A value's text starts with a byte that is no space. -/
theorem skipWs_value
    {value : Value Literal Numeral}
    (literals : ∀ literal ∈ value.literals,
      ReadsLiteral literalText readLiteral literal)
    (numerals : ∀ numeral ∈ value.numerals,
      ReadsNumeral numeralText readNumeral numeral)
    (rest : List UInt8) :
    skipWs (value.render literalText numeralText ++ rest) =
      value.render literalText numeralText ++ rest := by
  cases value with
  | number numeral =>
      obtain ⟨byte, tail, held, first⟩ :=
        (numerals numeral (by simp [Value.numerals])).starts
      have other : isSpace byte = false := by
        rcases first with decimal | rfl
        · simp [isDigit, UInt8.le_iff_toNat_le] at decimal
          simp [isSpace, UInt8.le_iff_toNat_le, ← UInt8.toNat_inj]
          omega
        · decide
      rw [Value.render, held, List.cons_append, skipWs_cons other]
  | string literal =>
      obtain ⟨tail, held⟩ :=
        (literals literal (by simp [Value.literals])).exists_cons
      rw [Value.render, held, List.cons_append, skipWs_cons (by decide)]
  | bool truth => cases truth <;> simp [Value.render, skipWs, isSpace]
  | null => simp [Value.render, skipWs, isSpace]
  | emptyArray blank => simp [Value.render, skipWs, isSpace]
  | array elements => simp [Value.render, skipWs, isSpace]
  | emptyObject blank => simp [Value.render, skipWs, isSpace]
  | object members => simp [Value.render, skipWs, isSpace]

/-- A value's text is not empty. -/
theorem render_length_pos
    {value : Value Literal Numeral}
    (literals : ∀ literal ∈ value.literals,
      ReadsLiteral literalText readLiteral literal)
    (numerals : ∀ numeral ∈ value.numerals,
      ReadsNumeral numeralText readNumeral numeral) :
    0 < (value.render literalText numeralText).length := by
  cases value with
  | number numeral =>
      obtain ⟨byte, tail, held, first⟩ :=
        (numerals numeral (by simp [Value.numerals])).starts
      simp [Value.render, held]
  | string literal =>
      obtain ⟨tail, held⟩ :=
        (literals literal (by simp [Value.literals])).exists_cons
      simp [Value.render, held]
  | bool truth => cases truth <;> simp [Value.render]
  | null => simp [Value.render]
  | emptyArray blank => simp [Value.render]
  | array elements => simp [Value.render]
  | emptyObject blank => simp [Value.render]
  | object members => simp [Value.render]

/-- No number starts with a bracket. -/
theorem readDouble_bracket (rest : List UInt8) : readDouble (93 :: rest) = none := by
  have infinity : (CStr.lit "infinity").bytes =
      [105, 110, 102, 105, 110, 105, 116, 121] := by decide
  have inf : (CStr.lit "inf").bytes = [105, 110, 102] := by decide
  have nan : (CStr.lit "nan").bytes = [110, 97, 110] := by decide
  have hexadecimal : (CStr.lit "0x").bytes = [48, 120] := by decide
  simp [readDouble, isSpace, scanSign, hasPrefix, infinity, inf, nan, hexadecimal,
    List.isPrefixOf, readMagnitude, scanDigits, digitOf]

/-- The loop of `parse_array` does not accept a bracket at once. -/
theorem parseItems_bracket
    (fuel : Nat)
    (rest : List UInt8) :
    parseItems fuel (93 :: rest) = none := by
  rcases fuel with _ | _ | fuel
  · simp [parseItems]
  · simp [parseItems, parseValue]
  · simp [parseItems, parseValue, skipWs, isSpace, readDouble_bracket,
      List.isPrefixOf]

/-- An array without items. -/
theorem parseArray_empty
    (fuel : Nat)
    (blank : Whitespace)
    (rest : List UInt8) :
    parseArray (fuel + 1) (91 :: (blank.render ++ 93 :: rest)) =
      some (.array [], rest) := by
  have opened : skipWs (91 :: (blank.render ++ 93 :: rest)) =
      91 :: (blank.render ++ 93 :: rest) :=
    skipWs_cons (by decide) _
  have closed : skipWs (blank.render ++ 93 :: rest) = 93 :: rest := by
    rw [skipWs_render_append, skipWs_cons (by decide)]
  simp [parseArray, opened, closed]

/-- An object without members. -/
theorem parseObject_empty
    (fuel : Nat)
    (blank : Whitespace)
    (rest : List UInt8) :
    parseObject (fuel + 1) (123 :: (blank.render ++ 125 :: rest)) =
      some (.object [], rest) := by
  have opened : skipWs (123 :: (blank.render ++ 125 :: rest)) =
      123 :: (blank.render ++ 125 :: rest) :=
    skipWs_cons (by decide) _
  have closed : skipWs (blank.render ++ 125 :: rest) = 125 :: rest := by
    rw [skipWs_render_append, skipWs_cons (by decide)]
  simp [parseObject, opened, closed]

/-- An array whose items its loop reads. -/
theorem parseArray_items
    {fuel : Nat}
    {text rest : List UInt8}
    {items : List CJson}
    (parsed : parseItems fuel (skipWs text) = some (items, rest)) :
    parseArray (fuel + 1) (91 :: text) = some (.array items, rest) := by
  have opened : skipWs (91 :: text) = 91 :: text := skipWs_cons (by decide) _
  simp only [parseArray, opened]
  split
  · next other held =>
      rw [held, parseItems_bracket] at parsed
      cases parsed
  · simp [parsed]

/-- An object whose members its loop reads. -/
theorem parseObject_members
    {fuel : Nat}
    {text rest : List UInt8}
    {members : List (CStr × CJson)}
    (parsed : parseMembers fuel (skipWs text) = some (members, rest)) :
    parseObject (fuel + 1) (123 :: text) = some (.object members, rest) := by
  have opened : skipWs (123 :: text) = 123 :: text := skipWs_cons (by decide) _
  simp only [parseObject, opened]
  split
  · next other held =>
      cases fuel <;> simp [held, parseMembers, parseStringToken] at parsed
  · simp [parsed]

/-- Text that starts as a number does is left to `strtod`. -/
theorem parseValue_number
    (fuel : Nat)
    {byte : UInt8}
    (first : isDigit byte = true ∨ byte = 45)
    (tail : List UInt8) :
    parseValue (fuel + 1) (byte :: tail) =
      (readDouble (byte :: tail)).map fun read => (.number read.1, read.2) := by
  have range : byte.toNat ≤ 57 ∧ 45 ≤ byte.toNat := by
    rcases first with decimal | rfl
    · simp [isDigit, UInt8.le_iff_toNat_le] at decimal
      omega
    · decide
  have differs (code : UInt8) (outside : 57 < code.toNat ∨ code.toNat < 45) :
      byte ≠ code := by
    rintro rfl
    omega
  have other : isSpace byte = false := by
    simp [isSpace, UInt8.le_iff_toNat_le, ← UInt8.toNat_inj]
    omega
  simp [parseValue, skipWs_cons other, List.isPrefixOf, differs, (differs _ _).symm]

mutual

/-- The source reads the text of a value up to its end. -/
theorem parseValue_render
    (value : Value Literal Numeral)
    (literals : ∀ literal ∈ value.literals,
      ReadsLiteral literalText readLiteral literal)
    (numerals : ∀ numeral ∈ value.numerals,
      ReadsNumeral numeralText readNumeral numeral)
    {fuel : Nat}
    (enough : 3 * (value.render literalText numeralText).length ≤ fuel)
    {rest : List UInt8}
    (ends : EndsNumber rest) :
    parseValue fuel (value.render literalText numeralText ++ rest) =
      some (ofValue readLiteral readNumeral value, rest) := by
  have positive := render_length_pos literals numerals
  have start := skipWs_value literals numerals rest
  obtain ⟨fuel, rfl⟩ : ∃ less, fuel = less + 1 := ⟨fuel - 1, by omega⟩
  cases value with
  | null => simp [parseValue, Value.render, skipWs, isSpace, ofValue]
  | bool truth =>
      cases truth <;> simp [parseValue, Value.render, skipWs, isSpace, ofValue]
  | number numeral =>
      have reads := numerals numeral (by simp [Value.numerals])
      obtain ⟨byte, tail, held, first⟩ := reads.starts
      have read := reads.reads rest ends
      rw [held, List.cons_append] at read
      rw [Value.render, held, List.cons_append, parseValue_number fuel first, read]
      simp [ofValue]
  | string literal =>
      have reads := literals literal (by simp [Value.literals])
      obtain ⟨tail, held⟩ := reads.exists_cons
      have read := reads rest
      rw [Value.render] at start ⊢
      rw [held, List.cons_append] at start read ⊢
      simp only [parseValue, start]
      simp [read, ofValue]
  | emptyArray blank =>
      obtain ⟨fuel, rfl⟩ : ∃ less, fuel = less + 1 := ⟨fuel - 1, by omega⟩
      simp only [Value.render, List.cons_append, List.append_assoc, List.nil_append]
        at start ⊢
      simp [parseValue, start, parseArray_empty, ofValue]
  | array elements =>
      obtain ⟨fuel, rfl⟩ : ∃ less, fuel = less + 1 := ⟨fuel - 1, by omega⟩
      have smaller : 3 * (elements.render literalText numeralText).length + 1 ≤
          fuel := by
        simp only [Value.render, List.length_cons, List.length_append] at enough
        omega
      have parsed := parseItems_render elements
        (by simpa only [Value.literals] using literals)
        (by simpa only [Value.numerals] using numerals) smaller rest
      have array := parseArray_items parsed
      simp only [Value.render, List.cons_append, List.append_assoc, List.nil_append]
        at start ⊢
      simp [parseValue, start, array, ofValue]
  | emptyObject blank =>
      obtain ⟨fuel, rfl⟩ : ∃ less, fuel = less + 1 := ⟨fuel - 1, by omega⟩
      simp only [Value.render, List.cons_append, List.append_assoc, List.nil_append]
        at start ⊢
      simp [parseValue, start, parseObject_empty, ofValue]
  | object members =>
      obtain ⟨fuel, rfl⟩ : ∃ less, fuel = less + 1 := ⟨fuel - 1, by omega⟩
      have smaller : 3 * (members.render literalText numeralText).length + 1 ≤
          fuel := by
        simp only [Value.render, List.length_cons, List.length_append] at enough
        omega
      have parsed := parseMembers_render members
        (by simpa only [Value.literals] using literals)
        (by simpa only [Value.numerals] using numerals) smaller rest
      have object := parseObject_members parsed
      simp only [Value.render, List.cons_append, List.append_assoc, List.nil_append]
        at start ⊢
      simp [parseValue, start, object, ofValue]

/-- The loop of `parse_array` reads the text of elements. -/
theorem parseItems_render
    (elements : Elements Literal Numeral)
    (literals : ∀ literal ∈ elements.literals,
      ReadsLiteral literalText readLiteral literal)
    (numerals : ∀ numeral ∈ elements.numerals,
      ReadsNumeral numeralText readNumeral numeral)
    {fuel : Nat}
    (enough : 3 * (elements.render literalText numeralText).length + 1 ≤ fuel)
    (rest : List UInt8) :
    parseItems fuel
        (skipWs (elements.render literalText numeralText ++ 93 :: rest)) =
      some (ofElements readLiteral readNumeral elements, rest) := by
  obtain ⟨fuel, rfl⟩ : ∃ less, fuel = less + 1 := ⟨fuel - 1, by omega⟩
  cases elements with
  | last before value after =>
      have ends : EndsNumber (after.render ++ 93 :: rest) :=
        endsNumber_render_append (endsNumber_cons (by simp) rest) after
      have smaller : 3 * (value.render literalText numeralText).length ≤ fuel := by
        simp only [Elements.render, List.length_append] at enough
        omega
      have parsed := parseValue_render value
        (by simpa only [Elements.literals] using literals)
        (by simpa only [Elements.numerals] using numerals) smaller ends
      simp only [Elements.render, List.append_assoc, skipWs_render_append]
      simp [parseItems, parseValue_skipWs, parsed, skipWs_render_append,
        skipWs_structural, ofElements]
  | more before value after others =>
      simp only [Elements.literals, List.forall_mem_append] at literals
      simp only [Elements.numerals, List.forall_mem_append] at numerals
      simp only [Elements.render, List.length_append, List.length_cons] at enough
      have ends : EndsNumber (after.render ++
          44 :: (others.render literalText numeralText ++ 93 :: rest)) :=
        endsNumber_render_append (endsNumber_cons (by simp) _) after
      have parsed := parseValue_render value literals.1 numerals.1
        (show _ ≤ fuel by omega) ends
      have parsed_others := parseItems_render others literals.2 numerals.2
        (show _ ≤ fuel by omega) rest
      simp only [Elements.render, List.append_assoc, skipWs_render_append,
        List.cons_append]
      simp [parseItems, parseValue_skipWs, parsed, skipWs_render_append,
        skipWs_structural, parsed_others, ofElements]

/-- The loop of `parse_object` reads the text of members. -/
theorem parseMembers_render
    (members : Members Literal Numeral)
    (literals : ∀ literal ∈ members.literals,
      ReadsLiteral literalText readLiteral literal)
    (numerals : ∀ numeral ∈ members.numerals,
      ReadsNumeral numeralText readNumeral numeral)
    {fuel : Nat}
    (enough : 3 * (members.render literalText numeralText).length + 1 ≤ fuel)
    (rest : List UInt8) :
    parseMembers fuel
        (skipWs (members.render literalText numeralText ++ 125 :: rest)) =
      some (ofMembers readLiteral readNumeral members, rest) := by
  obtain ⟨fuel, rfl⟩ : ∃ less, fuel = less + 1 := ⟨fuel - 1, by omega⟩
  cases members with
  | last name before value after =>
      simp only [Members.literals, List.forall_mem_cons] at literals
      simp only [Members.render, List.length_append, List.length_cons] at enough
      have ends : EndsNumber (after.render ++ 125 :: rest) :=
        endsNumber_render_append (endsNumber_cons (by simp) rest) after
      have named := parseStringToken_name literals.1
        (58 :: (before.render ++ (value.render literalText numeralText ++
          (after.render ++ 125 :: rest))))
      have parsed := parseValue_render value literals.2
        (by simpa only [Members.numerals] using numerals)
        (show _ ≤ fuel by omega) ends
      simp only [Members.render, List.append_assoc, List.cons_append]
      simp [parseMembers, named, skipWs_render_append, skipWs_structural,
        parseValue_skipWs, parseValue_render_append, parsed, ofMembers]
  | more name before value after others =>
      simp only [Members.literals, List.forall_mem_cons, List.forall_mem_append]
        at literals
      simp only [Members.numerals, List.forall_mem_append] at numerals
      simp only [Members.render, List.length_append, List.length_cons] at enough
      have ends : EndsNumber (after.render ++
          44 :: (others.render literalText numeralText ++ 125 :: rest)) :=
        endsNumber_render_append (endsNumber_cons (by simp) _) after
      have named := parseStringToken_name literals.1
        (58 :: (before.render ++ (value.render literalText numeralText ++
          (after.render ++
            44 :: (others.render literalText numeralText ++ 125 :: rest)))))
      have parsed := parseValue_render value literals.2.1 numerals.1
        (show _ ≤ fuel by omega) ends
      have parsed_others := parseMembers_render others literals.2.2 numerals.2
        (show _ ≤ fuel by omega) rest
      simp only [Members.render, List.append_assoc, List.cons_append]
      simp [parseMembers, named, skipWs_render_append, skipWs_structural,
        parseValue_skipWs, parseValue_render_append, parsed, parsed_others, ofMembers]

end

end Parsing

end CJson
end SbsServer
