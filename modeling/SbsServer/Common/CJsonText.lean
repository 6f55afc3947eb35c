import SbsServer.Common.CJson
import SbsServer.Common.Numeral

/-!
# Printing and parsing

The text codec of `cjson_stub.c`.  The parser works on the bytes before the
terminator and returns what is left where the source advances its pointer.  It
recurses on a counter, one for each call of the source; `parse` starts it high
enough that it never runs out.
-/

namespace SbsServer

open CLib CLib.Double

namespace CJson

/-- The bytes that `print_string` writes for one byte. -/
def escaped (byte : UInt8) : List UInt8 :=
  match byte with
  | 34 => [92, 34]
  | 92 => [92, 92]
  | 10 => [92, 110]
  | 13 => [92, 114]
  | 9 => [92, 116]
  | byte => [byte]

/-- `print_string`. -/
def printString (value : CStr) : List UInt8 :=
  34 :: value.bytes.flatMap escaped ++ [34]

mutual

/-- `print_item`.  The number always fits the buffer of 64 bytes. -/
def printItem : CJson → List UInt8
  | .null => [110, 117, 108, 108]
  | .bool false => [102, 97, 108, 115, 101]
  | .bool true => [116, 114, 117, 101]
  | .number value => formatG17 value
  | .string value => printString value
  | .array items => 91 :: printItems items ++ [93]
  | .object members => 123 :: printMembers members ++ [125]

/-- The loop of `print_item` over the children of an array. -/
def printItems : List CJson → List UInt8
  | [] => []
  | [item] => printItem item
  | item :: rest => printItem item ++ 44 :: printItems rest

/-- The loop of `print_item` over the children of an object. -/
def printMembers : List (CStr × CJson) → List UInt8
  | [] => []
  | [(name, item)] => printString name ++ 58 :: printItem item
  | (name, item) :: rest =>
      printString name ++ 58 :: printItem item ++ 44 :: printMembers rest

end

/-- `cJSON_PrintUnformatted`. -/
def printUnformatted (item : CJson) : CStr :=
  CStr.ofBytes (printItem item)

mutual

/-- The strings of a tree, the names of members included. -/
def strings : CJson → List CStr
  | .string value => [value]
  | .array items => stringsOfItems items
  | .object members => stringsOfMembers members
  | _ => []

/-- The strings of array items. -/
def stringsOfItems : List CJson → List CStr
  | [] => []
  | item :: rest => strings item ++ stringsOfItems rest

/-- The strings of object members. -/
def stringsOfMembers : List (CStr × CJson) → List CStr
  | [] => []
  | (name, item) :: rest => name :: (strings item ++ stringsOfMembers rest)

end

mutual

/-- The numbers of a tree. -/
def numbers : CJson → List Double
  | .number value => [value]
  | .array items => numbersOfItems items
  | .object members => numbersOfMembers members
  | _ => []

/-- The numbers of array items. -/
def numbersOfItems : List CJson → List Double
  | [] => []
  | item :: rest => numbers item ++ numbersOfItems rest

/-- The numbers of object members. -/
def numbersOfMembers : List (CStr × CJson) → List Double
  | [] => []
  | (_, item) :: rest => numbers item ++ numbersOfMembers rest

end

/-- `skip_ws`. -/
def skipWs (text : List UInt8) : List UInt8 :=
  text.dropWhile isSpace

/-- The byte that `parse_string_token` stores for the one after a backslash. -/
def unescaped (byte : UInt8) : UInt8 :=
  match byte with
  | 98 => 8
  | 102 => 12
  | 110 => 10
  | 114 => 13
  | 116 => 9
  | byte => byte

/-- The loop of `parse_string_token`: the bytes it stores and the text behind
the closing quote. -/
def unquoted : List UInt8 → Option (List UInt8 × List UInt8)
  | [] => none
  | 34 :: rest => some ([], rest)
  | 92 :: [] => none
  | 92 :: byte :: rest =>
      (unquoted rest).map fun stored => (unescaped byte :: stored.1, stored.2)
  | byte :: rest => (unquoted rest).map fun stored => (byte :: stored.1, stored.2)

/-- `parse_string_token`. -/
def parseStringToken : List UInt8 → Option (CStr × List UInt8)
  | 34 :: rest =>
      (unquoted rest).map fun stored => (CStr.ofBytes stored.1, stored.2)
  | _ => none

mutual

/-- `parse_value`. -/
def parseValue : Nat → List UInt8 → Option (CJson × List UInt8)
  | 0, _ => none
  | fuel + 1, text =>
      let text := skipWs text
      if text.head? = some 123 then parseObject fuel text
      else if text.head? = some 91 then parseArray fuel text
      else if text.head? = some 34 then
        (parseStringToken text).map fun token => (.string token.1, token.2)
      else if [116, 114, 117, 101].isPrefixOf text then
        some (.bool true, text.drop 4)
      else if [102, 97, 108, 115, 101].isPrefixOf text then
        some (.bool false, text.drop 5)
      else if [110, 117, 108, 108].isPrefixOf text then some (.null, text.drop 4)
      else (readDouble text).map fun read => (.number read.1, read.2)

/-- `parse_array`. -/
def parseArray : Nat → List UInt8 → Option (CJson × List UInt8)
  | 0, _ => none
  | fuel + 1, text =>
      match skipWs text with
      | 91 :: rest =>
          match skipWs rest with
          | 93 :: rest => some (.array [], rest)
          | text => (parseItems fuel text).map fun items => (.array items.1, items.2)
      | _ => none

/-- The loop of `parse_array`. -/
def parseItems : Nat → List UInt8 → Option (List CJson × List UInt8)
  | 0, _ => none
  | fuel + 1, text => do
      let (item, text) ← parseValue fuel text
      match skipWs text with
      | 93 :: rest => some ([item], rest)
      | 44 :: rest =>
          let (items, rest) ← parseItems fuel (skipWs rest)
          some (item :: items, rest)
      | _ => none

/-- `parse_object`. -/
def parseObject : Nat → List UInt8 → Option (CJson × List UInt8)
  | 0, _ => none
  | fuel + 1, text =>
      match skipWs text with
      | 123 :: rest =>
          match skipWs rest with
          | 125 :: rest => some (.object [], rest)
          | text =>
              (parseMembers fuel text).map fun members =>
                (.object members.1, members.2)
      | _ => none

/-- The loop of `parse_object`. -/
def parseMembers : Nat → List UInt8 → Option (List (CStr × CJson) × List UInt8)
  | 0, _ => none
  | fuel + 1, text => do
      let (key, text) ← parseStringToken text
      match skipWs text with
      | 58 :: rest =>
          let (value, text) ← parseValue fuel (skipWs rest)
          match skipWs text with
          | 125 :: rest => some ([(key, value)], rest)
          | 44 :: rest =>
              let (members, rest) ← parseMembers fuel (skipWs rest)
              some ((key, value) :: members, rest)
          | _ => none
      | _ => none

end

/-- `cJSON_Parse`. -/
def parse (text : CStr) : Option CJson := do
  let (item, rest) ← parseValue (3 * text.bytes.length + 3) text.bytes
  match skipWs rest with
  | [] => some item
  | _ => none

/-! ## The counter -/

/-- Skipping whitespace does not lengthen the text. -/
theorem length_skipWs_le (text : List UInt8) : (skipWs text).length ≤ text.length :=
  List.length_dropWhile_le _ _

/-- A literal takes text. -/
theorem length_unquoted
    {text rest bytes : List UInt8}
    (accepted : unquoted text = some (bytes, rest)) :
    rest.length < text.length := by
  induction text using unquoted.induct generalizing bytes rest with
  | case1 => simp [unquoted] at accepted
  | case2 tail =>
      simp only [unquoted, Option.some.injEq, Prod.mk.injEq] at accepted
      simp [accepted.2]
  | case3 => simp [unquoted] at accepted
  | case4 byte tail hypothesis =>
      simp only [unquoted, Option.map_eq_some_iff] at accepted
      obtain ⟨⟨later, after⟩, accepted, same⟩ := accepted
      rw [Prod.mk.injEq] at same
      rw [← same.2]
      have shorter := hypothesis accepted
      simp only [List.length_cons]
      omega
  | case5 byte tail quote last escape hypothesis =>
      rw [unquoted, Option.map_eq_some_iff] at accepted
      · obtain ⟨⟨later, after⟩, accepted, same⟩ := accepted
        rw [Prod.mk.injEq] at same
        rw [← same.2]
        have shorter := hypothesis accepted
        simp only [List.length_cons]
        omega
      · exact quote
      · exact last
      · exact escape

/-- A quoted literal takes text. -/
theorem length_parseStringToken
    {text rest : List UInt8}
    {value : CStr}
    (accepted : parseStringToken text = some (value, rest)) :
    rest.length < text.length := by
  unfold parseStringToken at accepted
  split at accepted
  · next tail =>
      rw [Option.map_eq_some_iff] at accepted
      obtain ⟨⟨bytes, after⟩, accepted, same⟩ := accepted
      rw [Prod.mk.injEq] at same
      rw [← same.2]
      have shorter := length_unquoted accepted
      simp only [List.length_cons]
      omega
  · cases accepted

mutual

/-- A value takes text. -/
theorem length_parseValue
    {fuel : Nat}
    {text rest : List UInt8}
    {item : CJson}
    (accepted : parseValue fuel text = some (item, rest)) :
    rest.length < text.length := by
  have blank := length_skipWs_le text
  match fuel with
  | 0 => cases accepted
  | fuel + 1 =>
      rw [parseValue] at accepted
      generalize skipWs text = start at blank accepted
      split_ifs at accepted with object array string isTrue isFalse isNull
      · exact (length_parseObject accepted).trans_le blank
      · exact (length_parseArray accepted).trans_le blank
      · rw [Option.map_eq_some_iff] at accepted
        obtain ⟨⟨value, after⟩, accepted, same⟩ := accepted
        cases same
        exact (length_parseStringToken accepted).trans_le blank
      · have word := (List.isPrefixOf_iff_prefix.mp isTrue).length_le
        cases accepted
        simp only [List.length_cons, List.length_nil, List.length_drop] at word ⊢
        omega
      · have word := (List.isPrefixOf_iff_prefix.mp isFalse).length_le
        cases accepted
        simp only [List.length_cons, List.length_nil, List.length_drop] at word ⊢
        omega
      · have word := (List.isPrefixOf_iff_prefix.mp isNull).length_le
        cases accepted
        simp only [List.length_cons, List.length_nil, List.length_drop] at word ⊢
        omega
      · rw [Option.map_eq_some_iff] at accepted
        obtain ⟨⟨value, after⟩, accepted, same⟩ := accepted
        cases same
        exact (length_readDouble_lt accepted).trans_le blank

/-- An array takes text. -/
theorem length_parseArray
    {fuel : Nat}
    {text rest : List UInt8}
    {item : CJson}
    (accepted : parseArray fuel text = some (item, rest)) :
    rest.length < text.length := by
  have blank := length_skipWs_le text
  match fuel with
  | 0 => cases accepted
  | fuel + 1 =>
      rw [parseArray] at accepted
      split at accepted
      · next tail opened =>
          have inner := length_skipWs_le tail
          rw [opened, List.length_cons] at blank
          split at accepted
          · next after closed =>
              cases accepted
              rw [closed, List.length_cons] at inner
              omega
          · rw [Option.map_eq_some_iff] at accepted
            obtain ⟨⟨items, after⟩, accepted, same⟩ := accepted
            simp only [Prod.mk.injEq] at same
            have shorter := length_parseItems accepted
            rw [← same.2]
            omega
      · cases accepted

/-- The items of an array take text. -/
theorem length_parseItems
    {fuel : Nat}
    {text rest : List UInt8}
    {items : List CJson}
    (accepted : parseItems fuel text = some (items, rest)) :
    rest.length < text.length := by
  match fuel with
  | 0 => cases accepted
  | fuel + 1 =>
      simp only [parseItems, Option.bind_eq_bind, Option.bind_eq_some_iff] at accepted
      obtain ⟨⟨item, after⟩, parsed, accepted⟩ := accepted
      have value := length_parseValue parsed
      have blank := length_skipWs_le after
      split at accepted
      · next tail closed =>
          cases accepted
          rw [closed, List.length_cons] at blank
          omega
      · next tail separated =>
          simp only [Option.bind_eq_some_iff, Option.some.injEq] at accepted
          obtain ⟨⟨others, last⟩, accepted, same⟩ := accepted
          simp only [Prod.mk.injEq] at same
          have shorter := length_parseItems accepted
          have inner := length_skipWs_le tail
          rw [separated, List.length_cons] at blank
          rw [← same.2]
          omega
      · cases accepted

/-- An object takes text. -/
theorem length_parseObject
    {fuel : Nat}
    {text rest : List UInt8}
    {item : CJson}
    (accepted : parseObject fuel text = some (item, rest)) :
    rest.length < text.length := by
  have blank := length_skipWs_le text
  match fuel with
  | 0 => cases accepted
  | fuel + 1 =>
      rw [parseObject] at accepted
      split at accepted
      · next tail opened =>
          have inner := length_skipWs_le tail
          rw [opened, List.length_cons] at blank
          split at accepted
          · next after closed =>
              cases accepted
              rw [closed, List.length_cons] at inner
              omega
          · rw [Option.map_eq_some_iff] at accepted
            obtain ⟨⟨members, after⟩, accepted, same⟩ := accepted
            simp only [Prod.mk.injEq] at same
            have shorter := length_parseMembers accepted
            rw [← same.2]
            omega
      · cases accepted

/-- The members of an object take text. -/
theorem length_parseMembers
    {fuel : Nat}
    {text rest : List UInt8}
    {members : List (CStr × CJson)}
    (accepted : parseMembers fuel text = some (members, rest)) :
    rest.length < text.length := by
  match fuel with
  | 0 => cases accepted
  | fuel + 1 =>
      simp only [parseMembers, Option.bind_eq_bind, Option.bind_eq_some_iff] at accepted
      obtain ⟨⟨key, behind⟩, named, accepted⟩ := accepted
      have name := length_parseStringToken named
      have before_colon := length_skipWs_le behind
      split at accepted
      · next value_text colon =>
          simp only [Option.bind_eq_some_iff] at accepted
          obtain ⟨⟨item, after⟩, parsed, accepted⟩ := accepted
          have value := length_parseValue parsed
          have before_value := length_skipWs_le value_text
          have blank := length_skipWs_le after
          rw [colon, List.length_cons] at before_colon
          split at accepted
          · next tail closed =>
              cases accepted
              rw [closed, List.length_cons] at blank
              omega
          · next tail separated =>
              simp only [Option.bind_eq_some_iff, Option.some.injEq] at accepted
              obtain ⟨⟨others, last⟩, accepted, same⟩ := accepted
              simp only [Prod.mk.injEq] at same
              have shorter := length_parseMembers accepted
              have inner := length_skipWs_le tail
              rw [separated, List.length_cons] at blank
              rw [← same.2]
              omega
          · cases accepted
      · cases accepted

end

mutual

/-- Two counters that are high enough parse a value alike. -/
theorem parseValue_counter
    {fuel other : Nat}
    {text : List UInt8}
    (enough : 3 * text.length + 3 ≤ fuel)
    (otherEnough : 3 * text.length + 3 ≤ other) :
    parseValue fuel text = parseValue other text := by
  have blank := length_skipWs_le text
  match fuel, other with
  | 0, _ => omega
  | _, 0 => omega
  | fuel + 1, other + 1 =>
      rw [parseValue, parseValue]
      generalize skipWs text = start at blank ⊢
      rw [parseObject_counter (show 3 * start.length + 2 ≤ fuel by omega)
          (show 3 * start.length + 2 ≤ other by omega),
        parseArray_counter (show 3 * start.length + 2 ≤ fuel by omega)
          (show 3 * start.length + 2 ≤ other by omega)]

/-- The same for an array. -/
theorem parseArray_counter
    {fuel other : Nat}
    {text : List UInt8}
    (enough : 3 * text.length + 2 ≤ fuel)
    (otherEnough : 3 * text.length + 2 ≤ other) :
    parseArray fuel text = parseArray other text := by
  have blank := length_skipWs_le text
  match fuel, other with
  | 0, _ => omega
  | _, 0 => omega
  | fuel + 1, other + 1 =>
      rw [parseArray, parseArray]
      generalize skipWs text = start at blank ⊢
      split
      · next tail =>
          have inner := length_skipWs_le tail
          rw [List.length_cons] at blank
          have items := parseItems_counter
            (show 3 * (skipWs tail).length + 4 ≤ fuel by omega)
            (show 3 * (skipWs tail).length + 4 ≤ other by omega)
          generalize skipWs tail = start at items ⊢
          split
          · simp
          · simp [items]
      · simp

/-- The same for items. -/
theorem parseItems_counter
    {fuel other : Nat}
    {text : List UInt8}
    (enough : 3 * text.length + 4 ≤ fuel)
    (otherEnough : 3 * text.length + 4 ≤ other) :
    parseItems fuel text = parseItems other text := by
  match fuel, other with
  | 0, _ => omega
  | _, 0 => omega
  | fuel + 1, other + 1 =>
      rw [parseItems, parseItems, parseValue_counter
        (show 3 * text.length + 3 ≤ fuel by omega)
        (show 3 * text.length + 3 ≤ other by omega)]
      cases parsed : parseValue other text with
      | none => simp
      | some value =>
          obtain ⟨item, after⟩ := value
          have taken := length_parseValue parsed
          have blank := length_skipWs_le after
          simp only [Option.bind_eq_bind, Option.bind_some]
          generalize skipWs after = start at blank ⊢
          split
          · simp
          · next tail =>
              have inner := length_skipWs_le tail
              rw [List.length_cons] at blank
              rw [parseItems_counter
                (show 3 * (skipWs tail).length + 4 ≤ fuel by omega)
                (show 3 * (skipWs tail).length + 4 ≤ other by omega)]
          · simp

/-- The same for an object. -/
theorem parseObject_counter
    {fuel other : Nat}
    {text : List UInt8}
    (enough : 3 * text.length + 2 ≤ fuel)
    (otherEnough : 3 * text.length + 2 ≤ other) :
    parseObject fuel text = parseObject other text := by
  have blank := length_skipWs_le text
  match fuel, other with
  | 0, _ => omega
  | _, 0 => omega
  | fuel + 1, other + 1 =>
      rw [parseObject, parseObject]
      generalize skipWs text = start at blank ⊢
      split
      · next tail =>
          have inner := length_skipWs_le tail
          rw [List.length_cons] at blank
          have members := parseMembers_counter
            (show 3 * (skipWs tail).length + 4 ≤ fuel by omega)
            (show 3 * (skipWs tail).length + 4 ≤ other by omega)
          generalize skipWs tail = start at members ⊢
          split
          · simp
          · simp [members]
      · simp

/-- The same for members. -/
theorem parseMembers_counter
    {fuel other : Nat}
    {text : List UInt8}
    (enough : 3 * text.length + 4 ≤ fuel)
    (otherEnough : 3 * text.length + 4 ≤ other) :
    parseMembers fuel text = parseMembers other text := by
  match fuel, other with
  | 0, _ => omega
  | _, 0 => omega
  | fuel + 1, other + 1 =>
      rw [parseMembers, parseMembers]
      cases named : parseStringToken text with
      | none => simp
      | some token =>
          obtain ⟨key, behind⟩ := token
          have name := length_parseStringToken named
          have before_colon := length_skipWs_le behind
          simp only [Option.bind_eq_bind, Option.bind_some]
          generalize skipWs behind = colon at before_colon ⊢
          split
          · next value_text =>
              have before_value := length_skipWs_le value_text
              rw [List.length_cons] at before_colon
              rw [parseValue_counter
                (show 3 * (skipWs value_text).length + 3 ≤ fuel by omega)
                (show 3 * (skipWs value_text).length + 3 ≤ other by omega)]
              cases parsed : parseValue other (skipWs value_text) with
              | none => simp
              | some value =>
                  obtain ⟨item, after⟩ := value
                  have taken := length_parseValue parsed
                  have blank := length_skipWs_le after
                  simp only [Option.bind_some]
                  generalize skipWs after = start at blank ⊢
                  split
                  · simp
                  · next tail =>
                      have inner := length_skipWs_le tail
                      rw [List.length_cons] at blank
                      rw [parseMembers_counter
                        (show 3 * (skipWs tail).length + 4 ≤ fuel by omega)
                        (show 3 * (skipWs tail).length + 4 ≤ other by omega)]
                  · simp
          · simp

end

/-- The counter that `parse` starts with never decides its result. -/
theorem parse_counter
    {fuel : Nat}
    {text : CStr}
    (enough : 3 * text.bytes.length + 3 ≤ fuel) :
    parse text =
      (parseValue fuel text.bytes).bind fun read =>
        match skipWs read.2 with
        | [] => some read.1
        | _ => none := by
  rw [parse, parseValue_counter (le_refl _) enough]
  simp

end CJson
end SbsServer
