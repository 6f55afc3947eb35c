import SbsServer.Common.CJsonAccepted
import SbsServer.Worker.Config

/-!
# Transfer of the worker configuration

The text of `build_config_json` is an object of JSON as long as the escapes of
`g_strescape` are escapes of JSON, and `sbs_worker_config_parse` finds the
values of the entry in it.
-/

namespace SbsServer

open CLib CLib.Double Json

namespace Worker

/-- The value of a member that `build_config_json` writes. -/
inductive Field
  | text (value : CStr)
  | number (value : UInt32)
  | flag

namespace Field

/-- The text of a value. -/
def render : Field → List UInt8
  | text value => 34 :: strescape value ++ [34]
  | number value => CStr.decimalBytes value.toNat
  | flag => [116, 114, 117, 101]

/-- The tree of a value. -/
def tree : Field → CJson
  | text value => .string value
  | number value => .number (ofInt value.toNat)
  | flag => .bool true

end Field

/-- The members that may stand behind the mode, in their order; a member
without value is left out. -/
def slots (entry : ConfigEntry) : List (CStr × Option Field) :=
  let config := entry.configCopy
  [("worker_id", some (.text entry.sourceId)),
    ("socket_path", some (.text entry.socketPath)),
    ("width", some (.number config.width)),
    ("height", some (.number config.height)),
    ("framerate_num", some (.number config.framerateNum)),
    ("framerate_den", some (.number
      (if 0 < config.framerateDen then config.framerateDen else 1))),
    ("source_type", some (.text entry.sourceType)),
    ("pattern", config.pattern.map .text),
    ("capture_mode", config.captureMode.map .text),
    ("output_format", config.outputFormat.map .text),
    ("device_path", config.devicePath.map .text),
    ("format", config.format.map .text),
    ("framerate", config.framerate.map .text),
    ("decode_mode", config.decodeMode.map .text),
    ("uri", config.uri.map .text),
    ("text", config.text.map .text),
    ("font_family", config.fontFamily.map .text),
    ("font_path", config.fontPath.map .text),
    ("text_color", config.textColor.map .text),
    ("text_align", config.textAlign.map .text),
    ("font_size",
      if 0 < config.fontSize then some (.number config.fontSize) else none),
    ("loop", if config.loop then some .flag else none)]

/-- The members with a value. -/
def present (slots : List (CStr × Option Field)) : List (CStr × Field) :=
  slots.filterMap fun slot => slot.2.map fun value => (slot.1, value)

/-- The text of a member. -/
def memberText (member : CStr × Field) : List UInt8 :=
  keyText member.1 ++ member.2.render

/-- The text of an object that is not closed yet. -/
def opened (members : List (CStr × Field)) : List UInt8 :=
  123 :: memberText ("mode", .text "source") ++
    members.flatMap fun member => 44 :: memberText member

/-- Members are appended behind a comma. -/
theorem opened_append
    (members : List (CStr × Field))
    (member : CStr × Field) :
    opened (members ++ [member]) = opened members ++ 44 :: memberText member := by
  simp [opened]

/-- `ADD_JSON_STRING` appends a member unless the value is NULL. -/
theorem addJsonString_opened
    (members : List (CStr × Field))
    (key : CStr)
    (value : Option CStr) :
    addJsonString (opened members) key value =
      opened (members ++ present [(key, value.map .text)]) := by
  cases value with
  | none => simp [addJsonString, present]
  | some value =>
      have long : 1 < (opened members).length := by
        simp [opened, memberText, keyText]
      simp [addJsonString, long, present, opened_append, memberText, Field.render]

/-- A number is appended as a member. -/
theorem addJsonNumber_opened
    (members : List (CStr × Field))
    (key : CStr)
    (value : UInt32) :
    addJsonNumber (opened members) key value =
      opened (members ++ present [(key, some (.number value))]) := by
  simp [addJsonNumber, present, opened_append, memberText, Field.render]

/-- Slots one by one. -/
theorem present_append (first second : List (CStr × Option Field)) :
    present (first ++ second) = present first ++ present second := by
  simp [present]

theorem buildConfigJson_eq (entry : ConfigEntry) :
    buildConfigJson entry = opened (present (slots entry)) ++ [125] := by
  have start : addJsonString [123] "mode" (some "source") = opened [] := by
    decide
  have fontSize (members : List (CStr × Field)) :
      (if 0 < entry.configCopy.fontSize then
        opened (members ++
          present [("font_size", some (.number entry.configCopy.fontSize))])
      else opened members) =
        opened (members ++ present [("font_size",
          if 0 < entry.configCopy.fontSize then
            some (.number entry.configCopy.fontSize) else none)]) := by
    split
    · simp
    · simp [present]
  have loop (members : List (CStr × Field)) :
      (if entry.configCopy.loop then
        opened members ++ 44 :: (keyText "loop" ++ [116, 114, 117, 101])
      else opened members) =
        opened (members ++ present [("loop",
          if entry.configCopy.loop then some .flag else none)]) := by
    split
    · simp [present, opened_append, memberText, Field.render]
    · simp [present]
  simp only [buildConfigJson, start, addJsonString_opened, addJsonNumber_opened,
    fontSize, loop]
  simp only [← present_append, List.nil_append, List.cons_append, slots,
    Option.map_some]

/-- The bytes that `g_strescape` writes as JSON does: printable ASCII and the
control characters with a letter of their own in JSON. -/
def isPlain (byte : UInt8) : Bool :=
  (32 ≤ byte && byte < 127) || byte ∈ ([8, 9, 10, 12, 13] : List UInt8)

/-- A plain byte is written as a character of JSON that stands for it. -/
theorem exists_item_cEscaped
    {byte : UInt8}
    (plain : isPlain byte = true) :
    ∃ item : Item, item.render = cEscaped byte ∧ CJson.storedItem item = [byte] ∧
      item.isUnicode = false := by
  unfold cEscaped
  split
  · exact ⟨.escape .backspace, by decide⟩
  · exact ⟨.escape .formFeed, by decide⟩
  · exact ⟨.escape .lineFeed, by decide⟩
  · exact ⟨.escape .carriageReturn, by decide⟩
  · exact ⟨.escape .tab, by decide⟩
  · exact absurd plain (by decide)
  · exact ⟨.escape .reverseSolidus, by decide⟩
  · exact ⟨.escape .quotationMark, by decide⟩
  · next backspace formFeed lineFeed carriageReturn tab verticalTab backslash quote =>
      have range : 32 ≤ byte ∧ byte < 127 := by
        simp only [isPlain, Bool.or_eq_true, Bool.and_eq_true, decide_eq_true_eq,
          List.mem_cons, List.not_mem_nil, or_false] at plain
        grind
      have allowed : isUnescaped byte = true := by
        simp only [isUnescaped, Bool.and_eq_true, decide_eq_true_eq]
        exact ⟨⟨range.1, quote⟩, backslash⟩
      have printable : ¬ (byte < 32 ∨ 127 ≤ byte) := by
        rw [not_or, UInt8.not_lt, UInt8.not_le]
        exact range
      rw [if_neg printable]
      exact ⟨.unescaped byte allowed, by simp [Item.render, CJson.storedItem,
        Item.isUnicode]⟩

/-- A plain string is written as a literal that decodes to it. -/
theorem exists_literal_strescape
    {value : CStr}
    (plain : value.bytes.all isPlain = true) :
    ∃ literal : Literal, literal.render = 34 :: strescape value ++ [34] ∧
      literal.decode = some value.bytes ∧ ¬ literal.HasUnicodeEscape := by
  have items :
      ∃ literal : Literal,
        literal.flatMap Item.render = value.bytes.flatMap cEscaped ∧
          CJson.stored literal = value.bytes ∧ ¬ literal.HasUnicodeEscape := by
    generalize value.bytes = bytes at plain
    induction bytes with
    | nil => exact ⟨[], by simp [CJson.stored, Literal.HasUnicodeEscape]⟩
    | cons byte tail hypothesis =>
        rw [List.all_cons, Bool.and_eq_true] at plain
        obtain ⟨item, written, kept, ascii⟩ := exists_item_cEscaped plain.1
        obtain ⟨literal, same, stored, escapes⟩ := hypothesis plain.2
        refine ⟨item :: literal, by simp [written, same], ?_, ?_⟩
        · simp only [CJson.stored] at stored
          simp [CJson.stored, kept, stored]
        · simp only [Literal.HasUnicodeEscape] at escapes
          simp only [Literal.HasUnicodeEscape, List.exists_mem_cons_iff, ascii,
            Bool.false_eq_true, false_or]
          exact escapes
  obtain ⟨literal, same, stored, escapes⟩ := items
  refine ⟨literal, by simp [Literal.render, strescape, same], ?_, escapes⟩
  rw [← stored]
  exact (CJson.decode_eq_stored_iff literal).mpr escapes

/-- A `%u` numeral is a JSON number, read as the number it writes. -/
theorem exists_number_decimalBytes (value : UInt32) :
    ∃ number : Number, number.render = CStr.decimalBytes value.toNat ∧
      nearestDouble number = ofInt value.toNat := by
  have small : value.toNat < 2 ^ 53 := by
    have bound := value.toNat_lt
    omega
  have canonical : (CStr.decimalBytes value.toNat).head? = some 48 →
      CStr.decimalBytes value.toNat = [48] := by
    intro head
    by_cases zero : value.toNat = 0
    · simp [CStr.decimalBytes, zero]
    · obtain ⟨byte, tail, held, other⟩ := decimalBytes_head zero
      rw [held, List.head?_cons, Option.some.injEq] at head
      exact absurd head other
  refine ⟨⟨false, ⟨_, decimalBytes_ne_nil _, fun _ => isDigit_of_mem_decimalBytes⟩,
    canonical, none, none⟩, by
      simp [Number.render, Number.fractionText, Number.exponentText], ?_⟩
  simp [nearestDouble, signed, Number.magnitude, digitsValue_decimalBytes,
    digitsValue_nil, roundToDouble_natCast small]

/-- A reading decodes the literals of a value. -/
def Decodes
    (reading : Literal → CStr)
    (literals : List Literal) : Prop :=
  ∀ literal ∈ literals, literal.decode = some (reading literal).bytes

/-- A syntax tree for the value of a member. -/
structure FieldSyntax
    (field : Field)
    (value : Value Literal Number) : Prop where
  text : value.render Literal.render Number.render = field.render
  plain : ∀ literal ∈ value.literals, ¬ literal.HasUnicodeEscape
  tree : ∀ reading, Decodes reading value.literals →
    CJson.ofValue reading nearestDouble value = field.tree

/-- The strings of a field are plain. -/
def Field.Plain : Field → Prop
  | text value => value.bytes.all isPlain = true
  | _ => True

instance (field : Field) : Decidable field.Plain :=
  match field with
  | .text value => inferInstanceAs (Decidable (value.bytes.all isPlain = true))
  | .number _ => isTrue trivial
  | .flag => isTrue trivial

/-- Every plain field has a syntax tree. -/
theorem exists_fieldSyntax
    {field : Field}
    (plain : field.Plain) :
    ∃ value, FieldSyntax field value := by
  cases field with
  | text value =>
      obtain ⟨literal, same, decoded, escapes⟩ := exists_literal_strescape plain
      refine ⟨.string literal, by simp [Value.render, same, Field.render],
        by simpa [Value.literals] using escapes, fun reading decodes => ?_⟩
      have read := decodes literal (by simp [Value.literals])
      rw [decoded, Option.some.injEq] at read
      simp [CJson.ofValue, Field.tree, CStr.ext read]
  | number value =>
      obtain ⟨number, same, nearest⟩ := exists_number_decimalBytes value
      exact ⟨.number number, by simp [Value.render, same, Field.render],
        by simp [Value.literals], by simp [CJson.ofValue, Field.tree, nearest]⟩
  | flag =>
      exact ⟨.bool true, by simp [Value.render, Field.render],
        by simp [Value.literals], by simp [CJson.ofValue, Field.tree]⟩

/-- The bytes of member names. -/
def isNameByte (byte : UInt8) : Bool :=
  (97 ≤ byte && byte ≤ 122) || byte = 95

variable {key : CStr}

/-- Names are written without escapes. -/
theorem exists_literal_name
    (name : key.bytes.all isNameByte = true) :
    ∃ literal : Literal, literal.render = 34 :: key.bytes ++ [34] ∧
      literal.decode = some key.bytes ∧ ¬ literal.HasUnicodeEscape := by
  have unescaped : strescape key = key.bytes := by
    unfold strescape
    generalize key.bytes = bytes at name
    induction bytes with
    | nil => simp
    | cons byte tail hypothesis =>
        rw [List.all_cons, Bool.and_eq_true] at name
        have alone : cEscaped byte = [byte] := by
          have range := name.1
          simp [isNameByte, UInt8.le_iff_toNat_le, ← UInt8.toNat_inj] at range
          unfold cEscaped
          split <;> simp_all
          grind [UInt8.lt_iff_toNat_lt, UInt8.le_iff_toNat_le]
        rw [List.flatMap_cons, alone, hypothesis name.2]
        simp
  have plain : key.bytes.all isPlain = true := by
    rw [List.all_eq_true] at name ⊢
    intro byte member
    have range := name byte member
    simp [isNameByte, UInt8.le_iff_toNat_le, ← UInt8.toNat_inj] at range
    simp [isPlain, UInt8.le_iff_toNat_le, UInt8.lt_iff_toNat_lt, ← UInt8.toNat_inj]
    omega
  obtain ⟨literal, same, rest⟩ := exists_literal_strescape plain
  exact ⟨literal, by rw [same, unescaped], rest⟩

/-- The names and values that can be written as JSON. -/
def Writable (member : CStr × Field) : Prop :=
  member.1.bytes.all isNameByte = true ∧ member.2.Plain

/-- The members of a tree. -/
def trees (members : List (CStr × Field)) : List (CStr × CJson) :=
  members.map fun member => (member.1, member.2.tree)

/-- A syntax tree for members. -/
structure MembersSyntax
    (first : CStr × Field)
    (rest : List (CStr × Field))
    (described : Members Literal Number) : Prop where
  text : described.render Literal.render Number.render =
    memberText first ++ rest.flatMap fun member => 44 :: memberText member
  plain : ∀ literal ∈ described.literals, ¬ literal.HasUnicodeEscape
  tree : ∀ reading, Decodes reading described.literals →
    CJson.ofMembers reading nearestDouble described = trees (first :: rest)

/-- Writable members have a syntax tree. -/
theorem exists_membersSyntax
    {first : CStr × Field}
    {rest : List (CStr × Field)}
    (writable : ∀ member ∈ first :: rest, Writable member) :
    ∃ described, MembersSyntax first rest described := by
  induction rest generalizing first with
  | nil =>
      have member := writable first (by simp)
      obtain ⟨key, key_text, key_decoded, key_plain⟩ := exists_literal_name member.1
      obtain ⟨value, fields⟩ := exists_fieldSyntax member.2
      refine ⟨.last ⟨[], key, []⟩ [] value [], ?_, ?_, fun reading decodes => ?_⟩
      · simp [Members.render, Name.render, memberText, keyText, key_text, fields.text]
      · simpa [Members.literals, key_plain] using fields.plain
      · simp only [Decodes, Members.literals, List.forall_mem_cons] at decodes
        rw [key_decoded, Option.some.injEq] at decodes
        simp [CJson.ofMembers, trees, fields.tree reading decodes.2,
          CStr.ext decodes.1]
  | cons second rest hypothesis =>
      rw [List.forall_mem_cons] at writable
      obtain ⟨key, key_text, key_decoded, key_plain⟩ :=
        exists_literal_name writable.1.1
      obtain ⟨value, fields⟩ := exists_fieldSyntax writable.1.2
      obtain ⟨described, others⟩ := hypothesis writable.2
      refine ⟨.more ⟨[], key, []⟩ [] value [] described, ?_, ?_,
        fun reading decodes => ?_⟩
      · simp [Members.render, Name.render, memberText, keyText, key_text, fields.text,
          others.text]
      · simp only [Members.literals, List.forall_mem_cons, List.forall_mem_append]
        exact ⟨key_plain, fields.plain, others.plain⟩
      · simp only [Decodes, Members.literals, List.forall_mem_cons,
          List.forall_mem_append] at decodes
        rw [key_decoded, Option.some.injEq] at decodes
        have later := others.tree reading decodes.2.2
        simp only [trees, List.map_cons] at later
        simp [CJson.ofMembers, trees, fields.tree reading decodes.2.1, later,
          CStr.ext decodes.1]

/-! ## The worker -/

/-- The JSON parser of the worker reads texts of the grammar, at least those
without `\u` escapes. -/
def ReadsJson (parse : CStr → Option CJson) : Prop :=
  ∀ (json : Rfc8259) (text : CStr), json.bytes = text.bytes →
    (∀ literal ∈ json.value.literals, ¬ literal.HasUnicodeEscape) →
      ∃ reading, Decodes reading json.value.literals ∧
        parse text = some (CJson.ofValue reading nearestDouble json.value)

/-- The strings of an entry are plain. -/
def PlainEntry (entry : ConfigEntry) : Prop :=
  ∀ slot ∈ slots entry, ∀ field ∈ slot.2, field.Plain

/-- The tree that the worker reads. -/
theorem parse_buildConfigJson
    {parse : CStr → Option CJson}
    (reads : ReadsJson parse)
    {entry : ConfigEntry}
    (plain : PlainEntry entry) :
    parse (CStr.ofBytes (buildConfigJson entry)) =
      some (.object (trees (("mode", .text "source") :: present (slots entry)))) := by
  have names : ∀ slot ∈ slots entry, slot.1.bytes.all isNameByte = true := by
    simp only [slots, List.forall_mem_cons, List.not_mem_nil, false_implies,
      implies_true, and_true]
    decide
  have writable :
      ∀ member ∈ ((CStr.lit "mode", Field.text (CStr.lit "source")) ::
        present (slots entry)), Writable member := by
    rw [List.forall_mem_cons]
    refine ⟨⟨by decide, by unfold Field.Plain; decide⟩, fun member present_member => ?_⟩
    simp only [present, List.mem_filterMap, Option.map_eq_some_iff] at present_member
    obtain ⟨slot, member_slot, field, held, rfl⟩ := present_member
    exact ⟨names slot member_slot, plain slot member_slot field held⟩
  obtain ⟨described, members⟩ := exists_membersSyntax writable
  let json : Rfc8259 := ⟨[], .object described, []⟩
  have text : json.bytes = buildConfigJson entry := by
    simp [json, Rfc8259.bytes, Text.render, Value.render, members.text,
      buildConfigJson_eq, opened]
  have nulFree : 0 ∉ buildConfigJson entry := by
    have bytes := json.bytes_all
    rw [text, List.all_eq_true] at bytes
    exact fun terminator => absurd (bytes 0 terminator) (by decide)
  obtain ⟨reading, decodes, parsed⟩ := reads json (CStr.ofBytes (buildConfigJson entry))
    (by rw [text, CStr.bytes_ofBytes nulFree])
    (by simpa [json, Value.literals] using members.plain)
  rw [parsed]
  simp only [json, CJson.ofValue]
  rw [members.tree reading (by simpa [json, Value.literals] using decodes)]

variable {slots : List (CStr × Option Field)}

/-- No member is found under another key. -/
theorem getObjectItem_absent
    (absent : key ∉ slots.map Prod.fst) :
    CJson.getObjectItem (some (.object (trees (present slots)))) key = none := by
  have missed : (trees (present slots)).find? (fun entry => entry.1 = key) = none := by
    rw [List.find?_eq_none]
    intro entry member same
    simp only [trees, present, List.mem_map, List.mem_filterMap,
      Option.map_eq_some_iff] at member
    obtain ⟨_, ⟨slot, member, field, -, rfl⟩, rfl⟩ := member
    exact absent (List.mem_map.mpr ⟨slot, member, by simpa using same⟩)
  simp [CJson.getObjectItem, missed]

/-- A slot with a value gives the first member. -/
theorem trees_present_cons
    (name : CStr)
    (value : Option Field)
    (rest : List (CStr × Option Field)) :
    trees (present ((name, value) :: rest)) =
      (value.map fun field => (name, field.tree)).toList ++ trees (present rest) := by
  cases value <;> simp [trees, present]

/-- A member is found under its key. -/
theorem getObjectItem_present
    (distinct : (slots.map Prod.fst).Nodup)
    {field : Option Field}
    (member : (key, field) ∈ slots) :
    CJson.getObjectItem (some (.object (trees (present slots)))) key =
      field.map Field.tree := by
  induction slots with
  | nil => simp at member
  | cons slot rest hypothesis =>
      obtain ⟨name, value⟩ := slot
      rw [List.map_cons, List.nodup_cons] at distinct
      rw [trees_present_cons]
      rcases List.mem_cons.mp member with same | later
      · cases same
        cases field with
        | none => simpa using getObjectItem_absent distinct.1
        | some field => simp [CJson.getObjectItem]
      · have different : name ≠ key := by
          rintro rfl
          exact distinct.1 (List.mem_map.mpr ⟨_, later, rfl⟩)
        have found := hypothesis distinct.2 later
        cases value with
        | none => simpa using found
        | some value =>
            simpa [CJson.getObjectItem_cons_ne different] using found

/-- A string is read back, and NULL where the member is left out. -/
theorem jsonGetString_present
    (distinct : (slots.map Prod.fst).Nodup)
    {value : Option CStr}
    (member : (key, value.map .text) ∈ slots) :
    jsonGetString (.object (trees (present slots))) key = value := by
  rw [jsonGetString, getObjectItem_present distinct member]
  cases value <;> simp [CJson.getStringValue, Field.tree]

/-- A number is read back. -/
theorem jsonGetUint32_present
    (distinct : (slots.map Prod.fst).Nodup)
    {value : UInt32}
    (member : (key, some (.number value)) ∈ slots)
    (defaultVal : UInt32) :
    jsonGetUint32 (.object (trees (present slots))) key defaultVal = value := by
  rw [jsonGetUint32, getObjectItem_present distinct member]
  simp [Field.tree]

/-- The configuration of a worker that was told the values of an entry, with
the given denominator and font size. -/
def told
    (entry : ConfigEntry)
    (framerateDen fontSize : UInt32) : WorkerConfig :=
  let config := entry.configCopy
  { mode := some (CStr.lit "source")
    workerId := some entry.sourceId
    socketPath := some entry.socketPath
    width := config.width
    height := config.height
    framerateNum := config.framerateNum
    framerateDen := framerateDen
    heartbeatIntervalMs := 5000
    modeConfig := .source {
      sourceType := some entry.sourceType
      captureMode := config.captureMode
      outputFormat := config.outputFormat
      pattern := config.pattern
      devicePath := config.devicePath
      format := config.format
      framerate := config.framerate
      decodeMode := config.decodeMode
      uri := config.uri
      loop := config.loop
      text := config.text
      fontFamily := config.fontFamily
      fontPath := config.fontPath
      textColor := config.textColor
      textAlign := config.textAlign
      fontSize := fontSize
      properties := none } }

/-- The worker reads the values that the supervisor writes; a denominator of
zero is written as one, and a font size of zero is left to the default. -/
theorem workerConfigParse_buildConfigJson
    {parse : CStr → Option CJson}
    (reads : ReadsJson parse)
    {entry : ConfigEntry}
    (plain : PlainEntry entry) :
    let config := entry.configCopy
    workerConfigParse parse (CStr.ofBytes (buildConfigJson entry)) =
      (.ok, some (told entry
        (if 0 < config.framerateDen then config.framerateDen else 1)
        (if 0 < config.fontSize then config.fontSize else 48))) := by
  intro config
  let all : List (CStr × Option Field) :=
    ("mode", some (.text "source")) :: slots entry
  have distinct : (all.map Prod.fst).Nodup := by
    simp only [all, slots, List.map_cons, List.map_nil]
    decide
  let root : CJson := .object (trees (present all))
  have parsed : parse (CStr.ofBytes (buildConfigJson entry)) = some root := by
    rw [parse_buildConfigJson reads plain]
    simp [root, all, present]
  have string (key : CStr) (value : Option CStr)
      (member : (key, value.map .text) ∈ all) : jsonGetString root key = value :=
    jsonGetString_present distinct member
  have number (key : CStr) (value defaultVal : UInt32)
      (member : (key, some (.number value)) ∈ all) :
      jsonGetUint32 root key defaultVal = value :=
    jsonGetUint32_present distinct member defaultVal
  have missing (key : CStr) (absent : key ∉ all.map Prod.fst) :
      CJson.getObjectItem (some root) key = none :=
    getObjectItem_absent absent
  have mode := string "mode" (some "source") (by simp [all])
  have workerId := string "worker_id" (some entry.sourceId) (by simp [all, slots])
  have socketPath := string "socket_path" (some entry.socketPath) (by simp [all, slots])
  have sourceType := string "source_type" (some entry.sourceType) (by simp [all, slots])
  have pattern := string "pattern" config.pattern (by simp [all, slots, config])
  have captureMode := string "capture_mode" config.captureMode (by simp [all, slots, config])
  have outputFormat := string "output_format" config.outputFormat (by simp [all, slots, config])
  have devicePath := string "device_path" config.devicePath (by simp [all, slots, config])
  have format := string "format" config.format (by simp [all, slots, config])
  have framerate := string "framerate" config.framerate (by simp [all, slots, config])
  have decodeMode := string "decode_mode" config.decodeMode (by simp [all, slots, config])
  have uri := string "uri" config.uri (by simp [all, slots, config])
  have text := string "text" config.text (by simp [all, slots, config])
  have fontFamily := string "font_family" config.fontFamily (by simp [all, slots, config])
  have fontPath := string "font_path" config.fontPath (by simp [all, slots, config])
  have textColor := string "text_color" config.textColor (by simp [all, slots, config])
  have textAlign := string "text_align" config.textAlign (by simp [all, slots, config])
  have width := number "width" config.width 1920 (by simp [all, slots, config])
  have height := number "height" config.height 1080 (by simp [all, slots, config])
  have framerateNum := number "framerate_num" config.framerateNum 30
    (by simp [all, slots, config])
  have framerateDen := number "framerate_den"
    (if 0 < config.framerateDen then config.framerateDen else 1) 1
    (by simp [all, slots, config])
  have fontSize : jsonGetUint32 root "font_size" 48 =
      if 0 < config.fontSize then config.fontSize else 48 := by
    have slot : (CStr.lit "font_size",
        if 0 < config.fontSize then some (Field.number config.fontSize) else none) ∈
          all := by
      simp [all, slots, config]
    rw [jsonGetUint32, getObjectItem_present distinct slot]
    by_cases given : 0 < config.fontSize <;> simp [given, Field.tree]
  have loop : jsonGetBool root "loop" false = config.loop := by
    have slot : (CStr.lit "loop", if config.loop then some Field.flag else none) ∈
        all := by
      simp [all, slots, config]
    rw [jsonGetBool, getObjectItem_present distinct slot]
    cases config.loop <;> simp [Field.tree]
  have keys_absent :
      CStr.lit "heartbeat_interval_ms" ∉ all.map Prod.fst ∧
        CStr.lit "properties" ∉ all.map Prod.fst := by
    simp only [all, slots, List.map_cons, List.map_nil]
    decide
  have heartbeat : jsonGetUint32 root "heartbeat_interval_ms" 5000 = 5000 := by
    rw [jsonGetUint32, missing _ keys_absent.1]
  have properties := missing "properties" keys_absent.2
  simp only [workerConfigParse, parsed, mode, workerId, socketPath, width, height,
    framerateNum, framerateDen, heartbeat, parseSourceConfig, sourceType, captureMode,
    outputFormat, pattern, devicePath, format, framerate, decodeMode, uri, loop, text,
    fontFamily, fontPath, textColor, textAlign, fontSize, properties, told]
  simp [config]

/-- The parser of the server reads such texts. -/
theorem readsJson_parse : ReadsJson CJson.parse := by
  intro json text same plain
  refine ⟨CJson.storedText, fun literal member => ?_, CJson.parse_rfc8259 json same⟩
  rw [CJson.bytes_storedText, CJson.decode_eq_stored_iff]
  exact plain literal member

/-- A text source with quotes and line breaks. -/
def titleEntry : ConfigEntry where
  sourceId := "title"
  sourceType := "text"
  socketPath := "/run/sbs/source-title.sock"
  configCopy := {
    width := 1920
    height := 1080
    framerateNum := 30
    framerateDen := 0
    pattern := none
    captureMode := none
    outputFormat := none
    devicePath := none
    format := none
    framerate := none
    decodeMode := none
    uri := none
    loop := false
    text := some "say \"on air\"\n\\o/"
    fontFamily := some "Sans"
    fontPath := none
    textColor := some "#FFFFFF"
    textAlign := some "center"
    fontSize := 0 }

/-- The title arrives with the denominator one and the default font size. -/
theorem workerConfigParse_title :
    ReadsJson CJson.parse ∧ PlainEntry titleEntry ∧
      workerConfigParse CJson.parse (CStr.ofBytes (buildConfigJson titleEntry)) =
        (.ok, some (told titleEntry 1 48)) := by
  have plain : PlainEntry titleEntry := by
    unfold PlainEntry
    decide +kernel
  exact ⟨readsJson_parse, plain,
    workerConfigParse_buildConfigJson readsJson_parse plain⟩

/-- Not every entry arrives with its own values: a denominator of zero does
not. -/
theorem zero_denominator_not_told :
    ¬ ∀ parse, ReadsJson parse → ∀ entry : ConfigEntry,
      workerConfigParse parse (CStr.ofBytes (buildConfigJson entry)) =
        (.ok, some (told entry entry.configCopy.framerateDen
          entry.configCopy.fontSize)) := by
  intro exact_values
  have arrived := exact_values CJson.parse readsJson_parse titleEntry
  have denominator :
      (workerConfigParse CJson.parse
        (CStr.ofBytes (buildConfigJson titleEntry))).2.map (·.framerateDen) =
          some 1 := by
    decide +kernel
  rw [arrived] at denominator
  exact absurd denominator (by decide)

end Worker
end SbsServer
