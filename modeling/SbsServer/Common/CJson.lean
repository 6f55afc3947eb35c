import SbsServer.CLib.Double

/-!
# JSON trees

The trees of `cJSON` and the accessors that the server reads them with.  A
pointer to an item that may be NULL is an option.  The field `valueint` of a
number is the cast of its `valuedouble` and is not stored.
-/

namespace SbsServer

open CLib

/-- A `cJSON` item. -/
inductive CJson
  | null
  | bool (value : Bool)
  | number (value : Double)
  | string (value : CStr)
  | array (items : List CJson)
  | object (members : List (CStr × CJson))

namespace CJson

/-- The chain of `child` items, each with its `string` if it has one. -/
def children : Option CJson → List (Option CStr × CJson)
  | some (.array items) => items.map fun item => (none, item)
  | some (.object members) => members.map fun entry => (some entry.1, entry.2)
  | _ => []

/-- `cJSON_GetObjectItemCaseSensitive`: the first member under a key. -/
def getObjectItem (item : Option CJson) (key : CStr) : Option CJson :=
  match item with
  | some (.object members) => (members.find? fun entry => entry.1 = key).map Prod.snd
  | _ => none

/-- The items that `cJSON_GetArraySize` counts and `cJSON_GetArrayItem`
returns. -/
def arrayItems : Option CJson → List CJson
  | some (.array items) => items
  | _ => []

/-- `cJSON_IsArray`. -/
def isArray : Option CJson → Bool
  | some (.array _) => true
  | _ => false

/-- `cJSON_IsObject`. -/
def isObject : Option CJson → Bool
  | some (.object _) => true
  | _ => false

/-- `cJSON_IsNumber`. -/
def isNumber : Option CJson → Bool
  | some (.number _) => true
  | _ => false

/-- `cJSON_GetStringValue`. -/
def getStringValue : Option CJson → Option CStr
  | some (.string value) => some value
  | _ => none

/-- `cJSON_IsString`. -/
def isString (item : Option CJson) : Bool :=
  (getStringValue item).isSome

/-- `json_str`. -/
def str (object : Option CJson) (key : CStr) : Option CStr :=
  getStringValue (getObjectItem object key)

/-- `json_bool`. -/
def boolean (object : Option CJson) (key : CStr) (fallback : Bool) : Bool :=
  match getObjectItem object key with
  | some (.bool value) => value
  | _ => fallback

/-- `json_num`. -/
def num (object : Option CJson) (key : CStr) (fallback : Double) : Double :=
  match getObjectItem object key with
  | some (.number value) => value
  | _ => fallback

/-- A number of a type that `double` holds exactly. -/
def ofInt (value : ℤ) : CJson :=
  .number (.ofInt value)

/-- A string, or `null` for a NULL pointer. -/
def ofPointer : Option CStr → CJson
  | some value => .string value
  | none => .null

/-- Members under other keys are skipped. -/
theorem getObjectItem_cons_ne
    {key name : CStr}
    (different : name ≠ key)
    (value : CJson)
    (rest : List (CStr × CJson)) :
    getObjectItem (some (.object ((name, value) :: rest))) key =
      getObjectItem (some (.object rest)) key := by
  simp [getObjectItem, different]

end CJson
end SbsServer
