import Mathlib.Data.Rat.Defs
import Mathlib.Algebra.Order.Ring.Rat
import Mathlib.Data.Rat.Floor
import DistributedHardware.Common.Ids

/-!
The cJSON trees the framework reads, and its field checks on them.

cJSON itself is a third-party library: its parser is an argument of every
function that parses, and this is the value it returns. A number is a `double`,
here the rational it stands for.
-/

namespace DistributedHardware

/-- What `c_str` leaves of a string: it ends at the first NUL. -/
def cStr (s : String) : String := String.ofList (s.toList.takeWhile (· ≠ Char.ofNat 0))

inductive CJson
  | null
  | bool (b : Bool)
  | number (valuedouble : ℚ)
  | string (valuestring : String)
  | array (items : List CJson)
  | object (members : List (String × CJson))

namespace CJson

/-- `cJSON_GetObjectItem` compares names without regard to ASCII case and takes
the first member that matches. -/
def getObjectItem (name : String) : CJson → Option CJson
  | .object members =>
      (members.find? (fun m => m.1.toList.map Char.toLower == name.toList.map Char.toLower)).map
        Prod.snd
  | _ => none

/-- `cJSON_GetObjectItemCaseSensitive`. -/
def getObjectItemCaseSensitive (name : String) : CJson → Option CJson
  | .object members => (members.find? (fun m => m.1 == name)).map Prod.snd
  | _ => none

/-- What `cJSON_ArrayForEach` goes through. -/
def children : CJson → List CJson
  | .array items => items
  | .object members => members.map Prod.snd
  | _ => []

def isString (json : CJson) (key : String) : Bool :=
  match json.getObjectItem key with
  | some (.string s) => minMessageLen < s.utf8ByteSize && s.utf8ByteSize ≤ maxMessageLen
  | _ => false

def isUInt8 (json : CJson) (key : String) : Bool :=
  match json.getObjectItem key with
  | some (.number d) => 0 ≤ d && d ≤ 255
  | _ => false

def isUInt16 (json : CJson) (key : String) : Bool :=
  match json.getObjectItem key with
  | some (.number d) => 0 ≤ d && d ≤ 65535
  | _ => false

def isUInt32 (json : CJson) (key : String) : Bool :=
  match json.getObjectItem key with
  | some (.number d) => 0 ≤ d && d ≤ 4294967295
  | _ => false

def isInt32 (json : CJson) (key : String) : Bool :=
  match json.getObjectItem key with
  | some (.number d) => -2147483648 ≤ d && d ≤ 2147483647
  | _ => false

def isArray (json : CJson) (key : String) : Bool :=
  match json.getObjectItem key with
  | some (.array items) => items.length ≤ maxArrSize
  | _ => false

/-- The `valuestring` of a member, where it is a string. -/
def valuestring (json : CJson) (key : String) : String :=
  match json.getObjectItem key with
  | some (.string s) => s
  | _ => ""

/-- The `valuedouble` of a member, cast to an unsigned integer: the fraction is
dropped. -/
def valueunsigned (json : CJson) (key : String) : Nat :=
  match json.getObjectItem key with
  | some (.number d) => ⌊d⌋.toNat
  | _ => 0

/-- The `valueint` of a member, where it is a number in its range. -/
def valueint (json : CJson) (key : String) : Int :=
  match json.getObjectItem key with
  | some (.number d) => d.num.tdiv d.den
  | _ => 0

/-- The `valueint` of any number: it saturates at the bounds of an `int`. -/
def saturatedInt (d : ℚ) : Int :=
  if 2147483647 ≤ d then 2147483647
  else if d ≤ -2147483648 then -2147483648
  else d.num.tdiv d.den

/-- The items of a member, where it is an array. -/
def arrayItems (json : CJson) (key : String) : List CJson :=
  match json.getObjectItem key with
  | some (.array items) => items
  | _ => []

/-- The string stands somewhere in the tree. -/
inductive Contains (s : String) : CJson → Prop
  | string : Contains s (.string s)
  | array {items : List CJson} {item : CJson} :
      item ∈ items → Contains s item → Contains s (.array items)
  | object {members : List (String × CJson)} {member : String × CJson} :
      member ∈ members → Contains s member.2 → Contains s (.object members)

section Contains
variable {s : String}

@[simp] theorem contains_string {t : String} : Contains s (.string t) ↔ s = t := by
  constructor
  · intro h
    cases h
    rfl
  · rintro rfl
    exact .string

@[simp] theorem not_contains_number {d : ℚ} : ¬ Contains s (.number d) := by
  intro h
  cases h

@[simp] theorem contains_array {items : List CJson} :
    Contains s (.array items) ↔ ∃ item ∈ items, Contains s item := by
  constructor
  · intro h
    cases h with
    | array mem h => exact ⟨_, mem, h⟩
  · rintro ⟨item, mem, h⟩
    exact .array mem h

@[simp] theorem contains_object {members : List (String × CJson)} :
    Contains s (.object members) ↔ ∃ member ∈ members, Contains s member.2 := by
  constructor
  · intro h
    cases h with
    | object mem h => exact ⟨_, mem, h⟩
  · rintro ⟨member, mem, h⟩
    exact .object mem h

end Contains
end CJson
end DistributedHardware
