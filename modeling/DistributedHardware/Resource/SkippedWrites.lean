import DistributedHardware.Resource.RoundTrip

/-!
The writes that `AddCapability` skips: the record that the DB has looks equal to the new one.

`IsCapInfoJsonEqual` decodes both texts, and decoding ends at the first string that is empty
or too long. Two records that differ only behind such a string look equal.
-/

namespace DistributedHardware

section Prefixes
variable {α : Type} {p : α → Bool}

/-- The first items that differ are reached, and one of them is taken. -/
def DifferenceSeen (p : α → Bool) (xs ys : List α) : Prop :=
  ∃ front x y xs' ys', xs = front ++ x :: xs' ∧ ys = front ++ y :: ys' ∧ x ≠ y ∧
    (∀ z ∈ front, p z = true) ∧ (p x = true ∨ p y = true)

theorem differenceSeen_cons {x y : α} {xs ys : List α} :
    DifferenceSeen p (x :: xs) (y :: ys) ↔
      x ≠ y ∧ (p x = true ∨ p y = true) ∨ x = y ∧ p x = true ∧ DifferenceSeen p xs ys := by
  constructor
  · rintro ⟨front, u, v, us, vs, hxs, hys, differ, before, taken⟩
    cases front with
    | nil =>
        obtain ⟨rfl, rfl⟩ := List.cons_eq_cons.mp hxs
        obtain ⟨rfl, rfl⟩ := List.cons_eq_cons.mp hys
        exact .inl ⟨differ, taken⟩
    | cons z front =>
        obtain ⟨rfl, restX⟩ := List.cons_eq_cons.mp hxs
        obtain ⟨rfl, restY⟩ := List.cons_eq_cons.mp hys
        obtain ⟨first, before⟩ := List.forall_mem_cons.mp before
        exact .inr ⟨rfl, first, front, u, v, us, vs, restX, restY, differ, before, taken⟩
  · rintro (⟨differ, taken⟩ | ⟨rfl, first, front, u, v, us, vs, rfl, rfl, differ, before, taken⟩)
    · exact ⟨[], x, y, xs, ys, rfl, rfl, differ, by simp, taken⟩
    · exact ⟨x :: front, u, v, us, vs, rfl, rfl, differ,
        List.forall_mem_cons.mpr ⟨first, before⟩, taken⟩

theorem not_differenceSeen_nil : ¬ DifferenceSeen p [] [] := by
  rintro ⟨front, x, y, xs, ys, hxs, -⟩
  cases front <;> cases hxs

/-- What is taken of two lists of one length tells their difference where it is seen. -/
theorem takeWhile_ne_iff {xs ys : List α} (size : xs.length = ys.length) :
    xs.takeWhile p ≠ ys.takeWhile p ↔ DifferenceSeen p xs ys := by
  induction xs generalizing ys with
  | nil =>
      obtain rfl := List.length_eq_zero_iff.mp size.symm
      exact iff_of_false (fun h => h rfl) not_differenceSeen_nil
  | cons x xs ih =>
      cases ys with
      | nil => cases size
      | cons y ys =>
          rw [differenceSeen_cons, ← ih (Nat.succ.inj size)]
          by_cases same : x = y
          · subst same
            cases taken : p x with
            | false => simp [taken]
            | true => simp [taken]
          · cases first : p x with
            | true =>
                cases second : p y <;> simp [first, second, same]
            | false =>
                cases second : p y <;> simp [first, second, same]

end Prefixes

/-- The value of a field as it is written. -/
inductive FieldValue
  | text (s : String)
  | number (n : Nat)
  deriving DecidableEq

/-- `FromJson` takes the field and goes on. -/
def FieldValue.isRead : FieldValue → Bool
  | .text s => minMessageLen < s.utf8ByteSize && s.utf8ByteSize ≤ maxMessageLen
  | .number _ => true

@[simp] theorem isRead_number (n : Nat) : (FieldValue.number n).isRead = true := rfl

@[simp] theorem isRead_empty : (FieldValue.text "").isRead = false := rfl

theorem isRead_of_item {json : CJson} {key s : String}
    (item : json.getObjectItem key = some (.string s)) :
    json.isString key = (FieldValue.text s).isRead ∧ json.valuestring key = s := by
  unfold CJson.isString CJson.valuestring
  rw [item]
  exact ⟨rfl, rfl⟩

namespace CapabilityInfo
variable (cap : CapabilityInfo)

/-- The fields in the order in which they are read. -/
def fieldValues : List FieldValue :=
  [.text cap.dhId, .text cap.deviceId, .text cap.deviceName, .number cap.deviceType.toNat,
    .number (UInt32.toNat cap.dhType), .text cap.dhAttrs, .text cap.dhSubtype]

theorem compare_iff {a b : CapabilityInfo} : a.compare b = true ↔ a.cStr = b.cStr := by
  obtain ⟨dhId, deviceId, name, type, dhType, attrs, subtype⟩ := a
  obtain ⟨dhId', deviceId', name', type', dhType', attrs', subtype'⟩ := b
  simp only [CapabilityInfo.compare, CapabilityInfo.cStr, Bool.and_eq_true, beq_iff_eq,
    CapabilityInfo.mk.injEq]
  tauto

/-- What is read of the written fields. -/
theorem fromJson_toJson_eq : CapabilityInfo.fromJson cap.toJson {} =
    if !(FieldValue.text cap.dhId).isRead then {}
    else if !(FieldValue.text cap.deviceId).isRead then { dhId := cap.dhId }
    else if !(FieldValue.text cap.deviceName).isRead then
      { dhId := cap.dhId, deviceId := cap.deviceId }
    else if !(FieldValue.text cap.dhAttrs).isRead then { cap with dhAttrs := "", dhSubtype := "" }
    else if !(FieldValue.text cap.dhSubtype).isRead then { cap with dhSubtype := "" }
    else cap := by
  have items := DhTransport.capabilityItems_toJson cap
  obtain ⟨isDevType, isDhType, devType, dhType⟩ := DhTransport.number_of_items items
  obtain ⟨isDhId, dhId⟩ := isRead_of_item items.dhId
  obtain ⟨isDeviceId, deviceId⟩ := isRead_of_item items.deviceId
  obtain ⟨isName, name⟩ := isRead_of_item items.deviceName
  obtain ⟨isAttrs, attrs⟩ := isRead_of_item items.dhAttrs
  obtain ⟨isSubtype, subtype⟩ := isRead_of_item items.dhSubtype
  simp only [CapabilityInfo.fromJson, Id.run, isDhId, isDeviceId, isName, isDevType, isDhType,
    isAttrs, isSubtype, dhId, deviceId, name, devType, dhType, attrs, subtype]
  cases (FieldValue.text cap.dhId).isRead with
  | false => rfl
  | true =>
    cases (FieldValue.text cap.deviceId).isRead with
    | false => rfl
    | true =>
      cases (FieldValue.text cap.deviceName).isRead with
      | false => rfl
      | true =>
        cases (FieldValue.text cap.dhAttrs).isRead with
        | false => rfl
        | true => cases (FieldValue.text cap.dhSubtype).isRead <;> rfl

/-- What is read of strings without a NUL has none. -/
theorem cStr_fromJson_toJson : (CapabilityInfo.fromJson cap.cStr.toJson {}).cStr =
    CapabilityInfo.fromJson cap.cStr.toJson {} := by
  rw [fromJson_toJson_eq]
  split
  · rfl
  split
  · simp [CapabilityInfo.cStr, DhTransport.cStr_cStr, DhTransport.cStr_empty]
  split
  · simp [CapabilityInfo.cStr, DhTransport.cStr_cStr, DhTransport.cStr_empty]
  split
  · simp [CapabilityInfo.cStr, DhTransport.cStr_cStr, DhTransport.cStr_empty]
  split
  · simp [CapabilityInfo.cStr, DhTransport.cStr_cStr, DhTransport.cStr_empty]
  · exact cap.cStr_cStr

def textAt (taken : List FieldValue) (i : Nat) : String :=
  match taken[i]? with
  | some (.text s) => s
  | _ => ""

def numberAt (taken : List FieldValue) (i : Nat) : Nat :=
  match taken[i]? with
  | some (.number n) => n
  | _ => 0

/-- The record of the fields that are taken. -/
def ofTaken (taken : List FieldValue) : CapabilityInfo where
  dhId := textAt taken 0
  deviceId := textAt taken 1
  deviceName := textAt taken 2
  deviceType := UInt16.ofNat (numberAt taken 3)
  dhType := UInt32.ofNat (numberAt taken 4)
  dhAttrs := textAt taken 5
  dhSubtype := textAt taken 6

/-- Reading gives the fields that are taken, and shows which they are. -/
theorem fromJson_toJson_taken :
    CapabilityInfo.fromJson cap.toJson {} = ofTaken (cap.fieldValues.takeWhile FieldValue.isRead) ∧
      (CapabilityInfo.fromJson cap.toJson {}).fieldValues.takeWhile FieldValue.isRead =
        cap.fieldValues.takeWhile FieldValue.isRead := by
  obtain ⟨dhId, deviceId, name, type, dhType, attrs, subtype⟩ := cap
  rw [fromJson_toJson_eq]
  simp only [fieldValues, List.takeWhile_cons, isRead_number, if_true]
  -- what is taken ends before the first string that is refused
  cases isDhId : (FieldValue.text dhId).isRead with
  | false => exact ⟨rfl, rfl⟩
  | true =>
    cases isDeviceId : (FieldValue.text deviceId).isRead with
    | false => simp [isDhId]; rfl
    | true =>
      cases isName : (FieldValue.text name).isRead with
      | false => simp [isDhId, isDeviceId]; rfl
      | true =>
        cases isAttrs : (FieldValue.text attrs).isRead with
        | false => simp [isDhId, isDeviceId, isName, ofTaken, textAt, numberAt]
        | true =>
          cases isSubtype : (FieldValue.text subtype).isRead with
          | false => simp [isDhId, isDeviceId, isName, isAttrs, ofTaken, textAt, numberAt]
          | true => simp [isDhId, isDeviceId, isName, isAttrs, isSubtype, ofTaken, textAt, numberAt]

theorem fromJson_toJson_inj {a b : CapabilityInfo} :
    CapabilityInfo.fromJson a.toJson {} = CapabilityInfo.fromJson b.toJson {} ↔
      a.fieldValues.takeWhile FieldValue.isRead = b.fieldValues.takeWhile FieldValue.isRead := by
  constructor
  · intro same
    rw [← a.fromJson_toJson_taken.2, ← b.fromJson_toJson_taken.2, same]
  · intro same
    rw [a.fromJson_toJson_taken.1, b.fromJson_toJson_taken.1, same]

/-- The records are equal, or the first fields that differ follow no string that is refused, and
one of them is not refused either. -/
def Told (a b : CapabilityInfo) : Prop :=
  a.cStr = b.cStr ∨ DifferenceSeen FieldValue.isRead a.cStr.fieldValues b.cStr.fieldValues

theorem told_iff {a b : CapabilityInfo} : a.Told b ↔
    (a.cStr.fieldValues.takeWhile FieldValue.isRead =
      b.cStr.fieldValues.takeWhile FieldValue.isRead → a.cStr = b.cStr) := by
  have seen : a.cStr.fieldValues.takeWhile FieldValue.isRead ≠
      b.cStr.fieldValues.takeWhile FieldValue.isRead ↔
        DifferenceSeen FieldValue.isRead a.cStr.fieldValues b.cStr.fieldValues :=
    takeWhile_ne_iff rfl
  rw [Told, ← seen]
  exact imp_iff_or_not.symm

end CapabilityInfo

section Skipping
variable {parse : String → Option CJson} {printUnformatted : CJson → Option String}
variable {a b : CapabilityInfo}

/-- cJSON has the memory for the text of a record. -/
def CapabilityInfo.Prints (printUnformatted : CJson → Option String) (cap : CapabilityInfo) :
    Prop :=
  ∃ text, printUnformatted cap.cStr.toJson = some text

theorem parse_toJsonString (lib : PrintsParsed parse printUnformatted)
    (prints : a.Prints printUnformatted) :
    parse (a.toJsonString printUnformatted) = some a.cStr.toJson := by
  obtain ⟨text, printed⟩ := prints
  rw [CapabilityInfo.toJsonString, printed, Option.getD_some]
  exact lib.parsePrinted _ text printed

/-- The texts look equal where decoding takes the same fields of both. -/
theorem isCapInfoJsonEqual_printed (lib : PrintsParsed parse printUnformatted)
    (printsA : a.Prints printUnformatted) (printsB : b.Prints printUnformatted) :
    isCapInfoJsonEqual parse (a.toJsonString printUnformatted)
        (b.toJsonString printUnformatted) = true ↔
      a.cStr.fieldValues.takeWhile FieldValue.isRead =
        b.cStr.fieldValues.takeWhile FieldValue.isRead := by
  unfold isCapInfoJsonEqual
  simp only [parse_toJsonString lib printsA, parse_toJsonString lib printsB]
  rw [CapabilityInfo.compare_iff, a.cStr_fromJson_toJson, b.cStr_fromJson_toJson,
    CapabilityInfo.fromJson_toJson_inj]

/-- Only equal records look equal exactly where the difference is told. -/
theorem equal_of_looksEqual_iff (lib : PrintsParsed parse printUnformatted)
    (printsA : a.Prints printUnformatted) (printsB : b.Prints printUnformatted) :
    (isCapInfoJsonEqual parse (a.toJsonString printUnformatted)
        (b.toJsonString printUnformatted) = true → a.compare b = true) ↔ a.Told b := by
  rw [isCapInfoJsonEqual_printed lib printsA printsB, CapabilityInfo.compare_iff,
    CapabilityInfo.told_iff]

/-- Equal records always look equal. -/
theorem looksEqual_of_equal (lib : PrintsParsed parse printUnformatted)
    (printsA : a.Prints printUnformatted) (printsB : b.Prints printUnformatted)
    (equal : a.compare b = true) :
    isCapInfoJsonEqual parse (a.toJsonString printUnformatted)
      (b.toJsonString printUnformatted) = true := by
  rw [isCapInfoJsonEqual_printed lib printsA printsB, CapabilityInfo.compare_iff.mp equal]

theorem notMem_newRecords_iff {db : KvStore} {records : List CapabilityInfo} (mem : b ∈ records)
    (stored : db.getDataByKey b.getKey = .ok (a.toJsonString printUnformatted)) :
    b ∉ newRecords parse printUnformatted db records ↔
      isCapInfoJsonEqual parse (a.toJsonString printUnformatted)
        (b.toJsonString printUnformatted) = true := by
  simp [newRecords, mem, isStored, stored]

/-- The DB takes the texts of the new records only. -/
theorem addCapability_db {resInfos : List (Option CapabilityInfo)} {s : CapabilityStores}
    (handled : isHandledSize resInfos = true) :
    (addCapability parse printUnformatted resInfos s).2.db =
      let written := newRecords parse printUnformatted s.db resInfos.reduceOption
      if written.isEmpty then s.db
      else (s.db.putDataBatch (written.map CapabilityInfo.getKey)
        (written.map (CapabilityInfo.toJsonString printUnformatted))).2 := by
  simp only [addCapability, handled, foldl_addRecord, Bool.not_true, Bool.false_eq_true, if_false,
    List.nil_append, List.isEmpty_map, Bool.or_self]
  split <;> rfl

/-- The texts of two records look equal exactly when the records are, and a record whose write is
skipped is the one that the DB has, exactly where the difference of the two is told. -/
theorem looksEqual_iff_told (lib : PrintsParsed parse printUnformatted) :
    (∀ a b : CapabilityInfo, a.Prints printUnformatted → b.Prints printUnformatted →
      ((isCapInfoJsonEqual parse (a.toJsonString printUnformatted)
          (b.toJsonString printUnformatted) = true ↔ a.compare b = true) ↔ a.Told b)) ∧
    ∀ (resInfos : List (Option CapabilityInfo)) (s : CapabilityStores),
      isHandledSize resInfos = true →
      let written := newRecords parse printUnformatted s.db resInfos.reduceOption
      (addCapability parse printUnformatted resInfos s).2.db =
          (if written.isEmpty then s.db
            else (s.db.putDataBatch (written.map CapabilityInfo.getKey)
              (written.map (CapabilityInfo.toJsonString printUnformatted))).2) ∧
        ∀ a b : CapabilityInfo, some b ∈ resInfos → a.Prints printUnformatted →
          b.Prints printUnformatted →
          s.db.getDataByKey b.getKey = .ok (a.toJsonString printUnformatted) →
            ((b ∉ written → a.compare b = true) ↔ a.Told b) := by
  constructor
  · intro a b printsA printsB
    rw [← equal_of_looksEqual_iff lib printsA printsB]
    exact ⟨fun same => same.mp, fun h => ⟨h, looksEqual_of_equal lib printsA printsB⟩⟩
  · intro resInfos s handled
    refine ⟨addCapability_db handled, ?_⟩
    intro a b mem printsA printsB stored
    rw [notMem_newRecords_iff (List.reduceOption_mem_iff.mpr mem) stored,
      equal_of_looksEqual_iff lib printsA printsB]

end Skipping

section Examples

/-- A printer of two trees, and the parser of their texts. -/
theorem exists_printsParsed_two {j k : CJson} {s t : String} (trees : k ≠ j) (texts : t ≠ s)
    (containedJ : ∀ u, j.Contains u → u.utf8ByteSize ≤ s.utf8ByteSize)
    (containedK : ∀ u, k.Contains u → u.utf8ByteSize ≤ t.utf8ByteSize) :
    ∃ parse printUnformatted, PrintsParsed parse printUnformatted ∧
      printUnformatted j = some s ∧ printUnformatted k = some t := by
  obtain ⟨parse, printUnformatted, lib, printed⟩ :=
    exists_printsParsed_of_pairs [(j, s), (k, t)] (by simpa using trees.symm)
      (by simpa using texts.symm) (by simpa using ⟨containedJ, containedK⟩)
  exact ⟨parse, printUnformatted, lib, printed (j, s) (by simp), printed (k, t) (by simp)⟩

/-- A camera of a device, which may have no name. -/
private def cameraOf (deviceName dhAttrs : String) : CapabilityInfo where
  dhId := "h"
  deviceId := "d"
  deviceName
  deviceType := 14
  dhType := DhType.camera
  dhAttrs
  dhSubtype := "s"

private def cameraOfText (deviceName dhAttrs : String) : String :=
  String.join ["\x7b\"dh_id\":\"h\",\"dev_id\":\"d\",\"dev_name\":\"", deviceName,
    "\",\"dev_type\":14,\"dh_type\":1,\"dh_attrs\":\"", dhAttrs,
    "\",\"dh_subtype\":\"s\"\x7d"]

theorem cameraOf_contained {deviceName dhAttrs s : String} (name : deviceName.utf8ByteSize ≤ 3)
    (attrs : dhAttrs.utf8ByteSize ≤ 3) (mem : (cameraOf deviceName dhAttrs).toJson.Contains s) :
    s.utf8ByteSize ≤ 3 := by
  simp only [CapabilityInfo.toJson, cameraOf, CJson.contains_object,
    List.exists_mem_cons_iff, List.not_mem_nil, false_and, exists_false, or_false,
    CJson.contains_string, CJson.not_contains_number, false_or] at mem
  obtain rfl | rfl | rfl | rfl | rfl := mem
  · decide
  · decide
  · exact name
  · exact attrs
  · decide

/-- Two cameras of the device that have other attributes, printed and parsed. -/
theorem exists_cameras_printed (name : String) (fits : name.utf8ByteSize ≤ 3)
    (texts : cameraOfText name "b" ≠ cameraOfText name "a")
    (long : ∀ attrs ∈ ["a", "b"], 3 ≤ (cameraOfText name attrs).utf8ByteSize)
    (plain : ∀ attrs ∈ ["a", "b"], (cameraOf name attrs).cStr = cameraOf name attrs) :
    ∃ parse printUnformatted, PrintsParsed parse printUnformatted ∧
      (cameraOf name "a").Prints printUnformatted ∧
      (cameraOf name "b").Prints printUnformatted := by
  have trees : (cameraOf name "b").toJson ≠ (cameraOf name "a").toJson := by
    simp [CapabilityInfo.toJson, cameraOf]
  obtain ⟨parse, printUnformatted, lib, printed, printed'⟩ :=
    exists_printsParsed_two trees texts
      (fun u mem => (cameraOf_contained fits (by decide) mem).trans (long "a" (by simp)))
      (fun u mem => (cameraOf_contained fits (by decide) mem).trans (long "b" (by simp)))
  refine ⟨parse, printUnformatted, lib, ⟨cameraOfText name "a", ?_⟩, ⟨cameraOfText name "b", ?_⟩⟩
  · rw [plain "a" (by simp)]
    exact printed
  · rw [plain "b" (by simp)]
    exact printed'

/-- Other attributes of a camera are told where its device has a name. -/
theorem namedCameras_told : ∃ parse printUnformatted, PrintsParsed parse printUnformatted ∧
    isCapInfoJsonEqual parse ((cameraOf "p" "a").toJsonString printUnformatted)
      ((cameraOf "p" "b").toJsonString printUnformatted) = false := by
  obtain ⟨parse, printUnformatted, lib, prints, prints'⟩ := exists_cameras_printed "p" (by decide)
    (by decide +kernel) (by decide +kernel) (by decide +kernel)
  refine ⟨parse, printUnformatted, lib, ?_⟩
  have taken : (cameraOf "p" "a").cStr.fieldValues.takeWhile FieldValue.isRead ≠
      (cameraOf "p" "b").cStr.fieldValues.takeWhile FieldValue.isRead := by decide +kernel
  have told : (cameraOf "p" "a").Told (cameraOf "p" "b") :=
    CapabilityInfo.told_iff.mpr (fun same => absurd same taken)
  have different : (cameraOf "p" "a").compare (cameraOf "p" "b") = false := by decide +kernel
  have same := ((looksEqual_iff_told lib).1 _ _ prints prints').mpr told
  rw [different] at same
  exact Bool.eq_false_iff.mpr (fun equal => absurd (same.mp equal) (by decide))

/-- Other attributes of a camera of a device without a name are not written. -/
theorem exists_write_skipped : ∃ parse printUnformatted, ∃ a b : CapabilityInfo, ∃ s,
    PrintsParsed parse printUnformatted ∧ a.Prints printUnformatted ∧ b.Prints printUnformatted ∧
      isCapInfoJsonEqual parse (a.toJsonString printUnformatted)
        (b.toJsonString printUnformatted) = true ∧
      a.compare b = false ∧
      s.db.getDataByKey b.getKey = .ok (a.toJsonString printUnformatted) ∧
      (addCapability parse printUnformatted [some b] s).2.db = s.db := by
  obtain ⟨parse, printUnformatted, lib, prints, prints'⟩ := exists_cameras_printed "" (by decide)
    (by decide +kernel) (by decide +kernel) (by decide +kernel)
  let a := cameraOf "" "a"
  let b := cameraOf "" "b"
  let s : CapabilityStores :=
    { db := (∅ : KvStore).insert b.getKey (a.toJsonString printUnformatted) }
  have valid : isIdLengthValid b.getKey = true := by decide +kernel
  have stored : s.db.getDataByKey b.getKey = .ok (a.toJsonString printUnformatted) := by
    simp [KvStore.getDataByKey, valid, s]
  have equal : isCapInfoJsonEqual parse (a.toJsonString printUnformatted)
      (b.toJsonString printUnformatted) = true := by
    rw [isCapInfoJsonEqual_printed lib prints prints']
    decide +kernel
  refine ⟨parse, printUnformatted, a, b, s, lib, prints, prints', equal, by decide +kernel, stored,
    ?_⟩
  rw [addCapability_db rfl]
  simp [newRecords, isStored, stored, equal]

end Examples
end DistributedHardware
