import DistributedHardware.Resource.CapabilityCache
import DistributedHardware.Resource.RoundTrip

/-!
Which records of the cache are filled completely.

`FromJsonString` succeeds with every text that parses, and a record that is read only in
part is saved like any other. What tells it apart is the subtype, which is read last and
is then missing.
-/

namespace DistributedHardware

section Decoding
variable {parse : String → Option CJson} {value : String} {cap : CapabilityInfo} {json : CJson}

theorem valuestring_ne_empty {key : String} (valid : json.isString key = true) :
    json.valuestring key ≠ "" := by
  unfold CJson.isString at valid
  unfold CJson.valuestring
  cases item : json.getObjectItem key with
  | none => simp [item] at valid
  | some member =>
      cases member with
      | string s =>
          rw [item] at valid
          simp only [minMessageLen, Bool.and_eq_true, decide_eq_true_eq] at valid
          rintro rfl
          exact absurd valid.1 (by decide)
      | null | bool _ | number _ | array _ | object _ => simp [item] at valid

/-- A record is filled completely where every field is there and valid. -/
theorem allSet_fromJson_iff :
    (CapabilityInfo.fromJson json {}).AllSet ↔ json.isCapability = true := by
  have partly {cap : CapabilityInfo} (unread : cap.dhSubtype = "") {b : Bool}
      (invalid : b = false) : cap.AllSet ↔ b = true :=
    iff_of_false (fun all => all.2.2.2.2 unread) (by rw [invalid]; exact Bool.false_ne_true)
  unfold CapabilityInfo.fromJson CJson.isCapability
  cases dhId : json.isString "dh_id" with
  | false => exact partly rfl rfl
  | true =>
    cases deviceId : json.isString "dev_id" with
    | false => exact partly rfl rfl
    | true =>
      cases deviceName : json.isString "dev_name" with
      | false => exact partly rfl rfl
      | true =>
        cases json.isUInt16 "dev_type" with
        | false => exact partly rfl rfl
        | true =>
          cases json.isUInt32 "dh_type" with
          | false => exact partly rfl rfl
          | true =>
            cases dhAttrs : json.isString "dh_attrs" with
            | false => exact partly rfl rfl
            | true =>
              cases dhSubtype : json.isString "dh_subtype" with
              | false => exact partly rfl rfl
              | true =>
                exact iff_of_true ⟨valuestring_ne_empty dhId, valuestring_ne_empty deviceId,
                  valuestring_ne_empty deviceName, valuestring_ne_empty dhAttrs,
                  valuestring_ne_empty dhSubtype⟩ rfl

theorem getCapabilityByValue_eq_ok :
    getCapabilityByValue parse value = .ok cap ↔ isJsonLengthValid value = true ∧
      ∃ json, parse value = some json ∧ CapabilityInfo.fromJson json {} = cap := by
  unfold getCapabilityByValue getByValue
  cases isJsonLengthValid value with
  | false => simp
  | true => cases parse value <;> simp

end Decoding

section Cache
variable {parse : String → Option CJson} {map : CapabilityInfoMap} {acts : List CacheOp}

/-- What is in the cache was brought by an operation of the run. -/
theorem brought_of_run (run : (cacheSystem parse).Run (fun _ _ => True) acts map) :
    ∀ (key : String) cap, map[key]? = some cap → ∃ op ∈ acts, op.Brings parse cap := by
  refine run.invariant (I := fun acts map => ∀ (key : String) cap, map[key]? = some cap →
    ∃ op ∈ acts, op.Brings parse cap) ?_ ?_
  · intro map initial key cap held
    cases initial
    simp at held
  · intro acts map op after _ ih _ hs key cap held
    cases hs
    have keywise : Writes.Keywise (fun _ cap => ∃ o ∈ op :: acts, o.Brings parse cap) readMap
        (cacheStep parse op) :=
      keywise_brings (fun cap brings => ⟨op, List.mem_cons_self, brings⟩)
    refine keywise.preserves (fun key cap held => ?_) held
    obtain ⟨o, mem, brings⟩ := ih key cap held
    exact ⟨o, List.mem_cons_of_mem op mem, brings⟩

end Cache

private def parseEmptyObject (text : String) : Option CJson :=
  if text = "\x7b\x7d" then some (.object []) else none

end DistributedHardware
