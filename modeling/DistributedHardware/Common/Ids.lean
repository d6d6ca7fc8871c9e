import Mathlib.Data.String.Basic

/-!
Lengths, error codes and identifier checks of the framework's common utilities.

A `std::string` is a `String` whose length is its number of bytes. SHA-256 comes
from OpenSSL, so the functions that hash take the hash as an argument and
nothing is assumed of it.
-/

namespace DistributedHardware

def dhFwkSuccess : Int := 0
def errDhFwkParaInvalid : Int := -10000
def errDhFwkTypeNotExist : Int := -10003
def errDhFwkJsonParseFailed : Int := -10004
def errDhFwkComponentDhtypeNotFound : Int := -10010
def errDhFwkVersionDeviceIdNotExist : Int := -10200
def errDhFwkComponentEnableFailed : Int := -10302
def errDhFwkComponentDisableFailed : Int := -10303
def errDhFwkComponentEnableTimeout : Int := -10304
def errDhFwkComponentDisableTimeout : Int := -10305
def errDhFwkComponentRegisterFailed : Int := -10306
def errDhFwkComponentUnregisterFailed : Int := -10007
def errDhFwkResourceDbAdapterPointerNull : Int := -10400
def errDhFwkResourceDbAdapterOperationFail : Int := -10402
def errDhFwkResourceKvStorageOperationFail : Int := -10403
def errDhFwkResourceCapabilityMapNotFound : Int := -10404
def errDhFwkResourceResDbDataInvalid : Int := -10415
def errDhFwkHardwareManagerDeviceRepeatOnline : Int := -10500
def errDhFwkHardwareManagerDeviceRepeatOffline : Int := -10501
def errDhFwkHardwareManagerInitFailed : Int := -10502

def maxMessageLen : Nat := 40 * 1024 * 1024
def minMessageLen : Nat := 0
def maxIdLen : Nat := 256
def maxArrSize : Nat := 10000
def maxDbRecordSize : Nat := 10000
def maxOnlineDeviceSize : Nat := 10000
def maxJsonSize : Nat := 40 * 1024 * 1024
def maxHashSize : Nat := 64

def isIdLengthValid (inputId : String) : Bool :=
  inputId != "" && inputId.utf8ByteSize ≤ maxIdLen

def isMessageLengthValid (inputMessage : String) : Bool :=
  inputMessage != "" && inputMessage.utf8ByteSize ≤ maxMessageLen

def isJsonLengthValid (inputJsonStr : String) : Bool :=
  inputJsonStr != "" && inputJsonStr.utf8ByteSize ≤ maxJsonSize

def isHashSizeValid (inputHashValue : String) : Bool :=
  inputHashValue != "" && inputHashValue.utf8ByteSize ≤ maxHashSize

def isArrayLengthValid (inputArray : List String) : Bool :=
  inputArray != [] && inputArray.length ≤ maxArrSize

def getDeviceIdByUuid (sha256 : String → String) (uuid : String) : String :=
  if isIdLengthValid uuid then sha256 uuid else ""

def resourceSeparator : String := "###"

def getCapabilityKey (deviceId dhId : String) : String :=
  deviceId ++ resourceSeparator ++ dhId

/-- `std::string::find`: where the first occurrence starts. -/
def stringFind (sub : List Char) : List Char → Option Nat
  | [] => if sub = [] then some 0 else none
  | c :: cs => if sub.isPrefixOf (c :: cs) then some 0 else (stringFind sub cs).map (· + 1)

def isCapKeyMatchDeviceId (key deviceId : String) : Bool :=
  if !isIdLengthValid key || !isIdLengthValid deviceId then false
  else
    match stringFind resourceSeparator.toList key.toList with
    | none => false
    | some separatorPos => key.toList.take separatorPos == deviceId.toList

theorem ne_empty_of_isIdLengthValid {id : String} (h : isIdLengthValid id = true) : id ≠ "" := by
  rintro rfl
  simp [isIdLengthValid] at h

/-- `find` gives the length of what stands before the first occurrence. -/
theorem stringFind_eq_some_iff {sub cs : List Char} {n : Nat} :
    stringFind sub cs = some n ↔ (∃ d h, cs = d ++ sub ++ h ∧ d.length = n) ∧
      ∀ d h, cs = d ++ sub ++ h → n ≤ d.length := by
  induction cs generalizing n with
  | nil =>
      simp only [stringFind]
      by_cases hs : sub = []
      · simp [hs, eq_comm]
      · simp [hs]
  | cons c cs ih =>
      simp only [stringFind]
      by_cases hp : sub.isPrefixOf (c :: cs) = true
      · obtain ⟨h, hh⟩ := List.isPrefixOf_iff_prefix.mp hp
        rw [if_pos hp, Option.some.injEq]
        constructor
        · rintro rfl
          exact ⟨⟨[], h, by simp [hh], rfl⟩, fun _ _ _ => Nat.zero_le _⟩
        · rintro ⟨-, first⟩
          exact (Nat.le_zero.mp (first [] h (by simp [hh]))).symm
      · rw [if_neg hp, Option.map_eq_some_iff]
        -- no occurrence begins at the first character
        have shift {d h : List Char} (hd : c :: cs = d ++ sub ++ h) :
            ∃ d', d = c :: d' ∧ cs = d' ++ sub ++ h := by
          cases d with
          | nil => exact absurd (List.isPrefixOf_iff_prefix.mpr ⟨h, hd.symm⟩) hp
          | cons x d' =>
              simp only [List.cons_append, List.cons.injEq] at hd
              exact ⟨d', by rw [hd.1], by simpa using hd.2⟩
        constructor
        · rintro ⟨m, hm, rfl⟩
          obtain ⟨⟨d, h, hd, hlen⟩, first⟩ := ih.mp hm
          refine ⟨⟨c :: d, h, by simp [hd], by simp [hlen]⟩, ?_⟩
          intro d' h' hd'
          obtain ⟨d'', rfl, hcs⟩ := shift hd'
          have := first d'' h' hcs
          simpa using this
        · rintro ⟨⟨d, h, hd, hlen⟩, first⟩
          obtain ⟨d', rfl, hcs⟩ := shift hd
          refine ⟨d'.length, ih.mpr ⟨⟨d', h, hcs, rfl⟩, ?_⟩, hlen⟩
          intro e k he
          have := first (c :: e) k (by simp [he])
          simp only [List.length_cons] at this hlen
          omega
theorem toList_getCapabilityKey (deviceId dhId : String) :
    (getCapabilityKey deviceId dhId).toList =
      deviceId.toList ++ resourceSeparator.toList ++ dhId.toList := by
  simp only [getCapabilityKey, String.toList_append]

theorem eq_getCapabilityKey {key : String} {d h : List Char}
    (heq : key.toList = d ++ resourceSeparator.toList ++ h) :
    key = getCapabilityKey (String.ofList d) (String.ofList h) := by
  apply String.toList_inj.mp
  rw [toList_getCapabilityKey, heq, String.toList_ofList, String.toList_ofList]

/-- The parts of a key that is short enough are short enough too. -/
theorem isIdLengthValid_parts {deviceId dhId : String}
    (valid : isIdLengthValid (getCapabilityKey deviceId dhId) = true) :
    (deviceId ≠ "" → isIdLengthValid deviceId = true) ∧
      (dhId ≠ "" → isIdLengthValid dhId = true) := by
  simp only [isIdLengthValid, getCapabilityKey, String.utf8ByteSize_append, Bool.and_eq_true,
    bne_iff_ne, decide_eq_true_eq] at valid ⊢
  exact ⟨fun ne => ⟨ne, by omega⟩, fun ne => ⟨ne, by omega⟩⟩

/-- A key matches the shortest device id it can be composed with. -/
theorem isCapKeyMatchDeviceId_iff {key deviceId : String} :
    isCapKeyMatchDeviceId key deviceId = true ↔
      isIdLengthValid key = true ∧ isIdLengthValid deviceId = true ∧
        (∃ dhId, key = getCapabilityKey deviceId dhId) ∧
        ∀ d h, key = getCapabilityKey d h → deviceId.length ≤ d.length := by
  by_cases hkey : isIdLengthValid key = true
  case neg => simp [isCapKeyMatchDeviceId, hkey]
  by_cases hdev : isIdLengthValid deviceId = true
  case neg => simp [isCapKeyMatchDeviceId, hdev]
  simp only [isCapKeyMatchDeviceId, hkey, hdev, Bool.not_true, Bool.or_self, Bool.false_eq_true,
    if_false, true_and]
  constructor
  · intro h
    cases hf : stringFind resourceSeparator.toList key.toList with
    | none => rw [hf] at h; cases h
    | some pos =>
        rw [hf] at h
        obtain ⟨⟨d, h', heq, rfl⟩, first⟩ := stringFind_eq_some_iff.mp hf
        have hd : d = deviceId.toList := by
          simpa only [heq, List.append_assoc, List.take_left, beq_iff_eq] using h
        subst hd
        refine ⟨⟨String.ofList h', ?_⟩, ?_⟩
        · rw [eq_getCapabilityKey heq, String.ofList_toList]
        · intro e k hk
          have := first e.toList k.toList (by rw [hk, toList_getCapabilityKey])
          simpa only [String.length_toList] using this
  · rintro ⟨⟨dhId, hk⟩, first⟩
    have hf : stringFind resourceSeparator.toList key.toList = some deviceId.toList.length := by
      refine stringFind_eq_some_iff.mpr
        ⟨⟨deviceId.toList, dhId.toList, by rw [hk, toList_getCapabilityKey], rfl⟩, ?_⟩
      intro d h heq
      have := first _ _ (eq_getCapabilityKey heq)
      simpa only [← String.length_toList, String.toList_ofList] using this
    rw [hf, hk, toList_getCapabilityKey]
    simp only [List.append_assoc, List.take_left, beq_self_eq_true]

end DistributedHardware
