import DistributedHardware.AvTransport.AbilityCodec

/-!
Codec abilities from the querier's `ToJson` to each of the two readers.

A field comes back where the reader's check lets it pass and its cast undoes the printed
number. The records differ in which of their fields the two readers agree on.
-/

namespace DistributedHardware

/-- A string that both readers give back: a C string, and short enough for the querier. -/
def StringFits (s : String) : Prop := cStr s = s ∧ s.utf8ByteSize ≤ maxMessagesLen

/-- A number that both readers give back: the querier reads an `int`. -/
def NumberFits {α : Type} [FieldWidth α] (v : α) : Prop := FieldWidth.toNat v ≤ 2147483647

/-- A string that is not empty, and a list of a length that both readers accept. -/
def NumbersWellFormed {α : Type} (mime : String) (values : List α) : Prop :=
  mime ≠ "" ∧ values.length ≤ maxArrSize

def NumbersFit {α : Type} [FieldWidth α] (mime : String) (values : List α) : Prop :=
  StringFits mime ∧ ∀ v ∈ values, NumberFits v

/-- Two keys differ, also without regard to case. -/
def differ (name key : String) : Bool :=
  !(name.toList.map Char.toLower == key.toList.map Char.toLower)

namespace AbilityReader
variable {reader : AbilityReader} {json : CJson} {key s : String}

theorem item_cons_self {value : CJson} {members : List (String × CJson)} :
    reader.item (.object ((key, value) :: members)) key = some value := by
  cases reader <;> simp [item, CJson.getObjectItem, CJson.getObjectItemCaseSensitive]

theorem item_cons_ne {name : String} {value : CJson} {members : List (String × CJson)}
    (h : differ name key = true) :
    reader.item (.object ((name, value) :: members)) key = reader.item (.object members) key := by
  have other : (name.toList.map Char.toLower == key.toList.map Char.toLower) = false := by
    simpa only [differ, Bool.not_eq_true'] using h
  cases reader with
  | parser => simp only [item, CJson.getObjectItem, List.find?_cons, other]
  | querier =>
      have different : (name == key) = false := by
        rw [beq_eq_false_iff_ne]
        rintro rfl
        exact absurd (beq_self_eq_true _) (Bool.eq_false_iff.mp other)
      simp only [item, CJson.getObjectItemCaseSensitive, List.find?_cons, different]

/-- The lengths of strings that a reader takes. -/
def Takes (reader : AbilityReader) (size : Nat) : Prop :=
  match reader with
  | .parser => minMessageLen < size ∧ size ≤ maxMessageLen
  | .querier => size ≤ maxMessagesLen

theorem isString_of_item (h : reader.item json key = some (.string s)) :
    reader.isString json key = true ↔ reader.Takes s.utf8ByteSize := by
  cases reader with
  | parser => simp [isString, CJson.isString, Takes, show json.getObjectItem key = _ from h]
  | querier => simp [isString, Takes, show json.getObjectItemCaseSensitive key = _ from h]

theorem valuestring_of_item (h : reader.item json key = some (.string s)) :
    reader.valuestring json key = s := by
  rw [valuestring, h]

theorem number_of_item {d : ℚ} (h : reader.item json key = some (.number d)) :
    reader.number json key = reader.integer d := by
  rw [number, h]

theorem isArray_of_item {items : List CJson} (h : reader.item json key = some (.array items))
    (length : items.length ≤ maxArrSize) : reader.isArray json key = true := by
  cases reader with
  | parser => simp [isArray, CJson.isArray, show json.getObjectItem key = _ from h, length]
  | querier => simp [isArray, show json.getObjectItemCaseSensitive key = _ from h]

theorem items_of_item {items : List CJson} (h : reader.item json key = some (.array items)) :
    reader.items json key = items := by
  rw [AbilityReader.items, h]
  rfl

/-- A string is read by both readers exactly where it fits. -/
theorem string_iff (h : ∀ reader : AbilityReader, reader.item json key = some (.string (cStr s)))
    (ne : s ≠ "") :
    (∀ reader : AbilityReader, reader.isString json key = true ∧
      reader.valuestring json key = s) ↔ StringFits s := by
  constructor
  · intro read
    obtain ⟨short, same⟩ := read .querier
    rw [isString_of_item (h .querier)] at short
    rw [valuestring_of_item (h .querier)] at same
    rw [same] at short
    exact ⟨same, short⟩
  · rintro ⟨same, short⟩ reader
    refine ⟨?_, (valuestring_of_item (h reader)).trans same⟩
    rw [isString_of_item (h reader), same]
    have nonempty : s.utf8ByteSize ≠ 0 := fun zero => ne (String.utf8ByteSize_eq_zero_iff.mp zero)
    cases reader with
    | parser =>
        have : maxMessagesLen ≤ maxMessageLen := by decide
        exact ⟨Nat.pos_of_ne_zero nonempty, short.trans this⟩
    | querier => exact short

end AbilityReader

section Fields
variable {α : Type} [FieldWidth α]

theorem saturatedInt_natCast (n : Nat) :
    CJson.saturatedInt (n : ℚ) = (min n 2147483647 : Nat) := by
  unfold CJson.saturatedInt
  split
  · rename_i large
    have : 2147483647 ≤ n := by exact_mod_cast large
    rw [min_eq_right this]
    rfl
  · rename_i small
    have : n < 2147483647 := by exact_mod_cast not_le.mp small
    rw [min_eq_left this.le, if_neg]
    · simp
    · have : (0 : ℚ) ≤ n := Nat.cast_nonneg n
      linarith

/-- A number comes back from both readers exactly where it fits an `int`. -/
theorem number_iff (v : α) :
    (∀ reader : AbilityReader, FieldWidth.ofInt (reader.integer
      (Rounding.toEven 53 (FieldWidth.toNat v) : ℚ)) = v) ↔ NumberFits v := by
  constructor
  · intro read
    by_contra large
    have wide : 2147483647 ≤ Rounding.toEven 53 (FieldWidth.toNat v) :=
      Rounding.le_toEven (by decide) (by decide) (Nat.le_of_not_le large)
    have saturated := read .querier
    simp only [AbilityReader.integer, saturatedInt_natCast, min_eq_right wide] at saturated
    have := FieldWidth.toNat_ofInt_le (α := α) 2147483647
    rw [saturated] at this
    exact large this
  · intro fits reader
    have small : FieldWidth.toNat v ≤ 2147483647 := fits
    rw [Rounding.toEven_eq (lt_of_le_of_lt small (by decide))]
    cases reader with
    | parser => simp [AbilityReader.integer, FieldWidth.ofInt_toNat]
    | querier =>
        simp only [AbilityReader.integer, saturatedInt_natCast, min_eq_left small]
        exact FieldWidth.ofInt_toNat v

theorem numbers_createNumber (reader : AbilityReader) (values : List α) :
    (reader.numbers (values.map (fun v => createNumber (FieldWidth.toNat v))) : List α) =
      values.map (fun v => FieldWidth.ofInt (reader.integer
        (Rounding.toEven 53 (FieldWidth.toNat v) : ℚ))) := by
  induction values with
  | nil => rfl
  | cons v values ih =>
      rw [List.map_cons, List.map_cons, ← ih]
      rfl

/-- A list of numbers comes back from both readers exactly where each of them fits. -/
theorem numbers_iff (values : List α) :
    (∀ reader : AbilityReader, reader.numbers (values.map (fun v =>
      createNumber (FieldWidth.toNat v))) = values) ↔ ∀ v ∈ values, NumberFits v := by
  simp only [numbers_createNumber, ← number_iff]
  constructor
  · intro read v hv reader
    have same := (read reader).trans (List.map_id values).symm
    exact List.map_inj_left.mp same v hv
  · intro read reader
    apply (List.map_inj_left.mpr (fun v hv => read v hv reader)).trans
    exact List.map_id values

end Fields

section Records
variable {α : Type} [FieldWidth α] {mime key : String} {values : List α}

/-- What a record of numbers reads, where its mime type is not empty. -/
theorem fromJsonNumbers_eq_iff {reader : AbilityReader} {checked : String} {json : CJson}
    (ne : mime ≠ "") :
    reader.fromJsonNumbers checked key json = (mime, values) ↔
      (reader.isString json "mime" = true ∧ reader.valuestring json "mime" = mime) ∧
        (if reader.isArray json checked then reader.numbers (reader.items json key) else []) =
          values := by
  unfold AbilityReader.fromJsonNumbers
  dsimp only
  cases reader.isString json "mime" with
  | false => simp [ne.symm]
  | true => cases reader.isArray json checked <;> simp

variable (mime key values) in
theorem item_mime (reader : AbilityReader) :
    reader.item (numbersToJson key mime values) "mime" = some (.string (cStr mime)) :=
  AbilityReader.item_cons_self

variable (mime values) in
theorem item_numbers (reader : AbilityReader) (other : differ "mime" key = true) :
    reader.item (numbersToJson key mime values) key =
      some (.array (values.map (fun v => createNumber (FieldWidth.toNat v)))) :=
  (AbilityReader.item_cons_ne other).trans AbilityReader.item_cons_self

variable (key) in
/-- A record of a mime type and a list of numbers comes back from both readers exactly where
both fit. -/
theorem fromJsonNumbers_iff (other : differ "mime" key = true)
    (wf : NumbersWellFormed mime values) :
    (∀ reader : AbilityReader, reader.fromJsonNumbers key key (numbersToJson key mime values) =
      (mime, values)) ↔ NumbersFit mime values := by
  have array (reader : AbilityReader) :
      reader.isArray (numbersToJson key mime values) key = true :=
    AbilityReader.isArray_of_item (item_numbers mime values reader other) (by simpa using wf.2)
  have items (reader : AbilityReader) := AbilityReader.items_of_item
    (item_numbers mime values reader other)
  have string := AbilityReader.string_iff (item_mime mime key values) wf.1
  simp only [fromJsonNumbers_eq_iff wf.1, array, items, if_true, forall_and]
  rw [NumbersFit, ← numbers_iff, ← string, forall_and]

end Records

/-- A record comes back from both readers. -/
def Survives {T : Type} (toJson : T → CJson) (fromJson : AbilityReader → CJson → T) (r : T) :
    Prop :=
  ∀ reader, fromJson reader (toJson r) = r

section Sides

def AudioEncoderOut.WellFormed (out : AudioEncoderOut) : Prop := out.mime ≠ ""

/-- `ToJson` casts the version to a byte. -/
def AudioEncoderOut.Fits (out : AudioEncoderOut) : Prop :=
  StringFits out.mime ∧ out.ad_mpeg_ver.toNat ≤ 255

def VideoEncoderOut.WellFormed (out : VideoEncoderOut) : Prop := out.mime ≠ ""

def VideoDecoderOut.WellFormed (out : VideoDecoderOut) : Prop :=
  NumbersWellFormed out.mime out.pixel_fmt

/-- The framework finds no array under the member it checks. -/
def VideoDecoderOut.Fits (out : VideoDecoderOut) : Prop :=
  StringFits out.mime ∧ out.pixel_fmt = []

theorem AudioEncoderIn.survives_iff {r : AudioEncoderIn}
    (wf : NumbersWellFormed r.mime r.sample_rate) :
    Survives AudioEncoderIn.toJson AudioEncoderIn.fromJson r ↔ NumbersFit r.mime r.sample_rate := by
  rw [← fromJsonNumbers_iff "sample_rate" (by decide) wf]
  cases r
  simp [Survives, AudioEncoderIn.toJson, AudioEncoderIn.fromJson, Prod.ext_iff]

theorem AudioDecoderIn.survives_iff {r : AudioDecoderIn}
    (wf : NumbersWellFormed r.mime r.channel_layout) :
    Survives AudioDecoderIn.toJson AudioDecoderIn.fromJson r ↔
      NumbersFit r.mime r.channel_layout := by
  rw [← fromJsonNumbers_iff "channel_layout" (by decide) wf]
  cases r
  simp [Survives, AudioDecoderIn.toJson, AudioDecoderIn.fromJson, Prod.ext_iff]

theorem AudioDecoderOut.survives_iff {r : AudioDecoderOut}
    (wf : NumbersWellFormed r.mime r.sample_fmt) :
    Survives AudioDecoderOut.toJson AudioDecoderOut.fromJson r ↔
      NumbersFit r.mime r.sample_fmt := by
  rw [← fromJsonNumbers_iff "sample_fmt" (by decide) wf]
  cases r
  simp [Survives, AudioDecoderOut.toJson, AudioDecoderOut.fromJson, Prod.ext_iff]

theorem VideoEncoderIn.survives_iff {r : VideoEncoderIn}
    (wf : NumbersWellFormed r.mime r.pixel_fmt) :
    Survives VideoEncoderIn.toJson VideoEncoderIn.fromJson r ↔ NumbersFit r.mime r.pixel_fmt := by
  rw [← fromJsonNumbers_iff "pixel_fmt" (by decide) wf]
  cases r
  simp [Survives, VideoEncoderIn.toJson, VideoEncoderIn.fromJson, Prod.ext_iff]

theorem VideoDecoderIn.survives_iff {r : VideoDecoderIn}
    (wf : NumbersWellFormed r.mime r.vd_bit_stream_fmt) :
    Survives VideoDecoderIn.toJson VideoDecoderIn.fromJson r ↔
      NumbersFit r.mime r.vd_bit_stream_fmt := by
  rw [← fromJsonNumbers_iff "vd_bit_stream_fmt" (by decide) wf]
  cases r
  simp [Survives, VideoDecoderIn.toJson, VideoDecoderIn.fromJson, Prod.ext_iff]

theorem VideoEncoderOut.survives_iff {r : VideoEncoderOut} (wf : r.WellFormed) :
    Survives VideoEncoderOut.toJson VideoEncoderOut.fromJson r ↔ StringFits r.mime := by
  have item_mime (reader : AbilityReader) : reader.item r.toJson "mime" =
      some (.string (cStr r.mime)) := AbilityReader.item_cons_self
  rw [← AbilityReader.string_iff item_mime wf]
  apply forall_congr'
  intro reader
  obtain ⟨mime⟩ := r
  unfold VideoEncoderOut.fromJson
  cases reader.isString (VideoEncoderOut.toJson { mime }) "mime" with
  | false => simpa using Ne.symm wf
  | true => simp

theorem VideoDecoderOut.fromJson_eq_iff {reader : AbilityReader} {json : CJson} {mime : String}
    {pixel_fmt : List VideoPixelFormat} (ne : mime ≠ "") :
    VideoDecoderOut.fromJson reader json = ⟨mime, pixel_fmt⟩ ↔
      (reader.isString json "mime" = true ∧ reader.valuestring json "mime" = mime) ∧
        (if reader.isArray json (VideoDecoderOut.checked reader) then
          reader.numbers (reader.items json "pixel_fmt") else []) = pixel_fmt := by
  rw [← fromJsonNumbers_eq_iff ne, Prod.ext_iff, VideoDecoderOut.fromJson,
    VideoDecoderOut.mk.injEq]

/-- The framework reads no pixel format. -/
theorem VideoDecoderOut.survives_iff {r : VideoDecoderOut} (wf : r.WellFormed) :
    Survives VideoDecoderOut.toJson VideoDecoderOut.fromJson r ↔ r.Fits := by
  have string := AbilityReader.string_iff (item_mime r.mime "pixel_fmt" r.pixel_fmt) wf.1
  have missing : AbilityReader.item .parser r.toJson "vd_bit_stream_fmt" = none :=
    (AbilityReader.item_cons_ne (by decide)).trans (AbilityReader.item_cons_ne (by decide))
  have unchecked : AbilityReader.isArray .parser r.toJson "vd_bit_stream_fmt" = false := by
    simp [AbilityReader.isArray, CJson.isArray, show r.toJson.getObjectItem _ = _ from missing]
  apply (forall_congr' (fun _ => fromJson_eq_iff wf.1)).trans
  rw [forall_and]
  apply and_congr string
  constructor
  · intro read
    have := read .parser
    rw [VideoDecoderOut.checked, unchecked] at this
    exact this.symm
  · intro none reader
    have item : reader.item r.toJson "pixel_fmt" = some (.array []) := by
      rw [VideoDecoderOut.toJson, item_numbers _ _ reader (by decide), none]
      rfl
    rw [AbilityReader.items_of_item item, none]
    split <;> rfl

/-- A byte passes the checks of both readers and is read as it is. -/
theorem byte_of_item {reader : AbilityReader} {json : CJson} {key : String} {b : UInt8}
    (h : reader.item json key = some (createNumber b.toNat)) :
    reader.isUInt8 json key = true ∧ reader.isUInt32 json key = true ∧
      reader.number json key = b.toNat := by
  have small : b.toNat < 256 := b.toNat_lt
  rw [createNumber, Rounding.toEven_eq (lt_trans small (by decide))] at h
  have bound : (b.toNat : ℚ) ≤ 255 := by exact_mod_cast Nat.le_of_lt_succ small
  rw [AbilityReader.number_of_item h]
  cases reader with
  | parser =>
      have hitem : json.getObjectItem key = some (.number (b.toNat : ℚ)) := h
      refine ⟨?_, ?_, by simp [AbilityReader.integer]⟩
      · simp [AbilityReader.isUInt8, CJson.isUInt8, hitem, bound]
      · have : (b.toNat : ℚ) ≤ 4294967295 := bound.trans (by norm_num)
        simp [AbilityReader.isUInt32, CJson.isUInt32, hitem, this]
  | querier =>
      have hitem : json.getObjectItemCaseSensitive key = some (.number (b.toNat : ℚ)) := h
      have whole : CJson.saturatedInt (b.toNat : ℚ) = b.toNat := by
        rw [saturatedInt_natCast, min_eq_left (by omega)]
      refine ⟨?_, ?_, whole⟩
      · have := (UInt8.ofInt (CJson.saturatedInt (b.toNat : ℚ))).toNat_lt
        simp only [AbilityReader.isUInt8, hitem, decide_eq_true_eq]
        omega
      · have := (UInt32.ofInt (CJson.saturatedInt (b.toNat : ℚ))).toNat_lt
        simp only [AbilityReader.isUInt32, hitem, decide_eq_true_eq]
        omega

theorem ofInt_byte_iff {v : UInt32} :
    UInt32.ofInt (v.toUInt8.toNat : Int) = v ↔ v.toNat ≤ 255 := by
  rw [← UInt32.toNat_inj]
  simp [UInt32.ofInt]
  omega

/-- The version comes back as the byte it was cast to. -/
theorem AudioEncoderOut.survives_iff {fresh r : AudioEncoderOut} (wf : r.WellFormed) :
    Survives AudioEncoderOut.toJson (fun reader => AudioEncoderOut.fromJson reader fresh) r ↔
      r.Fits := by
  have item_mime (reader : AbilityReader) : reader.item r.toJson "mime" =
      some (.string (cStr r.mime)) := AbilityReader.item_cons_self
  have string := AbilityReader.string_iff item_mime wf
  have item_ver (reader : AbilityReader) : reader.item r.toJson "ad_mpeg_ver" =
      some (createNumber r.ad_mpeg_ver.toUInt8.toNat) :=
    (AbilityReader.item_cons_ne (by decide)).trans AbilityReader.item_cons_self
  have item_profile (reader : AbilityReader) : reader.item r.toJson "aac_profile" =
      some (createNumber r.aac_profile.toNat) :=
    (AbilityReader.item_cons_ne (by decide)).trans
      ((AbilityReader.item_cons_ne (by decide)).trans AbilityReader.item_cons_self)
  have item_format (reader : AbilityReader) : reader.item r.toJson "aac_stm_fmt" =
      some (createNumber r.aac_stm_fmt.toNat) :=
    (AbilityReader.item_cons_ne (by decide)).trans ((AbilityReader.item_cons_ne (by decide)).trans
      ((AbilityReader.item_cons_ne (by decide)).trans AbilityReader.item_cons_self))
  have read (reader : AbilityReader) : AudioEncoderOut.fromJson reader fresh r.toJson = r ↔
      (reader.isString r.toJson "mime" = true ∧ reader.valuestring r.toJson "mime" = r.mime) ∧
        r.ad_mpeg_ver.toNat ≤ 255 := by
    rw [← ofInt_byte_iff]
    unfold AudioEncoderOut.fromJson
    cases reader.isString r.toJson "mime" with
    | false =>
        have : "" ≠ r.mime := Ne.symm wf
        simp [AudioEncoderOut.ext_iff, this]
    | true =>
        have profile : UInt8.ofInt r.aac_profile.toNat = r.aac_profile :=
          FieldWidth.ofInt_toNat r.aac_profile
        have format : UInt8.ofInt r.aac_stm_fmt.toNat = r.aac_stm_fmt :=
          FieldWidth.ofInt_toNat r.aac_stm_fmt
        simp [AudioEncoderOut.ext_iff, byte_of_item (item_ver reader),
          byte_of_item (item_profile reader), byte_of_item (item_format reader), profile, format]
  have : Nonempty AbilityReader := ⟨.parser⟩
  apply (forall_congr' read).trans
  rw [forall_and, forall_const]
  exact and_congr_left' string

end Sides

section Abilities
variable {T In Out : Type}

theorem map_fromJson_iff {toJson : T → CJson} {fromJson : AbilityReader → CJson → T}
    {objs : List T} :
    (∀ reader, (objs.map toJson).map (fromJson reader) = objs) ↔
      ∀ r ∈ objs, Survives toJson fromJson r := by
  constructor
  · intro read r hr reader
    have same := (read reader).trans (List.map_id objs).symm
    rw [List.map_map] at same
    exact List.map_inj_left.mp same r hr
  · intro survives reader
    rw [List.map_map]
    apply (List.map_inj_left.mpr (fun r hr => survives r hr reader)).trans
    exact List.map_id objs

/-- Each part of an ability meets its condition. -/
structure Ability.All (nameP : String → Prop) (inP : In → Prop) (outP : Out → Prop)
    (ability : Ability In Out) : Prop where
  name : nameP ability.name
  ins : ∀ r ∈ ability.ins, inP r
  outs : ∀ r ∈ ability.outs, outP r

/-- The names are not empty, and the lists are of lengths that both readers accept. -/
structure Ability.WellFormed (inP : In → Prop) (outP : Out → Prop) (ability : Ability In Out) :
    Prop extends ability.All (· ≠ "") inP outP where
  insLength : ability.ins.length ≤ maxArrSize
  outsLength : ability.outs.length ≤ maxArrSize

/-- An ability comes back from both readers exactly where its name and its records do. -/
theorem Ability.survives_iff {inP : In → Prop} {outP : Out → Prop} {ability : Ability In Out}
    {inFits : In → Prop} {outFits : Out → Prop}
    {inToJson : In → CJson} {outToJson : Out → CJson} {inFromJson : AbilityReader → CJson → In}
    {outFromJson : AbilityReader → CJson → Out} (wf : ability.WellFormed inP outP)
    (ins : ∀ r, inP r → (Survives inToJson inFromJson r ↔ inFits r))
    (outs : ∀ r, outP r → (Survives outToJson outFromJson r ↔ outFits r)) :
    Survives (Ability.toJson inToJson outToJson)
        (fun reader => Ability.fromJson reader (inFromJson reader) (outFromJson reader)) ability ↔
      ability.All StringFits inFits outFits := by
  let json := ability.toJson inToJson outToJson
  have item_name (reader : AbilityReader) : reader.item json "name" =
      some (.string (cStr ability.name)) := AbilityReader.item_cons_self
  have name := AbilityReader.string_iff item_name wf.name
  have item_ins (reader : AbilityReader) : reader.item json "ins" =
      some (.array (ability.ins.map inToJson)) :=
    (AbilityReader.item_cons_ne (by decide)).trans AbilityReader.item_cons_self
  have item_outs (reader : AbilityReader) : reader.item json "outs" =
      some (.array (ability.outs.map outToJson)) :=
    (AbilityReader.item_cons_ne (by decide)).trans
      ((AbilityReader.item_cons_ne (by decide)).trans AbilityReader.item_cons_self)
  have insArray (reader : AbilityReader) : reader.isArray json "ins" = true :=
    AbilityReader.isArray_of_item (item_ins reader) (by simpa using wf.insLength)
  have outsArray (reader : AbilityReader) : reader.isArray json "outs" = true :=
    AbilityReader.isArray_of_item (item_outs reader) (by simpa using wf.outsLength)
  have read (reader : AbilityReader) :
      Ability.fromJson reader (inFromJson reader) (outFromJson reader) json = ability ↔
        (reader.isString json "name" = true ∧ reader.valuestring json "name" = ability.name) ∧
          (ability.ins.map inToJson).map (inFromJson reader) = ability.ins ∧
          (ability.outs.map outToJson).map (outFromJson reader) = ability.outs := by
    rw [Ability.ext_iff]
    unfold Ability.fromJson
    cases reader.isString json "name" with
    | false =>
        have : "" ≠ ability.name := wf.name.symm
        simp [this]
    | true =>
        simp [insArray, outsArray, AbilityReader.items_of_item (item_ins reader),
          AbilityReader.items_of_item (item_outs reader)]
  apply (forall_congr' read).trans
  rw [forall_and, name, forall_and, map_fromJson_iff, map_fromJson_iff]
  constructor
  · rintro ⟨hname, hins, houts⟩
    exact ⟨hname, fun r hr => (ins r (wf.ins r hr)).mp (hins r hr),
      fun r hr => (outs r (wf.outs r hr)).mp (houts r hr)⟩
  · rintro ⟨hname, hins, houts⟩
    exact ⟨hname, fun r hr => (ins r (wf.ins r hr)).mpr (hins r hr),
      fun r hr => (outs r (wf.outs r hr)).mpr (houts r hr)⟩

theorem abilitiesFromJson_iff {toJson : T → CJson} (fromJson : AbilityReader → CJson → T)
    {key : String} {objs : List T} :
    (∀ reader, abilitiesFromJson reader (fromJson reader) key
      (abilitiesToJson toJson key objs) [] = objs) ↔ ∀ r ∈ objs, Survives toJson fromJson r := by
  rw [← map_fromJson_iff]
  apply forall_congr'
  intro reader
  rw [abilitiesFromJson, abilitiesToJson, AbilityReader.item_cons_self]
  rfl

end Abilities

/-- What the querier sends: a list of one of the four abilities. -/
inductive AbilityList
  | audioEncoders (objs : List AudioEncoder)
  | audioDecoders (objs : List AudioDecoder)
  | videoEncoders (objs : List VideoEncoder)
  | videoDecoders (objs : List VideoDecoder)
  deriving DecidableEq

namespace AbilityList

/-- Encodes a list and decodes it into an empty one. -/
def transferred (fresh : AudioEncoderOut) (reader : AbilityReader) : AbilityList → AbilityList
  | .audioEncoders objs => .audioEncoders
      (abilitiesFromJson reader (AudioEncoder.fromJson reader fresh) "audioEncoders"
        (abilitiesToJson AudioEncoder.toJson "audioEncoders" objs) [])
  | .audioDecoders objs => .audioDecoders
      (abilitiesFromJson reader (AudioDecoder.fromJson reader) "audioDecoders"
        (abilitiesToJson AudioDecoder.toJson "audioDecoders" objs) [])
  | .videoEncoders objs => .videoEncoders
      (abilitiesFromJson reader (VideoEncoder.fromJson reader) "videoEncoders"
        (abilitiesToJson VideoEncoder.toJson "videoEncoders" objs) [])
  | .videoDecoders objs => .videoDecoders
      (abilitiesFromJson reader (VideoDecoder.fromJson reader) "videoDecoders"
        (abilitiesToJson VideoDecoder.toJson "videoDecoders" objs) [])

/-- Strings are not empty, and lists are of lengths that both readers accept. -/
def WellFormed : AbilityList → Prop
  | .audioEncoders objs => ∀ r ∈ objs, r.WellFormed
      (fun i => NumbersWellFormed i.mime i.sample_rate) AudioEncoderOut.WellFormed
  | .audioDecoders objs => ∀ r ∈ objs, r.WellFormed
      (fun i => NumbersWellFormed i.mime i.channel_layout)
      (fun o => NumbersWellFormed o.mime o.sample_fmt)
  | .videoEncoders objs => ∀ r ∈ objs, r.WellFormed
      (fun i => NumbersWellFormed i.mime i.pixel_fmt) VideoEncoderOut.WellFormed
  | .videoDecoders objs => ∀ r ∈ objs, r.WellFormed
      (fun i => NumbersWellFormed i.mime i.vd_bit_stream_fmt) VideoDecoderOut.WellFormed

/-- Every string and number is one that both readers give back, and no decoder names a pixel
format. -/
def Fits : AbilityList → Prop
  | .audioEncoders objs => ∀ r ∈ objs, r.All StringFits
      (fun i => NumbersFit i.mime i.sample_rate) AudioEncoderOut.Fits
  | .audioDecoders objs => ∀ r ∈ objs, r.All StringFits
      (fun i => NumbersFit i.mime i.channel_layout) (fun o => NumbersFit o.mime o.sample_fmt)
  | .videoEncoders objs => ∀ r ∈ objs, r.All StringFits
      (fun i => NumbersFit i.mime i.pixel_fmt) (fun o => StringFits o.mime)
  | .videoDecoders objs => ∀ r ∈ objs, r.All StringFits
      (fun i => NumbersFit i.mime i.vd_bit_stream_fmt) VideoDecoderOut.Fits

/-- A list of abilities comes back from both readers exactly where each of its fields fits. -/
theorem transferred_eq_iff (fresh : AudioEncoderOut) (l : AbilityList) (wf : l.WellFormed) :
    (∀ reader, l.transferred fresh reader = l) ↔ l.Fits := by
  cases l with
  | audioEncoders objs =>
      simp only [transferred, audioEncoders.injEq]
      apply (abilitiesFromJson_iff (fun reader => AudioEncoder.fromJson reader fresh)).trans
      apply forall₂_congr
      intro r hr
      exact Ability.survives_iff (wf r hr) (fun _ => AudioEncoderIn.survives_iff)
        (fun _ => AudioEncoderOut.survives_iff)
  | audioDecoders objs =>
      simp only [transferred, audioDecoders.injEq]
      apply (abilitiesFromJson_iff AudioDecoder.fromJson).trans
      apply forall₂_congr
      intro r hr
      exact Ability.survives_iff (wf r hr) (fun _ => AudioDecoderIn.survives_iff)
        (fun _ => AudioDecoderOut.survives_iff)
  | videoEncoders objs =>
      simp only [transferred, videoEncoders.injEq]
      apply (abilitiesFromJson_iff VideoEncoder.fromJson).trans
      apply forall₂_congr
      intro r hr
      exact Ability.survives_iff (wf r hr) (fun _ => VideoEncoderIn.survives_iff)
        (fun _ => VideoEncoderOut.survives_iff)
  | videoDecoders objs =>
      simp only [transferred, videoDecoders.injEq]
      apply (abilitiesFromJson_iff VideoDecoder.fromJson).trans
      apply forall₂_congr
      intro r hr
      exact Ability.survives_iff (wf r hr) (fun _ => VideoDecoderIn.survives_iff)
        (fun _ => VideoDecoderOut.survives_iff)

private def noOut : AudioEncoderOut := { ad_mpeg_ver := 0, aac_profile := 0, aac_stm_fmt := 0 }

private def aacEncoders : AbilityList :=
  .audioEncoders [{
    name := "ffmpegAuEnc_aac"
    ins := [{ mime := "audio/raw", sample_rate := [44100, 96000] }]
    outs := [{ mime := "audio/mp4a-latm", ad_mpeg_ver := 4, aac_profile := 2, aac_stm_fmt := 0 }] }]

theorem transferred_aacEncoders : aacEncoders.transferred noOut .parser = aacEncoders ∧
    aacEncoders.transferred noOut .querier = aacEncoders := by
  have wf : aacEncoders.WellFormed := by
    intro r hr
    rw [List.mem_singleton.mp hr]
    refine ⟨⟨by decide, ?_, ?_⟩, by decide, by decide⟩
    · intro i hi
      rw [List.mem_singleton.mp hi]
      exact ⟨by decide, by decide⟩
    · intro o ho
      rw [List.mem_singleton.mp ho]
      exact show _ ≠ _ by decide
  have fits : aacEncoders.Fits := by
    intro r hr
    rw [List.mem_singleton.mp hr]
    constructor
    · exact ⟨by decide +kernel, by decide⟩
    · intro i hi
      rw [List.mem_singleton.mp hi]
      exact ⟨⟨by decide +kernel, by decide⟩, by simp [NumberFits, FieldWidth.toNat]⟩
    · intro o ho
      rw [List.mem_singleton.mp ho]
      exact ⟨⟨by decide +kernel, by decide⟩, by decide⟩
  have survives := (transferred_eq_iff noOut aacEncoders wf).mpr fits
  exact ⟨survives .parser, survives .querier⟩

/-- A video decoder that puts out NV12. -/
private def avcDecoders : AbilityList :=
  .videoDecoders [{ name := "avc", ins := [], outs := [{ mime := "video/raw", pixel_fmt := [4] }] }]

/-- An audio decoder for 9.1.4 channels, two of them wide. -/
private def wideDecoders : AbilityList :=
  .audioDecoders [{
    name := "ffmpegAuDec_aac"
    ins := [{ mime := "audio/raw", channel_layout := [0x18002D63F] }]
    outs := [] }]

theorem exists_ability_lost :
    (avcDecoders.WellFormed ∧ avcDecoders.transferred noOut .parser ≠ avcDecoders) ∧
      wideDecoders.WellFormed ∧ wideDecoders.transferred noOut .querier ≠ wideDecoders := by
  refine ⟨⟨?_, by decide +kernel⟩, ?_, by decide +kernel⟩
  · intro r hr
    rw [List.mem_singleton.mp hr]
    exact ⟨⟨by decide, by simp,
      by simp [VideoDecoderOut.WellFormed, NumbersWellFormed, maxArrSize]⟩, by decide, by decide⟩
  · intro r hr
    rw [List.mem_singleton.mp hr]
    exact ⟨⟨by decide, by simp [NumbersWellFormed, maxArrSize], by simp⟩, by decide, by decide⟩

end AbilityList
end DistributedHardware
