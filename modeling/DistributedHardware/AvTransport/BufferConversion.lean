import DistributedHardware.AvTransport.BufferMeta
import DistributedHardware.AvTransport.DecimalText

/-!
The conversions between the buffers of the engines and those of the HiStreamer.

The items of a buffer's metadata are texts under tags, all read into one variable: what an
absent item leaves in it is the text before. `atoi` is undefined beyond an `int`, so what
it returns there is an argument, `overflow`.
-/

namespace DistributedHardware

/-- The tags the conversions read and write. -/
inductive MetaTag
  | bufferDataType
  | audioSampleFormat | audioSampleRate
  | videoPixelFormat | videoWidth | videoHeight | preTimestamp
  deriving DecidableEq

inductive MetaType
  | audio | video
  deriving DecidableEq

/-- `BufferMeta` of the engines. -/
structure TransBufferMeta where
  type : MetaType
  tagMap : MetaTag → Option String := fun _ => none

namespace TransBufferMeta

/-- What `GetMetaItem` leaves in its argument. -/
def getMetaItem (tag : MetaTag) (value : String) (bufferMeta : TransBufferMeta) : String :=
  (bufferMeta.tagMap tag).getD value

def setMetaItem (tag : MetaTag) (value : String) (bufferMeta : TransBufferMeta) :
    TransBufferMeta :=
  { bufferMeta with
    tagMap := fun other => if other = tag then some value else bufferMeta.tagMap other }

end TransBufferMeta

structure BufferData where
  address : Nat
  capacity : Nat
  size : Nat
  deriving DecidableEq

structure AVTransBuffer where
  data : List BufferData := []
  bufferMeta : TransBufferMeta

inductive HiSBufferMeta
  | audio (hisAMeta : AVTransAudioBufferMeta)
  | video (hisVMeta : AVTransVideoBufferMeta)
  deriving DecidableEq

/-- The HiStreamer's buffer: the memories it wraps, its timestamp, where one is set, and its
metadata. -/
structure AVBuffer where
  data : List BufferData
  pts : Option Int64
  bufferMeta : HiSBufferMeta

def bufferMaxCapacity : Nat := 104857600

section Conversion
variable (overflow : String → Int)

/-- `static_cast<uint32_t>(std::atoi(value.c_str()))`. -/
def atoiUInt32 (value : String) : UInt32 :=
  let n := atoi (cStr value)
  UInt32.ofInt (if -2147483648 ≤ n ∧ n ≤ 2147483647 then n else overflow value)

/-- `Convert2HiSBufferMeta`, with the timestamp it gives to the buffer. -/
def convert2HiSBufferMeta (transMeta : TransBufferMeta) :
    Except StollException (Option Int64 × HiSBufferMeta) :=
  match transMeta.type with
  | .audio =>
      let value := transMeta.getMetaItem .bufferDataType ""
      let dataType := atoiUInt32 overflow value
      let value := transMeta.getMetaItem .audioSampleFormat value
      let format := atoiUInt32 overflow value
      let value := transMeta.getMetaItem .audioSampleRate value
      let sampleRate := atoiUInt32 overflow value
      .ok (none, .audio { dataType, format := format.toUInt8, sampleRate })
  | .video =>
      let value := transMeta.getMetaItem .bufferDataType ""
      let dataType := atoiUInt32 overflow value
      let value := transMeta.getMetaItem .videoPixelFormat value
      let format := atoiUInt32 overflow value
      let value := transMeta.getMetaItem .videoWidth value
      let width := atoiUInt32 overflow value
      let value := transMeta.getMetaItem .videoHeight value
      let height := atoiUInt32 overflow value
      let value := transMeta.getMetaItem .preTimestamp value
      (stoll (cStr value)).map (fun pts =>
        (some pts, .video { dataType, format, width, height, pts }))

/-- `TransBuffer2HiSBuffer` of a buffer that is there; none is the null pointer. -/
def transBuffer2HiSBuffer (transBuffer : AVTransBuffer) :
    Except StollException (Option AVBuffer) :=
  match transBuffer.data with
  | [] => .ok none
  | data :: _ =>
      (convert2HiSBufferMeta overflow transBuffer.bufferMeta).map (fun converted =>
        some { data := [data], pts := converted.1, bufferMeta := converted.2 })

end Conversion

def convert2TransBufferMeta : HiSBufferMeta → TransBufferMeta
  | .audio hisAMeta =>
      let transAMeta : TransBufferMeta := { type := .audio }
      let transAMeta := transAMeta.setMetaItem .bufferDataType (toString hisAMeta.dataType.toNat)
      let transAMeta := transAMeta.setMetaItem .audioSampleFormat (toString hisAMeta.format.toNat)
      transAMeta.setMetaItem .audioSampleRate (toString hisAMeta.sampleRate.toNat)
  | .video hisVMeta =>
      let transVMeta : TransBufferMeta := { type := .video }
      let transVMeta := transVMeta.setMetaItem .bufferDataType (toString hisVMeta.dataType.toNat)
      let transVMeta := transVMeta.setMetaItem .videoPixelFormat (toString hisVMeta.format.toNat)
      let transVMeta := transVMeta.setMetaItem .videoWidth (toString hisVMeta.width.toNat)
      let transVMeta := transVMeta.setMetaItem .videoHeight (toString hisVMeta.height.toNat)
      transVMeta.setMetaItem .preTimestamp (toString hisVMeta.pts.toInt)

/-- `HiSBuffer2TransBuffer`: memory over the bound is not wrapped. -/
def hiSBuffer2TransBuffer (hisBuffer : AVBuffer) : Option AVTransBuffer :=
  match hisBuffer.data with
  | [] => none
  | memory :: _ => some {
      data := if bufferMaxCapacity < memory.capacity then [] else [memory]
      bufferMeta := convert2TransBufferMeta hisBuffer.bufferMeta }

/-- The items of a medium that are present, as numbers. -/
inductive MediaItems
  | audio (dataType sampleFormat sampleRate : Option UInt32)
  | video (dataType pixelFormat width height : Option UInt32) (preTimestamp : Option Int64)

namespace MediaItems

/-- The present items are the decimal forms of these numbers. -/
def Holds : MediaItems → TransBufferMeta → Prop
  | audio dataType sampleFormat sampleRate, bufferMeta =>
      bufferMeta.type = .audio ∧
      bufferMeta.tagMap .bufferDataType = dataType.map (fun n => toString n.toNat) ∧
      bufferMeta.tagMap .audioSampleFormat = sampleFormat.map (fun n => toString n.toNat) ∧
      bufferMeta.tagMap .audioSampleRate = sampleRate.map (fun n => toString n.toNat)
  | video dataType pixelFormat width height preTimestamp, bufferMeta =>
      bufferMeta.type = .video ∧
      bufferMeta.tagMap .bufferDataType = dataType.map (fun n => toString n.toNat) ∧
      bufferMeta.tagMap .videoPixelFormat = pixelFormat.map (fun n => toString n.toNat) ∧
      bufferMeta.tagMap .videoWidth = width.map (fun n => toString n.toNat) ∧
      bufferMeta.tagMap .videoHeight = height.map (fun n => toString n.toNat) ∧
      bufferMeta.tagMap .preTimestamp = preTimestamp.map (fun n => toString n.toInt)

/-- Each field from its own item, and its default where there is none. -/
def hisMeta : MediaItems → HiSBufferMeta
  | audio dataType sampleFormat sampleRate => .audio {
      dataType := dataType.getD BufferDataType.audio
      format := (sampleFormat.map UInt32.toUInt8).getD AudioSampleFormat.s8
      sampleRate := sampleRate.getD 0 }
  | video dataType pixelFormat width height preTimestamp => .video {
      dataType := dataType.getD BufferDataType.videoStream
      format := pixelFormat.getD VideoPixelFormat.unknown
      width := width.getD 0
      height := height.getD 0
      pts := preTimestamp.getD 0 }

def tags : MediaItems → List MetaTag
  | audio .. => [.bufferDataType, .audioSampleFormat, .audioSampleRate]
  | video .. => [.bufferDataType, .videoPixelFormat, .videoWidth, .videoHeight, .preTimestamp]

end MediaItems

/-- The conversion does not throw and keeps the fields apart, and the way back carries the items
that were present. -/
def KeepsApart (overflow : String → Int) (items : MediaItems) (b : AVTransBuffer) : Prop :=
  ∃ hisBuffer, transBuffer2HiSBuffer overflow b = .ok (some hisBuffer) ∧
    hisBuffer.bufferMeta = items.hisMeta ∧
    ∃ back, hiSBuffer2TransBuffer hisBuffer = some back ∧
      ∀ tag ∈ items.tags, ∀ text, b.bufferMeta.tagMap tag = some text →
        back.bufferMeta.tagMap tag = some text

/-- A number that `atoi` can return. -/
def FitsInt (n : UInt32) : Prop := n.toNat ≤ 2147483647

instance (n : UInt32) : Decidable (FitsInt n) := inferInstanceAs (Decidable (_ ≤ _))

/-- When the fields are kept apart: the numbers fit, and what an absent item finds in the variable
happens to be its default. -/
def MediaItems.Fits : MediaItems → Prop
  | .audio dataType sampleFormat sampleRate =>
      (∀ n ∈ dataType, FitsInt n) ∧ (∀ n ∈ sampleFormat, n.toNat ≤ 255) ∧
      (∀ n ∈ sampleRate, FitsInt n) ∧
      (sampleFormat = none → ∃ n ∈ dataType, n.toUInt8 = AudioSampleFormat.s8) ∧
      (sampleRate = none → sampleFormat = some 0)
  | .video dataType pixelFormat width height preTimestamp =>
      (∃ n ∈ dataType, FitsInt n) ∧ (∀ n ∈ pixelFormat, FitsInt n) ∧
      (∀ n ∈ width, FitsInt n) ∧ (∀ n ∈ height, FitsInt n) ∧
      (pixelFormat = none → dataType = some 0) ∧
      (width = none → pixelFormat.or dataType = some 0) ∧
      (height = none → width.or (pixelFormat.or dataType) = some 0) ∧
      (preTimestamp = none → height.or (width.or (pixelFormat.or dataType)) = some 0)

/-- The decimal form of the item that was read last, where one was. -/
def carriedText (carried : Option UInt32) : String :=
  (carried.map (fun n => toString n.toNat)).getD ""

/-- What the variable holds at each field is read as the field's own item, or its default, and
the audio format is printed as it was. -/
def MediaItems.ReadsOwn (overflow : String → Int) : MediaItems → Prop
  | .audio dataType sampleFormat sampleRate =>
      atoiUInt32 overflow (carriedText dataType) = dataType.getD BufferDataType.audio ∧
      (atoiUInt32 overflow (carriedText (sampleFormat.or dataType))).toUInt8 =
        (sampleFormat.map UInt32.toUInt8).getD AudioSampleFormat.s8 ∧
      atoiUInt32 overflow (carriedText (sampleRate.or (sampleFormat.or dataType))) =
        sampleRate.getD 0 ∧
      ∀ n ∈ sampleFormat, n.toUInt8.toNat = n.toNat
  | .video dataType pixelFormat width height preTimestamp =>
      atoiUInt32 overflow (carriedText dataType) = dataType.getD BufferDataType.videoStream ∧
      atoiUInt32 overflow (carriedText (pixelFormat.or dataType)) =
        pixelFormat.getD VideoPixelFormat.unknown ∧
      atoiUInt32 overflow (carriedText (width.or (pixelFormat.or dataType))) = width.getD 0 ∧
      atoiUInt32 overflow (carriedText (height.or (width.or (pixelFormat.or dataType)))) =
        height.getD 0 ∧
      stoll (cStr ((preTimestamp.map (fun n => toString n.toInt)).getD
        (carriedText (height.or (width.or (pixelFormat.or dataType)))))) =
          .ok (preTimestamp.getD 0)

theorem ofInt_toNat (n : UInt32) : UInt32.ofInt (n.toNat : Int) = n := by
  have small := n.toNat_lt
  apply UInt32.toNat_inj.mp
  unfold UInt32.ofInt
  rw [UInt32.toNat_ofNat']
  omega

section Carried
variable {overflow : String → Int} {carried item before : Option UInt32} {n : UInt32}

theorem getD_empty : (item.map (fun n => toString n.toNat)).getD "" = carriedText item := rfl

theorem getD_carriedText :
    (item.map (fun n => toString n.toNat)).getD (carriedText before) =
      carriedText (item.or before) := by
  cases item <;> rfl

theorem fitsInt_of_narrow (narrow : n.toNat ≤ 255) : FitsInt n := Nat.le_trans narrow (by decide)

theorem atoiUInt32_toString : atoiUInt32 overflow (toString n.toNat) =
    if FitsInt n then n else UInt32.ofInt (overflow (toString n.toNat)) := by
  have number := number_toString n.toNat
  rw [toString_natCast] at number
  unfold atoiUInt32
  rw [number.1, number.2.2]
  by_cases fits : FitsInt n
  · have small : n.toNat ≤ 2147483647 := fits
    dsimp only
    rw [if_pos fits, if_pos (by omega)]
    exact ofInt_toNat n
  · have large : ¬ n.toNat ≤ 2147483647 := fits
    dsimp only
    rw [if_neg fits, if_neg (by omega)]

/-- Of a number that does not fit, no result is sure. -/
theorem fitsInt_of_forall (h : ∀ overflow, atoiUInt32 overflow (toString n.toNat) = n) :
    FitsInt n := by
  by_contra large
  have zero := h (fun _ => 0)
  have one := h (fun _ => 1)
  rw [atoiUInt32_toString, if_neg large] at zero one
  exact absurd (zero.trans one.symm) (by decide)

theorem atoiUInt32_carried (fits : ∀ n ∈ carried, FitsInt n) :
    atoiUInt32 overflow (carriedText carried) = carried.getD 0 := by
  cases carried with
  | none => rfl
  | some n => exact atoiUInt32_toString.trans (if_pos (fits n rfl))

/-- A field is its own item's, or the default: a present item must fit, and an absent one finds
the default in the variable. -/
theorem ownItem_iff {default : UInt32} (fits : ∀ n ∈ before, FitsInt n) :
    (∀ overflow, atoiUInt32 overflow (carriedText (item.or before)) = item.getD default) ↔
      (∀ n ∈ item, FitsInt n) ∧ (item = none → before.getD 0 = default) := by
  cases item with
  | none =>
      constructor
      · intro h
        refine ⟨fun n mem => (by cases mem), fun _ => ?_⟩
        exact (atoiUInt32_carried fits).symm.trans (h (fun _ => 0))
      · intro h overflow
        exact (atoiUInt32_carried fits).trans (h.2 rfl)
  | some n =>
      constructor
      · intro h
        refine ⟨fun m mem => ?_, fun absent => (by cases absent)⟩
        cases mem
        exact fitsInt_of_forall h
      · intro h overflow
        exact atoiUInt32_toString.trans (if_pos (h.1 n rfl))

/-- The first item finds the empty text. -/
theorem firstItem_iff {default : UInt32} :
    (∀ overflow, atoiUInt32 overflow (carriedText item) = item.getD default) ↔
      (∀ n ∈ item, FitsInt n) ∧ (item = none → 0 = default) := by
  have first : (∀ overflow, atoiUInt32 overflow (carriedText (item.or none)) =
      item.getD default) ↔ _ := ownItem_iff (fun _ mem => by cases mem)
  rwa [Option.or_none] at first

theorem or_fits (hitem : ∀ n ∈ item, FitsInt n) (hbefore : ∀ n ∈ before, FitsInt n) :
    ∀ n ∈ item.or before, FitsInt n := by
  cases item with
  | none => exact hbefore
  | some n => exact hitem

theorem eq_some_zero_iff (present : before.isSome = true) :
    before.getD 0 = 0 ↔ before = some 0 := by
  cases before with
  | none => cases present
  | some n => exact Option.some_inj.symm

/-- The items after the first whose default is zero. -/
theorem laterItem_iff (fits : ∀ n ∈ before, FitsInt n) (present : before.isSome = true) :
    (∀ overflow, atoiUInt32 overflow (carriedText (item.or before)) = item.getD 0) ↔
      (∀ n ∈ item, FitsInt n) ∧ (item = none → before = some 0) := by
  rw [ownItem_iff fits, eq_some_zero_iff present]

theorem or_isSome (present : before.isSome = true) : (item.or before).isSome = true := by
  rw [Option.isSome_or, present, Bool.or_true]

theorem stoll_carried :
    stoll (cStr (carriedText (some n))) = .ok (Int64.ofInt n.toNat) := by
  have small := n.toNat_lt
  have lower : Int64.minValue.toInt = -9223372036854775808 := by decide
  have upper : Int64.maxValue.toInt = 9223372036854775807 := by decide
  change stoll (cStr (toString n.toNat)) = _
  rw [← toString_natCast]
  exact stoll_toString (by omega) (by omega)

theorem stoll_carried_iff (present : before.isSome = true) :
    stoll (cStr (carriedText before)) = .ok 0 ↔ before = some 0 := by
  cases before with
  | none => cases present
  | some n =>
      rw [stoll_carried, Except.ok.injEq, Option.some_inj]
      constructor
      · intro h
        have small := n.toNat_lt
        have value := congrArg Int64.toInt h
        rw [Int64.toInt_ofInt_of_le (by omega) (by omega)] at value
        apply UInt32.toNat_inj.mp
        exact Int.ofNat.inj value
      · rintro rfl
        rfl

theorem stollItem_iff {item : Option Int64} (present : before.isSome = true) :
    stoll (cStr ((item.map (fun n => toString n.toInt)).getD (carriedText before))) =
      .ok (item.getD 0) ↔ (item = none → before = some 0) := by
  cases item with
  | none =>
      rw [← stoll_carried_iff present]
      exact ⟨fun h _ => h, fun h => h rfl⟩
  | some n =>
      refine iff_of_true ?_ (fun absent => (by cases absent))
      exact (stoll_toString n.minValue_le_toInt n.toInt_le).trans
        (congrArg Except.ok n.ofInt_toInt)

end Carried

section Fields
variable {overflow : String → Int} {b : AVTransBuffer} {items : MediaItems}

theorem keepsApart_of_ok {pts : Option Int64} {hisMeta : HiSBufferMeta} (nonempty : b.data ≠ [])
    (converted : convert2HiSBufferMeta overflow b.bufferMeta = .ok (pts, hisMeta)) :
    KeepsApart overflow items b ↔ hisMeta = items.hisMeta ∧
      ∀ tag ∈ items.tags, ∀ text, b.bufferMeta.tagMap tag = some text →
        (convert2TransBufferMeta hisMeta).tagMap tag = some text := by
  obtain ⟨memory, rest, hasData⟩ := List.exists_cons_of_ne_nil nonempty
  have result : transBuffer2HiSBuffer overflow b =
      .ok (some { data := [memory], pts, bufferMeta := hisMeta }) := by
    unfold transBuffer2HiSBuffer
    rw [hasData, converted]
    rfl
  constructor
  · intro ⟨hisBuffer, same, own, back, returned, carried⟩
    cases result.symm.trans same
    cases returned
    exact ⟨own, carried⟩
  · intro ⟨own, carried⟩
    exact ⟨_, result, own, _, rfl, carried⟩

theorem not_keepsApart_of_error {e : StollException} (nonempty : b.data ≠ [])
    (thrown : convert2HiSBufferMeta overflow b.bufferMeta = .error e) :
    ¬ KeepsApart overflow items b := by
  obtain ⟨memory, rest, hasData⟩ := List.exists_cons_of_ne_nil nonempty
  intro ⟨hisBuffer, same, _⟩
  unfold transBuffer2HiSBuffer at same
  rw [hasData, thrown] at same
  cases same

/-- The way back prints the item that was present. -/
theorem printed_of_item {item : Option UInt32} {default : UInt32} {found : Option String}
    (has : found = item.map (fun n => toString n.toNat)) (text : String)
    (present : found = some text) : some (toString (item.getD default).toNat) = some text := by
  cases item with
  | none => cases has.symm.trans present
  | some n => exact has.symm.trans present

section Audio
variable {dataType sampleFormat sampleRate : Option UInt32}

theorem convert_audio
    (holds : (MediaItems.audio dataType sampleFormat sampleRate).Holds b.bufferMeta) :
    convert2HiSBufferMeta overflow b.bufferMeta = .ok (none, .audio {
      dataType := atoiUInt32 overflow (carriedText dataType)
      format := (atoiUInt32 overflow (carriedText (sampleFormat.or dataType))).toUInt8
      sampleRate :=
        atoiUInt32 overflow (carriedText (sampleRate.or (sampleFormat.or dataType))) }) := by
  obtain ⟨type, hasType, hasFormat, hasRate⟩ := holds
  unfold convert2HiSBufferMeta
  simp only [type, TransBufferMeta.getMetaItem, hasType, hasFormat, hasRate, getD_empty,
    getD_carriedText]

theorem keepsApart_audio_iff
    (holds : (MediaItems.audio dataType sampleFormat sampleRate).Holds b.bufferMeta)
    (nonempty : b.data ≠ []) :
    KeepsApart overflow (.audio dataType sampleFormat sampleRate) b ↔
      (MediaItems.audio dataType sampleFormat sampleRate).ReadsOwn overflow := by
  rw [keepsApart_of_ok nonempty (convert_audio holds)]
  obtain ⟨-, hasType, hasFormat, hasRate⟩ := holds
  simp only [MediaItems.hisMeta, HiSBufferMeta.audio.injEq, AVTransAudioBufferMeta.mk.injEq,
    true_and]
  constructor
  · intro ⟨⟨rate, type, format⟩, carried⟩
    refine ⟨type, format, rate, fun n mem => ?_⟩
    cases mem
    have back := carried .audioSampleFormat (by simp [MediaItems.tags]) _ hasFormat
    rw [format] at back
    exact toString_toNat_inj (Option.some.inj back)
  · intro ⟨type, format, rate, narrow⟩
    refine ⟨⟨rate, type, format⟩, ?_⟩
    rw [type, format, rate]
    simp only [MediaItems.tags, List.forall_mem_cons]
    refine ⟨printed_of_item hasType, ?_, printed_of_item hasRate,
      fun _ none_left => (by cases none_left)⟩
    intro text present
    rw [hasFormat] at present
    cases sampleFormat with
    | none => cases present
    | some n =>
        have wide : n.toUInt8.toNat = n.toNat := narrow n rfl
        cases present
        exact congrArg (fun m => some (toString m)) wide

theorem audio_fits_iff :
    (∀ overflow, (MediaItems.audio dataType sampleFormat sampleRate).ReadsOwn overflow) ↔
      (MediaItems.audio dataType sampleFormat sampleRate).Fits := by
  constructor
  · intro h
    have typeFits := (firstItem_iff.mp (fun overflow => (h overflow).1)).1
    have narrow : ∀ n ∈ sampleFormat, n.toNat ≤ 255 := by
      intro n mem
      have wide := (h (fun _ => 0)).2.2.2 n mem
      have := n.toUInt8.toNat_lt
      omega
    have formatFits := or_fits (fun n mem => fitsInt_of_narrow (narrow n mem)) typeFits
    have rate := (ownItem_iff formatFits).mp (fun overflow => (h overflow).2.2.1)
    have default : sampleFormat = none → ∃ n ∈ dataType, n.toUInt8 = AudioSampleFormat.s8 := by
      rintro rfl
      have format := (h (fun _ => 0)).2.1
      rw [Option.none_or, atoiUInt32_carried typeFits] at format
      cases dataType with
      | none => exact absurd format (by decide)
      | some n => exact ⟨n, rfl, format⟩
    refine ⟨typeFits, narrow, rate.1, default, fun absent => ?_⟩
    have zero := rate.2 absent
    cases sampleFormat with
    | some n => exact congrArg some zero
    | none =>
        obtain ⟨n, mem, s8⟩ := default rfl
        cases mem
        rw [show n = 0 from zero] at s8
        exact absurd s8 (by decide)
  · intro ⟨typeFits, narrow, rateFits, default, rate⟩ overflow
    have formatFits := or_fits (fun n mem => fitsInt_of_narrow (narrow n mem)) typeFits
    refine ⟨firstItem_iff.mpr ⟨typeFits, fun _ => rfl⟩ overflow, ?_, ?_, ?_⟩
    · rw [atoiUInt32_carried formatFits]
      cases sampleFormat with
      | some n => rfl
      | none =>
          obtain ⟨n, mem, s8⟩ := default rfl
          cases mem
          exact s8
    · exact (ownItem_iff formatFits).mpr
        ⟨rateFits, fun absent => by rw [rate absent]; rfl⟩ overflow
    · intro n mem
      have := narrow n mem
      rw [UInt32.toNat_toUInt8]
      omega

end Audio
section Video
variable {dataType pixelFormat width height : Option UInt32} {preTimestamp : Option Int64}

theorem convert_video
    (holds : (MediaItems.video dataType pixelFormat width height preTimestamp).Holds b.bufferMeta) :
    convert2HiSBufferMeta overflow b.bufferMeta =
      (stoll (cStr ((preTimestamp.map (fun n => toString n.toInt)).getD
        (carriedText (height.or (width.or (pixelFormat.or dataType))))))).map (fun pts =>
          (some pts, .video {
            dataType := atoiUInt32 overflow (carriedText dataType)
            format := atoiUInt32 overflow (carriedText (pixelFormat.or dataType))
            width := atoiUInt32 overflow (carriedText (width.or (pixelFormat.or dataType)))
            height := atoiUInt32 overflow
              (carriedText (height.or (width.or (pixelFormat.or dataType))))
            pts })) := by
  obtain ⟨type, hasType, hasFormat, hasWidth, hasHeight, hasTime⟩ := holds
  unfold convert2HiSBufferMeta
  simp only [type, TransBufferMeta.getMetaItem, hasType, hasFormat, hasWidth, hasHeight, hasTime,
    getD_empty, getD_carriedText]

theorem keepsApart_video_iff
    (holds : (MediaItems.video dataType pixelFormat width height preTimestamp).Holds b.bufferMeta)
    (nonempty : b.data ≠ []) :
    KeepsApart overflow (.video dataType pixelFormat width height preTimestamp) b ↔
      (MediaItems.video dataType pixelFormat width height preTimestamp).ReadsOwn overflow := by
  have converted : convert2HiSBufferMeta overflow b.bufferMeta = _ := convert_video holds
  rw [MediaItems.ReadsOwn]
  cases read : stoll (cStr ((preTimestamp.map (fun n => toString n.toInt)).getD
      (carriedText (height.or (width.or (pixelFormat.or dataType)))))) with
  | error e =>
      rw [read] at converted
      refine iff_of_false (not_keepsApart_of_error nonempty converted) ?_
      intro ⟨_, _, _, _, thrown⟩
      cases thrown
  | ok pts =>
      rw [read] at converted
      rw [keepsApart_of_ok nonempty converted]
      obtain ⟨-, hasType, hasFormat, hasWidth, hasHeight, hasTime⟩ := holds
      simp only [MediaItems.hisMeta, HiSBufferMeta.video.injEq, AVTransVideoBufferMeta.mk.injEq,
        true_and, Except.ok.injEq]
      constructor
      · intro ⟨⟨time, wide, high, format, type⟩, carried⟩
        exact ⟨type, format, wide, high, time⟩
      · intro ⟨type, format, wide, high, time⟩
        refine ⟨⟨time, wide, high, format, type⟩, ?_⟩
        rw [type, format, wide, high, time]
        simp only [MediaItems.tags, List.forall_mem_cons]
        refine ⟨printed_of_item hasType, printed_of_item hasFormat, printed_of_item hasWidth,
          printed_of_item hasHeight, ?_, fun _ none_left => (by cases none_left)⟩
        intro text present
        cases preTimestamp with
        | none => cases hasTime.symm.trans present
        | some n => exact hasTime.symm.trans present

theorem video_fits_iff :
    (∀ overflow,
      (MediaItems.video dataType pixelFormat width height preTimestamp).ReadsOwn overflow) ↔
      (MediaItems.video dataType pixelFormat width height preTimestamp).Fits := by
  simp only [MediaItems.ReadsOwn, forall_and]
  constructor
  · intro ⟨type, format, wide, high, time⟩
    obtain ⟨typeFits, default⟩ := firstItem_iff.mp type
    cases dataType with
    | none => exact absurd (default rfl) (by decide)
    | some n =>
        have format := (laterItem_iff typeFits rfl).mp format
        have formatFits := or_fits format.1 typeFits
        have wide := (laterItem_iff formatFits (or_isSome rfl)).mp wide
        have wideFits := or_fits wide.1 formatFits
        have high := (laterItem_iff wideFits (or_isSome (or_isSome rfl))).mp high
        have time := (stollItem_iff (or_isSome (or_isSome (or_isSome rfl)))).mp (time (fun _ => 0))
        exact ⟨⟨n, rfl, typeFits n rfl⟩, format.1, wide.1, high.1, format.2, wide.2, high.2, time⟩
  · intro ⟨⟨n, mem, fits⟩, formatFits, wideFits, highFits, format, wide, high, time⟩
    cases mem
    have typeFits : ∀ m ∈ some n, FitsInt m := fun m same => (by cases same; exact fits)
    have carriedFormat := or_fits formatFits typeFits
    have carriedWide := or_fits wideFits carriedFormat
    exact ⟨firstItem_iff.mpr ⟨typeFits, fun absent => (by cases absent)⟩,
      (laterItem_iff typeFits rfl).mpr ⟨formatFits, format⟩,
      (laterItem_iff carriedFormat (or_isSome rfl)).mpr ⟨wideFits, wide⟩,
      (laterItem_iff carriedWide (or_isSome (or_isSome rfl))).mpr ⟨highFits, high⟩,
      fun _ => (stollItem_iff (or_isSome (or_isSome (or_isSome rfl)))).mpr time⟩

end Video

/-- The fields are kept apart, whatever `atoi` does with numbers beyond an `int`, where all numbers
fit and no absent item finds another's. -/
theorem keepsApart_iff (holds : items.Holds b.bufferMeta) (nonempty : b.data ≠ []) :
    (∀ overflow, KeepsApart overflow items b) ↔ items.Fits := by
  cases items with
  | audio dataType sampleFormat sampleRate =>
      simp only [keepsApart_audio_iff holds nonempty]
      exact audio_fits_iff
  | video dataType pixelFormat width height preTimestamp =>
      simp only [keepsApart_video_iff holds nonempty]
      exact video_fits_iff

private def audioBuffer : AVTransBuffer where
  data := [{ address := 4096, capacity := 8, size := 8 }]
  bufferMeta := {
    type := .audio
    tagMap := fun tag =>
      match tag with
      | .bufferDataType => some "0"
      | .audioSampleFormat => some "5"
      | .audioSampleRate => some "48000"
      | _ => none }

theorem keepsApart_audioBuffer :
    (MediaItems.audio (some 0) (some 5) (some 48000)).Holds audioBuffer.bufferMeta ∧
    ∀ overflow, KeepsApart overflow (.audio (some 0) (some 5) (some 48000)) audioBuffer := by
  have holds : (MediaItems.audio (some 0) (some 5) (some 48000)).Holds audioBuffer.bufferMeta :=
    ⟨rfl, by decide, by decide, by decide⟩
  refine ⟨holds, (keepsApart_iff holds (List.cons_ne_nil _ _)).mpr ?_⟩
  simp [MediaItems.Fits, FitsInt]

private def bareVideoBuffer : AVTransBuffer where
  data := [{ address := 4096, capacity := 8, size := 8 }]
  bufferMeta := { type := .video }

/-- Without a timestamp, and without another item to stand in for it, `std::stoll` throws. -/
theorem exists_conversion_throws :
    (MediaItems.video none none none none none).Holds bareVideoBuffer.bufferMeta ∧
    ∀ overflow, transBuffer2HiSBuffer overflow bareVideoBuffer = .error .invalidArgument ∧
      ¬ KeepsApart overflow (.video none none none none none) bareVideoBuffer := by
  refine ⟨⟨rfl, rfl, rfl, rfl, rfl, rfl⟩, fun overflow => ⟨rfl, ?_⟩⟩
  exact not_keepsApart_of_error (List.cons_ne_nil _ _) rfl

end Fields
end DistributedHardware
