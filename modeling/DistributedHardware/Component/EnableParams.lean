import DistributedHardware.Component.EnableAttempt
import DistributedHardware.Resource.Lookup
import DistributedHardware.Resource.PeerLogout
import DistributedHardware.Version.VersionManager

/-!
The parameters with which `ComponentManager::Enable` calls a component.

An attempt to obtain them looks up the record of the hardware and the versions, and fills
the fields of one `EnableParam` as it goes; the retries go on with what the failed attempts
have left in it. Each attempt reads the registries as it finds them. When the last retry
fails the loop is over as if it had succeeded.
-/

namespace DistributedHardware

def errDhFwkComponentGetSinkVersionFailed : Int := -10009
def errDhFwkComponentGetEnableParamFailed : Int := -10013
def errDhFwkResourceKeyIsEmpty : Int := -10410

structure EnableParam where
  sourceVersion : String := ""
  sourceAttrs : String := ""
  sinkVersion : String := ""
  sinkAttrs : String := ""
  subtype : String := ""
  deriving DecidableEq

/-- `GetLocalDeviceInfo`, as far as an attempt reads it. -/
structure SourceDevice where
  deviceId : String
  uuid : String
  udidHash : String

/-- What an attempt finds; `versions` has the online table too. -/
structure ParamRegistries where
  globalCapInfoMap : CapabilityInfoMap := ∅
  localCapInfoMap : CapabilityInfoMap := ∅
  globalMetaInfoMap : MetaCapInfoMap := ∅
  versions : VersionState := {}

/-- The arguments of `Enable`, and what is fixed while the service runs. -/
structure EnableCall where
  setting : VersionSetting
  sourceDeviceInfo : SourceDevice
  networkId : String
  uuid : String
  dhId : String
  dhType : DhType

namespace EnableCall
variable (c : EnableCall) (r : ParamRegistries)

def validIds : Bool :=
  isIdLengthValid c.networkId && isIdLengthValid c.uuid && isIdLengthValid c.dhId

/-- The attributes of the last local record of the type, if there is one. -/
def withSourceAttrs (records : List CapabilityInfo) (param : EnableParam) : EnableParam :=
  records.foldl (fun param capInfo =>
    if c.dhType = capInfo.dhType then { param with sourceAttrs := capInfo.dhAttrs }
    else param) param

/-- `ComponentManager::GetEnableCapParam`, with what it leaves in the version cache. -/
def getEnableCapParam (capability : CapabilityInfo) (param : EnableParam) :
    Int × EnableParam × VersionState :=
  if !isIdLengthValid c.networkId || !isIdLengthValid c.uuid then
    (errDhFwkParaInvalid, param, r.versions)
  else
    let param := c.withSourceAttrs
      (getCapabilitiesByDeviceId r.globalCapInfoMap c.sourceDeviceInfo.deviceId []) param
    match getVersion c.setting r.versions c.sourceDeviceInfo.uuid c.dhType false with
    | (.error _, versions) => (errDhFwkComponentGetSinkVersionFailed, param, versions)
    | (.ok sourceVersion, versions) =>
        let param := { param with sourceVersion, sinkAttrs := capability.dhAttrs }
        match getVersion c.setting versions c.uuid c.dhType true with
        | (.ok sinkVersion, versions) =>
            (dhFwkSuccess, { param with sinkVersion, subtype := capability.dhSubtype }, versions)
        | (.error _, versions) =>
            match getMetaCapInfo r.globalMetaInfoMap
              (getUdidHashIdByUuid c.uuid r.versions.devIdEntrySet) capability.dhId with
            | .ok metaCapPtr =>
                (dhFwkSuccess,
                  { param with
                    sinkVersion := metaCapPtr.sinkVersion
                    subtype := capability.dhSubtype }, versions)
            | .error _ => (errDhFwkComponentGetSinkVersionFailed, param, versions)

/-- `ComponentManager::GetEnableMetaParam`. -/
def getEnableMetaParam (versions : VersionState) (metaCapPtr : MetaCapabilityInfo)
    (param : EnableParam) : Int × EnableParam :=
  if !isIdLengthValid c.networkId || !isIdLengthValid c.uuid then (errDhFwkParaInvalid, param)
  else
    let param := c.withSourceAttrs
      ((getMetaCapInfosByUdidHash r.globalMetaInfoMap c.sourceDeviceInfo.udidHash []).map
        MetaCapabilityInfo.toCapabilityInfo) param
    match (getVersion c.setting versions c.sourceDeviceInfo.uuid c.dhType false).1 with
    | .error _ => (errDhFwkComponentGetSinkVersionFailed, param)
    | .ok sourceVersion =>
        (dhFwkSuccess,
          { param with
            sourceVersion
            sinkAttrs := metaCapPtr.dhAttrs
            sinkVersion := metaCapPtr.sinkVersion
            subtype := metaCapPtr.dhSubtype })

/-- `ComponentManager::GetCapParam`. -/
def getCapParam : Except Int CapabilityInfo :=
  if !isIdLengthValid c.uuid || !isIdLengthValid c.dhId then .error errDhFwkParaInvalid
  else
    let deviceId := getDeviceIdByUuid c.setting.sha256 c.uuid
    match getCapability r.globalCapInfoMap deviceId c.dhId with
    | .ok capability => .ok capability
    | .error _ => getCapability r.localCapInfoMap deviceId c.dhId

/-- `ComponentManager::GetMetaParam`. -/
def getMetaParam : Except Int MetaCapabilityInfo :=
  if !isIdLengthValid c.uuid || !isIdLengthValid c.dhId then .error errDhFwkParaInvalid
  else
    getMetaCapInfo r.globalMetaInfoMap (getUdidHashIdByUuid c.uuid r.versions.devIdEntrySet) c.dhId

/-- The part of `GetEnableParam` that goes by the capability; it fails where there is none. -/
def capPart (param : EnableParam) : Int × EnableParam × VersionState :=
  match c.getCapParam r with
  | .ok capability => c.getEnableCapParam r capability param
  | .error _ => (errDhFwkComponentGetEnableParamFailed, param, r.versions)

/-- The part that goes by the meta record. -/
def metaPart (versions : VersionState) (param : EnableParam) : Int × EnableParam :=
  match c.getMetaParam r with
  | .ok metaCapPtr => c.getEnableMetaParam r versions metaCapPtr param
  | .error _ => (errDhFwkComponentGetEnableParamFailed, param)

/-- `ComponentManager::GetEnableParam`. -/
def getEnableParam (param : EnableParam) : Int × EnableParam :=
  if !c.validIds then (errDhFwkComponentGetEnableParamFailed, param)
  else
    let (ret, param, versions) := c.capPart r param
    if ret = dhFwkSuccess then (ret, param)
    else
      let (ret, param) := c.metaPart r versions param
      if ret = dhFwkSuccess then (ret, param)
      else (errDhFwkComponentGetEnableParamFailed, param)

end EnableCall

/-- What the build with `DHARDWARE_CHECK_RESOURCE` checks a subtype against. -/
structure ResourceCheck where
  resourceDesc : Store String Bool
  isIdenticalAccount : Bool

/-- What a call of `Enable` meets: the registries at each attempt, the online table at each
retry, and what the component answers. -/
structure EnableRun extends EnableCall where
  hasHandler : Bool
  registries : Nat → ParamRegistries
  onlineForParam : Nat → Bool
  resourceCheck : Option ResourceCheck
  componentEnable : Nat → Int
  onlineForEnable : Nat → Bool

namespace EnableRun
variable (run : EnableRun)

/-- `ComponentManager::CheckSubtypeResource`. -/
def checkSubtypeResource (subtype : String) : Int :=
  match run.resourceCheck with
  | none => dhFwkSuccess
  | some check =>
      match check.resourceDesc.get subtype with
      | none => errDhFwkResourceKeyIsEmpty
      | some isPrivacy =>
          if isPrivacy && !check.isIdenticalAccount then errDhFwkComponentEnableFailed
          else dhFwkSuccess

/-- The loop of `ComponentManager::RetryGetEnableParam`, with the rounds that are left. -/
def retryGetEnableParam : Nat → Nat → EnableParam → Int × EnableParam
  | 0, _, param => (dhFwkSuccess, param)
  | rounds + 1, retryCount, param =>
      if !run.onlineForParam retryCount then (errDhFwkComponentEnableFailed, param)
      else
        let (ret, param) := run.getEnableParam (run.registries (retryCount + 1)) param
        if ret = dhFwkSuccess then (dhFwkSuccess, param)
        else retryGetEnableParam rounds (retryCount + 1) param

/-- The loop of `ComponentManager::Enable` after a first failure, with the calls of the
component. -/
def retryEnable (param : EnableParam) (result : Int) : Nat → Nat → Int × List EnableParam
  | 0, _ => (result, [])
  | rounds + 1, retryCount =>
      if !run.onlineForEnable retryCount then (result, [])
      else if run.componentEnable (retryCount + 1) = dhFwkSuccess then (dhFwkSuccess, [param])
      else
        let (ret, calls) := retryEnable param result rounds (retryCount + 1)
        (ret, param :: calls)

/-- `Enable` once it has its parameters. -/
def enableWith (param : EnableParam) : Int × List EnableParam :=
  let check := run.checkSubtypeResource param.subtype
  if check ≠ dhFwkSuccess then (check, [])
  else
    let result := run.componentEnable 0
    if result ≠ dhFwkSuccess then
      let (ret, calls) := run.retryEnable param result enableRetryMaxTimes 0
      (ret, param :: calls)
    else (result, [param])

/-- `ComponentManager::Enable`: its return code, and the parameters of the calls of the
component's enable. -/
def enable : Int × List EnableParam :=
  if !run.validIds then (errDhFwkParaInvalid, [])
  else if !run.hasHandler then (errDhFwkParaInvalid, [])
  else
    let (ret, param) := run.getEnableParam (run.registries 0) {}
    if ret ≠ dhFwkSuccess then
      let (retry, param) := run.retryGetEnableParam enableRetryMaxTimes 0 param
      if retry ≠ dhFwkSuccess then (ret, []) else run.enableWith param
    else run.enableWith param

end EnableRun

namespace EnableCall
variable {c : EnableCall} {r : ParamRegistries}

/-- The fields that `GetEnableParam` fills from a capability of the hardware: the versions that
`GetVersion` finds, of the sink or in place of it that of the meta record, and the attributes. -/
structure FilledFromCapability (c : EnableCall) (r : ParamRegistries) (capability : CapabilityInfo)
    (param : EnableParam) : Prop where
  found : c.getCapParam r = .ok capability
  sourceVersion : (getVersion c.setting r.versions c.sourceDeviceInfo.uuid c.dhType false).1 =
    .ok param.sourceVersion
  sinkVersion : (getVersion c.setting
      (getVersion c.setting r.versions c.sourceDeviceInfo.uuid c.dhType false).2 c.uuid c.dhType
        true).1 = .ok param.sinkVersion ∨
    ∃ metaCapPtr, getMetaCapInfo r.globalMetaInfoMap
      (getUdidHashIdByUuid c.uuid r.versions.devIdEntrySet) capability.dhId = .ok metaCapPtr ∧
        param.sinkVersion = metaCapPtr.sinkVersion
  sinkAttrs : param.sinkAttrs = capability.dhAttrs
  subtype : param.subtype = capability.dhSubtype

/-- The fields that it fills from the meta record of the hardware. -/
structure FilledFromMeta (c : EnableCall) (r : ParamRegistries) (metaCapPtr : MetaCapabilityInfo)
    (param : EnableParam) : Prop where
  found : c.getMetaParam r = .ok metaCapPtr
  sourceVersion : (getVersion c.setting (c.capPart r {}).2.2 c.sourceDeviceInfo.uuid c.dhType
    false).1 = .ok param.sourceVersion
  sinkVersion : param.sinkVersion = metaCapPtr.sinkVersion
  sinkAttrs : param.sinkAttrs = metaCapPtr.dhAttrs
  subtype : param.subtype = metaCapPtr.dhSubtype

/-- The versions and the attributes are those of the hardware. -/
def Filled (c : EnableCall) (r : ParamRegistries) (param : EnableParam) : Prop :=
  (∃ capability, FilledFromCapability c r capability param) ∨
    ∃ metaCapPtr, FilledFromMeta c r metaCapPtr param

section Obtaining
variable {param param' : EnableParam} {versions : VersionState}

theorem subtype_withSourceAttrs (records : List CapabilityInfo) :
    (c.withSourceAttrs records param).subtype = param.subtype := by
  unfold withSourceAttrs
  induction records generalizing param with
  | nil => rfl
  | cons capInfo records ih =>
      rw [List.foldl_cons, ih]
      split <;> rfl

/-- What an attempt returns does not depend on what earlier ones have left in the parameters. -/
theorem getEnableCapParam_fst (capability : CapabilityInfo) :
    (c.getEnableCapParam r capability param).1 = (c.getEnableCapParam r capability param').1 ∧
      (c.getEnableCapParam r capability param).2.2 =
        (c.getEnableCapParam r capability param').2.2 := by
  unfold getEnableCapParam
  split
  · exact ⟨rfl, rfl⟩
  · rcases getVersion c.setting r.versions c.sourceDeviceInfo.uuid c.dhType false with ⟨source, v⟩
    cases source with
    | error code => exact ⟨rfl, rfl⟩
    | ok sourceVersion =>
        dsimp only
        rcases getVersion c.setting v c.uuid c.dhType true with ⟨sink, v'⟩
        cases sink with
        | ok sinkVersion => exact ⟨rfl, rfl⟩
        | error code =>
            dsimp only
            cases getMetaCapInfo r.globalMetaInfoMap
              (getUdidHashIdByUuid c.uuid r.versions.devIdEntrySet) capability.dhId with
            | ok metaCapPtr => exact ⟨rfl, rfl⟩
            | error code => exact ⟨rfl, rfl⟩

variable (param param') in
theorem capPart_fst : (c.capPart r param).1 = (c.capPart r param').1 ∧
    (c.capPart r param).2.2 = (c.capPart r param').2.2 := by
  unfold capPart
  cases c.getCapParam r with
  | ok capability => exact getEnableCapParam_fst capability
  | error code => exact ⟨rfl, rfl⟩

variable (param param') in
theorem metaPart_fst :
    (c.metaPart r versions param).1 = (c.metaPart r versions param').1 := by
  unfold metaPart
  cases c.getMetaParam r with
  | error code => rfl
  | ok metaCapPtr =>
      dsimp only
      unfold getEnableMetaParam
      split
      · rfl
      · dsimp only
        cases (getVersion c.setting versions c.sourceDeviceInfo.uuid c.dhType false).1 <;> rfl

theorem getEnableParam_eq : c.getEnableParam r param =
    let cap := c.capPart r param
    let viaMeta := c.metaPart r cap.2.2 cap.2.1
    if !c.validIds then (errDhFwkComponentGetEnableParamFailed, param)
    else if cap.1 = dhFwkSuccess then (dhFwkSuccess, cap.2.1)
    else if viaMeta.1 = dhFwkSuccess then (dhFwkSuccess, viaMeta.2)
    else (errDhFwkComponentGetEnableParamFailed, viaMeta.2) := by
  unfold getEnableParam
  rcases c.capPart r param with ⟨ret, param, versions⟩
  dsimp only
  rcases c.metaPart r versions param with ⟨ret', param'⟩
  dsimp only
  split
  · rfl
  split
  · next success => rw [success]
  split
  · next success => rw [success]
  · rfl

theorem getEnableParam_fst : (c.getEnableParam r param).1 = (c.getEnableParam r param').1 := by
  obtain ⟨sameRet, sameVersions⟩ : (c.capPart r param).1 = (c.capPart r param').1 ∧
    (c.capPart r param).2.2 = (c.capPart r param').2.2 := capPart_fst param param'
  rw [getEnableParam_eq, getEnableParam_eq]
  dsimp only
  rw [sameRet, sameVersions, metaPart_fst (c.capPart r param).2.1 (c.capPart r param').2.1]
  split
  · rfl
  split
  · rfl
  split <;> rfl

theorem enableCodes_ne : errDhFwkParaInvalid ≠ dhFwkSuccess ∧
    errDhFwkComponentGetSinkVersionFailed ≠ dhFwkSuccess ∧
    errDhFwkComponentGetEnableParamFailed ≠ dhFwkSuccess ∧
    errDhFwkComponentEnableFailed ≠ dhFwkSuccess := by
  decide

variable (param) in
/-- The subtype is filled last. -/
theorem capPart_cases :
    ((c.capPart r param).1 ≠ dhFwkSuccess ∧ (c.capPart r param).2.1.subtype = param.subtype) ∨
      (c.capPart r param).1 = dhFwkSuccess ∧
        ∃ capability, FilledFromCapability c r capability (c.capPart r param).2.1 := by
  obtain ⟨invalid, noVersion, noRecord, -⟩ := enableCodes_ne
  unfold capPart
  cases found : c.getCapParam r with
  | error code => exact .inl ⟨noRecord, rfl⟩
  | ok capability =>
      dsimp only
      unfold getEnableCapParam
      split
      · exact .inl ⟨invalid, rfl⟩
      · cases source : getVersion c.setting r.versions c.sourceDeviceInfo.uuid c.dhType false with
        | mk answer v =>
          cases answer with
          | error code => exact .inl ⟨noVersion, subtype_withSourceAttrs _⟩
          | ok sourceVersion =>
              dsimp only
              cases sink : getVersion c.setting v c.uuid c.dhType true with
              | mk answer v' =>
                cases answer with
                | ok sinkVersion =>
                    refine .inr ⟨rfl, capability, found, ?_, .inl ?_, rfl, rfl⟩
                    · rw [source]
                    · rw [source, sink]
                | error code =>
                    dsimp only
                    cases viaMeta : getMetaCapInfo r.globalMetaInfoMap
                        (getUdidHashIdByUuid c.uuid r.versions.devIdEntrySet) capability.dhId with
                    | error code => exact .inl ⟨noVersion, subtype_withSourceAttrs _⟩
                    | ok metaCapPtr =>
                        refine .inr ⟨rfl, capability, found, ?_, .inr ⟨metaCapPtr, viaMeta, rfl⟩,
                          rfl, rfl⟩
                        rw [source]

variable (param) in
theorem metaPart_cases :
    ((c.metaPart r (c.capPart r {}).2.2 param).1 ≠ dhFwkSuccess ∧
      (c.metaPart r (c.capPart r {}).2.2 param).2.subtype = param.subtype) ∨
      (c.metaPart r (c.capPart r {}).2.2 param).1 = dhFwkSuccess ∧
        ∃ metaCapPtr,
          FilledFromMeta c r metaCapPtr (c.metaPart r (c.capPart r {}).2.2 param).2 := by
  obtain ⟨invalid, noVersion, noRecord, -⟩ := enableCodes_ne
  unfold metaPart
  cases found : c.getMetaParam r with
  | error code => exact .inl ⟨noRecord, rfl⟩
  | ok metaCapPtr =>
      dsimp only
      unfold getEnableMetaParam
      split
      · exact .inl ⟨invalid, rfl⟩
      · dsimp only
        cases source : (getVersion c.setting (c.capPart r {}).2.2 c.sourceDeviceInfo.uuid c.dhType
            false).1 with
        | error code => exact .inl ⟨noVersion, subtype_withSourceAttrs _⟩
        | ok sourceVersion => exact .inr ⟨rfl, metaCapPtr, found, source, rfl, rfl, rfl⟩

variable (c r param) in
/-- An attempt fails and leaves the subtype as it was, or it fills the parameters. -/
theorem getEnableParam_cases :
    ((c.getEnableParam r param).1 ≠ dhFwkSuccess ∧
      (c.getEnableParam r param).2.subtype = param.subtype) ∨
      (c.getEnableParam r param).1 = dhFwkSuccess ∧ Filled c r (c.getEnableParam r param).2 := by
  obtain ⟨-, -, noRecord, -⟩ := enableCodes_ne
  have versions := (capPart_fst (c := c) (r := r) param {}).2
  rw [getEnableParam_eq]
  dsimp only
  rw [versions]
  split
  · exact .inl ⟨noRecord, rfl⟩
  obtain ⟨failed, kept⟩ | ⟨success, filled⟩ := capPart_cases (c := c) (r := r) param
  · rw [if_neg failed]
    obtain ⟨failed', kept'⟩ | ⟨success, filled⟩ :=
      metaPart_cases (c := c) (r := r) (c.capPart r param).2.1
    · rw [if_neg failed']
      exact .inl ⟨noRecord, kept'.trans kept⟩
    · rw [if_pos success]
      exact .inr ⟨rfl, .inr filled⟩
  · rw [if_pos success]
    exact .inr ⟨rfl, .inl filled⟩

end Obtaining
end EnableCall

namespace EnableRun
variable {run : EnableRun}

variable (run) in
/-- The attempts to obtain the parameters, each on what the one before it has left. -/
def attempt : Nat → Int × EnableParam
  | 0 => run.getEnableParam (run.registries 0) {}
  | n + 1 => run.getEnableParam (run.registries (n + 1)) (attempt n).2

variable (run) in
/-- The parameters are obtained from the registries that an attempt finds. -/
def Obtained (n : Nat) : Prop :=
  (run.getEnableParam (run.registries n) {}).1 = dhFwkSuccess

variable (run) in
theorem attempt_fst (n : Nat) : (run.attempt n).1 = dhFwkSuccess ↔ run.Obtained n := by
  cases n with
  | zero => rfl
  | succ n =>
      rw [attempt, Obtained, EnableCall.getEnableParam_fst]

/-- The subtype stays empty while the attempts fail. -/
theorem subtype_attempt {n : Nat} (fails : ∀ m ≤ n, ¬ run.Obtained m) :
    (run.attempt n).2.subtype = "" := by
  induction n with
  | zero =>
      obtain ⟨-, kept⟩ | ⟨success, -⟩ :=
        run.toEnableCall.getEnableParam_cases (run.registries 0) {}
      · exact kept
      · exact absurd success (fails 0 (Nat.le_refl 0))
  | succ n ih =>
      have before := ih (fun m hm => fails m (Nat.le_succ_of_le hm))
      obtain ⟨-, kept⟩ | ⟨success, -⟩ :=
        run.toEnableCall.getEnableParam_cases (run.registries (n + 1)) (run.attempt n).2
      · exact kept.trans before
      · exact absurd (attempt_fst run (n + 1) |>.mp success) (fails (n + 1) (Nat.le_refl _))

variable (run) in
/-- An attempt is made when the ones before it have failed and the device was still online. -/
def Made (n : Nat) : Prop := ∀ k < n, ¬ run.Obtained k ∧ run.onlineForParam k = true

/-- How the retries end: with the parameters of an attempt, with the device offline, or with the
last round. -/
inductive RetryEnds (run : EnableRun) (rounds : Nat) : Int × EnableParam → Prop
  | obtained {n : Nat} : n < rounds → run.Made (n + 1) → run.Obtained (n + 1) →
      RetryEnds run rounds (dhFwkSuccess, (run.attempt (n + 1)).2)
  | offline {n : Nat} {param : EnableParam} : n < rounds → run.onlineForParam n = false →
      RetryEnds run rounds (errDhFwkComponentEnableFailed, param)
  | spent : run.Made rounds → ¬ run.Obtained rounds →
      RetryEnds run rounds (dhFwkSuccess, (run.attempt rounds).2)

theorem retryEnds (rounds retryCount : Nat) (made : run.Made retryCount)
    (failed : ¬ run.Obtained retryCount) :
    RetryEnds run (retryCount + rounds)
      (run.retryGetEnableParam rounds retryCount (run.attempt retryCount).2) := by
  induction rounds generalizing retryCount with
  | zero => exact .spent made failed
  | succ rounds ih =>
      have step := attempt_fst run (retryCount + 1)
      rw [retryGetEnableParam, ← attempt]
      cases online : run.onlineForParam retryCount with
      | false => exact .offline (Nat.lt_add_of_pos_right (Nat.succ_pos rounds)) online
      | true =>
          have made' : run.Made (retryCount + 1) := by
            intro k hk
            obtain earlier | rfl := Nat.lt_succ_iff_lt_or_eq.mp hk
            · exact made k earlier
            · exact ⟨failed, online⟩
          by_cases obtained : run.Obtained (retryCount + 1)
          · have success := step.mpr obtained
            simp only [Bool.not_true, Bool.false_eq_true, if_false, success, if_true]
            exact .obtained (Nat.lt_add_of_pos_right (Nat.succ_pos rounds)) made' obtained
          · have failure := step.not.mpr obtained
            simp only [Bool.not_true, Bool.false_eq_true, if_false, failure]
            rw [Nat.add_succ, ← Nat.succ_add]
            exact ih (retryCount + 1) made' obtained

/-- How a call of `Enable` goes on: it returns an error before it calls the component, or it does
so with the parameters of an attempt that obtained them, or with those of the last one. -/
inductive Proceeds (run : EnableRun) : Int × List EnableParam → Prop
  | refused {ret : Int} : ret ≠ dhFwkSuccess →
      (run.validIds = true → run.hasHandler = true →
        ∃ n < enableRetryMaxTimes, run.onlineForParam n = false) → Proceeds run (ret, [])
  | obtained {n : Nat} : n ≤ enableRetryMaxTimes → run.Made n → run.Obtained n →
      Proceeds run (run.enableWith (run.attempt n).2)
  | unobtained : run.validIds = true → run.hasHandler = true → run.Made enableRetryMaxTimes →
      ¬ run.Obtained enableRetryMaxTimes →
      Proceeds run (run.enableWith (run.attempt enableRetryMaxTimes).2)

theorem proceeds (run : EnableRun) : Proceeds run run.enable := by
  obtain ⟨invalid, -, -, offline⟩ := EnableCall.enableCodes_ne
  have first := attempt_fst run 0
  have noneBefore : run.Made 0 := fun k hk => absurd hk (Nat.not_lt_zero k)
  unfold enable
  rw [← attempt]
  split
  · next unfit => exact .refused invalid (fun valid => by simp [valid] at unfit)
  · next valid =>
    split
    · next unfit => exact .refused invalid (fun _ handler => by simp [handler] at unfit)
    · next handler =>
      dsimp only
      by_cases obtained : run.Obtained 0
      · rw [if_neg (not_not.mpr (first.mpr obtained))]
        exact .obtained (Nat.zero_le _) noneBefore obtained
      · have failed := first.not.mpr obtained
        rw [if_pos failed]
        have ends := retryEnds enableRetryMaxTimes 0 noneBefore obtained
        rw [Nat.zero_add] at ends
        generalize run.retryGetEnableParam enableRetryMaxTimes 0 (run.attempt 0).2 = out at ends
        cases ends with
        | obtained hn made later =>
            rw [if_neg (not_not.mpr rfl)]
            exact .obtained hn made later
        | @offline n _ hn off =>
            rw [if_pos offline]
            exact .refused failed (fun _ _ => ⟨n, hn, off⟩)
        | spent made last =>
            rw [if_neg (not_not.mpr rfl)]
            exact .unobtained (by simpa using valid) (by simpa using handler) made last

theorem calls_retryEnable {param : EnableParam} {result : Int} (rounds retryCount : Nat) :
    ∀ p ∈ (run.retryEnable param result rounds retryCount).2, p = param := by
  induction rounds generalizing retryCount with
  | zero => simp [retryEnable]
  | succ rounds ih =>
      unfold retryEnable
      split
      · simp
      split
      · simp
      · simpa using ih (retryCount + 1)

/-- The component is called, with these parameters only, where their subtype passes. -/
theorem enableWith_cases (param : EnableParam) :
    (run.checkSubtypeResource param.subtype ≠ dhFwkSuccess ∧
      (run.enableWith param).1 ≠ dhFwkSuccess ∧ (run.enableWith param).2 = []) ∨
      run.checkSubtypeResource param.subtype = dhFwkSuccess ∧ param ∈ (run.enableWith param).2 ∧
        ∀ p ∈ (run.enableWith param).2, p = param := by
  unfold enableWith
  dsimp only
  split
  · next refused => exact .inl ⟨refused, refused, rfl⟩
  · next passed =>
    refine .inr ⟨not_not.mp passed, ?_⟩
    split
    · exact ⟨List.mem_cons_self, List.forall_mem_cons.mpr ⟨rfl, calls_retryEnable _ _⟩⟩
    · exact ⟨List.mem_cons_self, by simp⟩

variable (run) in
/-- The component is called only with parameters that an attempt has filled for the hardware;
where no attempt that is made obtains them, the call fails and the component is not called. -/
structure OnlyFilled : Prop where
  filled : ∀ param ∈ run.enable.2, ∃ n ≤ enableRetryMaxTimes, run.Made n ∧ run.Obtained n ∧
    param = (run.attempt n).2 ∧ EnableCall.Filled run.toEnableCall (run.registries n) param
  unobtained : (∀ n ≤ enableRetryMaxTimes, run.Made n → ¬ run.Obtained n) →
    run.enable.1 ≠ dhFwkSuccess ∧ run.enable.2 = []

variable (run) in
/-- The ids are valid and the type has a handler, no registries give the parameters, the device
stays online, and the empty subtype passes as a resource. -/
structure GoesOnUnfilled : Prop where
  validIds : run.validIds = true
  hasHandler : run.hasHandler = true
  unobtained : ∀ n ≤ enableRetryMaxTimes, ¬ run.Obtained n
  online : ∀ k < enableRetryMaxTimes, run.onlineForParam k = true
  passes : run.checkSubtypeResource "" = dhFwkSuccess

theorem filled_attempt {n : Nat} (obtained : run.Obtained n) :
    EnableCall.Filled run.toEnableCall (run.registries n) (run.attempt n).2 := by
  have success := (attempt_fst run n).mpr obtained
  cases n with
  | zero =>
      obtain ⟨failed, -⟩ | ⟨-, filled⟩ :=
        run.toEnableCall.getEnableParam_cases (run.registries 0) {}
      · exact absurd success failed
      · exact filled
  | succ n =>
      obtain ⟨failed, -⟩ | ⟨-, filled⟩ :=
        run.toEnableCall.getEnableParam_cases (run.registries (n + 1)) (run.attempt n).2
      · exact absurd success failed
      · exact filled

/-- The last attempt and those before it have failed. -/
theorem not_obtained_of_made {n : Nat} (made : run.Made n) (last : ¬ run.Obtained n) :
    ∀ m ≤ n, ¬ run.Obtained m := by
  intro m hm
  obtain earlier | rfl := Nat.lt_or_eq_of_le hm
  · exact (made m earlier).1
  · exact last

theorem goesOn (valid : run.validIds = true) (handler : run.hasHandler = true)
    (made : run.Made enableRetryMaxTimes) (last : ¬ run.Obtained enableRetryMaxTimes)
    (passes : run.checkSubtypeResource (run.attempt enableRetryMaxTimes).2.subtype =
      dhFwkSuccess) : run.GoesOnUnfilled where
  validIds := valid
  hasHandler := handler
  unobtained := not_obtained_of_made made last
  online := fun k hk => (made k hk).2
  passes := by rwa [subtype_attempt (not_obtained_of_made made last)] at passes

section NoRecord

/-- The registries never get a record of the hardware; the device stays online, the subtype is not
checked, and the component enables whatever it is given. -/
private def noRecord : EnableRun where
  setting := { sha256 := fun _ => "d", parse := fun _ => none }
  sourceDeviceInfo := { deviceId := "l", uuid := "lu", udidHash := "lh" }
  networkId := "n"
  uuid := "u"
  dhId := "h"
  dhType := DhType.camera
  hasHandler := true
  registries := fun _ => {}
  onlineForParam := fun _ => true
  resourceCheck := none
  componentEnable := fun _ => dhFwkSuccess
  onlineForEnable := fun _ => true

end NoRecord

end EnableRun
end DistributedHardware
