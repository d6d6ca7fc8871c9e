import Mathlib.Logic.Function.Basic
import DistributedHardware.Common.Ids

/-!
The two filters of the transport engine, `AVInputFilter` and `AVOutputFilter`: how they
find, configure and prepare their plugin.

What a plugin does is an argument here. The pipeline around the filter, the plugin manager
and the softbus adapter answer as they like.
-/

namespace DistributedHardware

inductive MediaType
  | audio | video | other
  deriving DecidableEq

/-- An `Any`, by the types the filters ask for. -/
inductive AnyValue
  | string (s : String)
  | mediaType (mediaType : MediaType)
  | other
  deriving DecidableEq

inductive Tag
  | mime | mediaType | mediaDescription
  | userSharedMemoryFd | userTimeSyncResult | userAvSyncGroupInfo
  | audioChannels | audioSampleRate | audioChannelLayout
  | sectionUserSpecificStart | sectionVideoSpecificStart
  | other (tag : Nat)
  deriving DecidableEq

/-- The values of a tag. Where the code takes the type of a tag for granted it is that type:
`AnyCast` does not return from another one. -/
abbrev Tag.Value : Tag → Type
  | .mediaDescription | .userSharedMemoryFd | .userTimeSyncResult | .userAvSyncGroupInfo => String
  | .audioChannels | .audioSampleRate | .audioChannelLayout => Int
  | .sectionUserSpecificStart | .sectionVideoSpecificStart => Bool
  | _ => AnyValue

/-- A map from tags to their values. -/
abbrev ParamsMap := (tag : Tag) → Option tag.Value

namespace ParamsMap

/-- `paramsMap_[tag] = value`. -/
def set (params : ParamsMap) (tag : Tag) (value : tag.Value) : ParamsMap :=
  Function.update params tag (some value)

/-- `paramsMap_.insert`, which keeps an old value. -/
def insert (params : ParamsMap) (tag : Tag) (value : tag.Value) : ParamsMap :=
  if (params tag).isSome then params else params.set tag value

@[simp] theorem set_self (params : ParamsMap) (tag : Tag) (value : tag.Value) :
    params.set tag value tag = some value :=
  Function.update_self ..

theorem set_of_ne {params : ParamsMap} {tag other : Tag} {value : tag.Value} (h : other ≠ tag) :
    params.set tag value other = params other :=
  Function.update_of_ne h ..

end ParamsMap

inductive Status
  | ok | errorWrongState | errorInvalidOperation | errorNullPointer | errorUnknown
  deriving DecidableEq

inductive ErrorCode
  | success | errorInvalidState | errorNullPointer | errorInvalidOperation
  | errorInvalidParameterValue | errorUnsupportedFormat
  | translated (status : Status)
  deriving DecidableEq

/-- `TranslatePluginStatus`. Other statuses than `OK` become codes other than `SUCCESS`. -/
def translatePluginStatus : Status → ErrorCode
  | .ok => .success
  | status => .translated status

inductive FilterState
  | initialized | preparing | ready | running | paused
  deriving DecidableEq

inductive PluginState
  | created | initialized | prepared | running
  deriving DecidableEq

/-- What the softbus adapter answers to a plugin that prepares. -/
structure AdapterAnswers where
  registers : Bool := true
  serves : Bool := true

/-- A plugin that the plugin manager lists under the filter's mime type. -/
structure Candidate where
  name : String
  negotiates : Bool := true
  creates : Bool := true

/-- What the surroundings answer to a filter that prepares. -/
structure PrepareAnswers where
  candidates : List Candidate
  mergesMeta : Bool := true
  configuresDownStream : Bool := true
  adapter : AdapterAnswers := {}

/-- The plugins a filter drives, as the functions that it calls. -/
structure PluginClass (P : Type) where
  create : String → P
  init : P → Status × P
  prepare : AdapterAnswers → P → Status × P
  reset : P → Status × P
  setParameter : (tag : Tag) → tag.Value → P → Status × P

structure TransFilter (P : Type) where
  state : FilterState := .initialized
  plugin : Option P := none
  pluginInfo : Option String := none
  paramsMap : ParamsMap := fun _ => none

/-- A part of a filter's work: its result, and the filter after it. -/
abbrev FilterStep (P : Type) := TransFilter P → ErrorCode × TransFilter P

/-- Goes on where the first part succeeded. -/
def FilterStep.andThen {P : Type} (first next : FilterStep P) : FilterStep P := fun f =>
  if (first f).1 = .success then next (first f).2 else first f

namespace TransFilter
variable {P : Type} (cls : PluginClass P)

/-- `SetParameter` with a valid key. -/
def setParameter (tag : Tag) (value : tag.Value) : FilterStep P := fun f =>
  (.success, { f with
    plugin := f.plugin.map (fun p => (cls.setParameter tag value p).2)
    paramsMap := f.paramsMap.set tag value })

/-- The old plugin has been deinitialized, and goes. -/
def createNewPlugin (c : Candidate) : FilterStep P := fun f =>
  if c.creates then
    (.success, { f with plugin := some (cls.create c.name), pluginInfo := some c.name })
  else (.errorInvalidParameterValue, { f with plugin := none })

def createPlugin (c : Candidate) : FilterStep P := fun f =>
  if c.name = "" then (.errorInvalidParameterValue, f)
  else
    match f.plugin, f.pluginInfo with
    | some p, some name =>
        if c.name = name ∧ (cls.reset p).1 = .ok then
          (.success, { f with plugin := some (cls.reset p).2 })
        else createNewPlugin cls c f
    | _, _ => createNewPlugin cls c f

/-- The loop of `FindPlugin`. -/
def tryPlugins : List Candidate → FilterStep P
  | [], f => (.errorUnsupportedFormat, f)
  | c :: candidates, f =>
      if c.negotiates then
        if (createPlugin cls c f).1 = .success then createPlugin cls c f
        else tryPlugins candidates (createPlugin cls c f).2
      else tryPlugins candidates f

/-- `FindPlugin`: the mime type has to be set, to a string. -/
def findPlugin (candidates : List Candidate) : FilterStep P := fun f =>
  match f.paramsMap .mime with
  | some (.string _) => tryPlugins cls candidates f
  | _ => (.errorInvalidParameterValue, f)

def initPlugin : FilterStep P := fun f =>
  match f.plugin with
  | none => (.errorInvalidParameterValue, f)
  | some p => (translatePluginStatus (cls.init p).1, { f with plugin := some (cls.init p).2 })

/-- One of the tags that `SetPluginParams` forwards. -/
def forward (params : ParamsMap) (p : P) (tag : Tag) : P :=
  match params tag with
  | some value => (cls.setParameter tag value p).2
  | none => p

/-- `SetPluginParams`, and the callbacks, which every plugin takes. -/
def configPlugin (forwarded : List Tag) : FilterStep P := fun f =>
  match f.plugin with
  | none => (.errorNullPointer, f)
  | some p =>
      (.success, { f with plugin := some (forwarded.foldl (forward cls f.paramsMap) p) })

def preparePlugin (adapter : AdapterAnswers) : FilterStep P := fun f =>
  match f.plugin with
  | none => (.errorNullPointer, f)
  | some p =>
      (translatePluginStatus (cls.prepare adapter p).1,
        { f with plugin := some (cls.prepare adapter p).2 })

/-- `Prepare` around its parts. -/
def prepareBy (parts : FilterStep P) : FilterStep P := fun f =>
  if f.state ≠ .initialized then (.errorInvalidState, f)
  else
    let r := parts { f with state := .preparing }
    (r.1, { r.2 with state := if r.1 = .success then .ready else .initialized })

end TransFilter

namespace AVInputFilter
variable {P : Type} (cls : PluginClass P)
open TransFilter

def forwarded : List Tag :=
  [.mediaDescription, .sectionUserSpecificStart, .sectionVideoSpecificStart]

/-- `MergeMeta`, `ConfigMeta` and `ConfigDownStream`, which leave the plugin alone. -/
def configMeta (answers : PrepareAnswers) : FilterStep P := fun f =>
  match f.paramsMap .mediaType with
  | some (.mediaType _) =>
      if answers.mergesMeta && answers.configuresDownStream then (.success, f)
      else (.errorInvalidOperation, f)
  | _ => (.errorInvalidOperation, f)

/-- Whichever part of it fails, `DoConfigure` fails with one code. -/
def doConfigure (answers : PrepareAnswers) : FilterStep P := fun f =>
  let r := (((configMeta answers).andThen (initPlugin cls)).andThen
    (configPlugin cls forwarded)) f
  if r.1 = .success then r else (.errorInvalidOperation, r.2)

def prepare (answers : PrepareAnswers) : FilterStep P :=
  prepareBy (((findPlugin cls answers.candidates).andThen (doConfigure cls answers)).andThen
    (preparePlugin cls answers.adapter))

end AVInputFilter

namespace AVOutputFilter
variable {P : Type} (cls : PluginClass P)
open TransFilter

def forwarded : List Tag :=
  [.mediaDescription, .audioChannels, .audioSampleRate, .audioChannelLayout,
    .sectionUserSpecificStart, .sectionVideoSpecificStart]

/-- This filter does not negotiate. -/
def prepare (answers : PrepareAnswers) : FilterStep P :=
  prepareBy ((((findPlugin cls (answers.candidates.map ({ · with negotiates := true }))).andThen
    (initPlugin cls)).andThen (configPlugin cls forwarded)).andThen
    (preparePlugin cls answers.adapter))

end AVOutputFilter

/-- What holds of a new plugin, and what the functions of its class keep. -/
structure PluginClass.Preserves {P : Type} (cls : PluginClass P) (Q : P → Prop) : Prop where
  create : ∀ name, Q (cls.create name)
  init : ∀ p, Q p → Q (cls.init p).2
  prepare : ∀ adapter p, Q p → Q (cls.prepare adapter p).2
  reset : ∀ p, Q p → Q (cls.reset p).2
  setParameter : ∀ tag value p, Q p → Q (cls.setParameter tag value p).2

/-- The parameters of the filter are these, and its plugin, where it has one, is such. -/
structure TransFilter.Holds {P : Type} (params : ParamsMap) (Q : P → Prop) (f : TransFilter P) :
    Prop where
  paramsMap : f.paramsMap = params
  plugin : ∀ p ∈ f.plugin, Q p

def FilterStep.Keeps {P : Type} (params : ParamsMap) (Q : P → Prop) (step : FilterStep P) : Prop :=
  ∀ f, f.Holds params Q → (step f).2.Holds params Q

section Keeps
variable {P : Type} {cls : PluginClass P} {params : ParamsMap} {Q : P → Prop}

theorem FilterStep.Keeps.andThen {first next : FilterStep P} (hfirst : first.Keeps params Q)
    (hnext : next.Keeps params Q) : (first.andThen next).Keeps params Q := by
  intro f holds
  unfold FilterStep.andThen
  split
  · exact hnext _ (hfirst f holds)
  · exact hfirst f holds

namespace TransFilter

theorem keeps_createPlugin (preserves : cls.Preserves Q) (c : Candidate) :
    (createPlugin cls c).Keeps params Q := by
  have new : (createNewPlugin cls c).Keeps params Q := by
    intro f holds
    unfold createNewPlugin
    split
    · exact ⟨holds.paramsMap, fun p hp => Option.some.inj hp ▸ preserves.create c.name⟩
    · exact ⟨holds.paramsMap, by simp⟩
  intro f holds
  unfold createPlugin
  split
  · exact holds
  · split
    · rename_i old _ hold _
      split
      · exact ⟨holds.paramsMap, fun p hp =>
          Option.some.inj hp ▸ preserves.reset old (holds.plugin old hold)⟩
      · exact new f holds
    · exact new f holds

theorem keeps_tryPlugins (preserves : cls.Preserves Q) (candidates : List Candidate) :
    (tryPlugins cls candidates).Keeps params Q := by
  induction candidates with
  | nil => exact fun f holds => holds
  | cons c candidates ih =>
      intro f holds
      have created := keeps_createPlugin preserves c f holds
      unfold tryPlugins
      split
      · split
        · exact created
        · exact ih _ created
      · exact ih f holds

theorem keeps_findPlugin (preserves : cls.Preserves Q) (candidates : List Candidate) :
    (findPlugin cls candidates).Keeps params Q := by
  intro f holds
  unfold findPlugin
  split
  · exact keeps_tryPlugins preserves candidates f holds
  · exact holds

theorem keeps_initPlugin (preserves : cls.Preserves Q) : (initPlugin cls).Keeps params Q := by
  intro f holds
  unfold initPlugin
  split
  · exact holds
  · rename_i old hold
    exact ⟨holds.paramsMap, fun p hp =>
      Option.some.inj hp ▸ preserves.init old (holds.plugin old hold)⟩

theorem forward_preserves (preserves : cls.Preserves Q) (forwarded : List Tag) {p : P} (h : Q p) :
    Q (forwarded.foldl (forward cls params) p) := by
  induction forwarded generalizing p with
  | nil => exact h
  | cons tag forwarded ih =>
      apply ih
      unfold forward
      split
      · exact preserves.setParameter tag _ p h
      · exact h

theorem keeps_configPlugin (preserves : cls.Preserves Q) (forwarded : List Tag) :
    (configPlugin cls forwarded).Keeps params Q := by
  intro f holds
  unfold configPlugin
  split
  · exact holds
  · rename_i old hold
    exact ⟨holds.paramsMap, fun p hp =>
      Option.some.inj hp ▸ forward_preserves preserves forwarded (holds.plugin old hold)⟩

theorem keeps_preparePlugin (preserves : cls.Preserves Q) (adapter : AdapterAnswers) :
    (preparePlugin cls adapter).Keeps params Q := by
  intro f holds
  unfold preparePlugin
  split
  · exact holds
  · rename_i old hold
    exact ⟨holds.paramsMap, fun p hp =>
      Option.some.inj hp ▸ preserves.prepare adapter old (holds.plugin old hold)⟩

theorem keeps_prepareBy {parts : FilterStep P} (keeps : parts.Keeps params Q) :
    (prepareBy parts).Keeps params Q := by
  intro f holds
  unfold prepareBy
  split
  · exact holds
  · have after := keeps { f with state := .preparing } ⟨holds.paramsMap, holds.plugin⟩
    exact ⟨after.paramsMap, after.plugin⟩

/-- `Prepare` ends in one of two states, by its result, unless it does nothing. -/
theorem prepareBy_state (parts : FilterStep P) (f : TransFilter P) :
    prepareBy parts f = (.errorInvalidState, f) ∨ f.state = .initialized ∧
      (prepareBy parts f).2.state =
        if (prepareBy parts f).1 = .success then .ready else .initialized := by
  unfold prepareBy
  split
  · exact .inl rfl
  · rename_i initialized
    exact .inr ⟨not_not.mp initialized, rfl⟩

end TransFilter

open TransFilter

theorem AVInputFilter.keeps_prepare (preserves : cls.Preserves Q) (answers : PrepareAnswers) :
    (AVInputFilter.prepare cls answers).Keeps params Q := by
  have config : (AVInputFilter.configMeta (P := P) answers).Keeps params Q := by
    intro f holds
    unfold AVInputFilter.configMeta
    split
    · split <;> exact holds
    · exact holds
  have configure : (AVInputFilter.doConfigure cls answers).Keeps params Q := by
    intro f holds
    have after := ((config.andThen (keeps_initPlugin preserves)).andThen
      (keeps_configPlugin preserves AVInputFilter.forwarded)) f holds
    unfold AVInputFilter.doConfigure
    dsimp only
    split <;> exact after
  exact keeps_prepareBy (((keeps_findPlugin preserves _).andThen configure).andThen
    (keeps_preparePlugin preserves _))

variable (cls) in
theorem AVInputFilter.prepare_state (answers : PrepareAnswers) (f : TransFilter P) :
    AVInputFilter.prepare cls answers f = (.errorInvalidState, f) ∨ f.state = .initialized ∧
      (AVInputFilter.prepare cls answers f).2.state =
        if (AVInputFilter.prepare cls answers f).1 = .success then .ready else .initialized :=
  prepareBy_state _ f

theorem AVOutputFilter.keeps_prepare (preserves : cls.Preserves Q) (answers : PrepareAnswers) :
    (AVOutputFilter.prepare cls answers).Keeps params Q :=
  keeps_prepareBy ((((keeps_findPlugin preserves _).andThen (keeps_initPlugin preserves)).andThen
    (keeps_configPlugin preserves _)).andThen (keeps_preparePlugin preserves _))

variable (cls) in
theorem AVOutputFilter.prepare_state (answers : PrepareAnswers) (f : TransFilter P) :
    AVOutputFilter.prepare cls answers f = (.errorInvalidState, f) ∨ f.state = .initialized ∧
      (AVOutputFilter.prepare cls answers f).2.state =
        if (AVOutputFilter.prepare cls answers f).1 = .success then .ready else .initialized :=
  prepareBy_state _ f

end Keeps
/-- The plugin that a filter goes on with: its own, if it is the first that negotiates, and
otherwise the first of these that can be made. -/
def TransFilter.chosen {P : Type} (cls : PluginClass P) (f : TransFilter P)
    (candidates : List Candidate) : Option P :=
  let usable := candidates.filter (fun c => c.negotiates && c.name != "")
  let new := (usable.find? (·.creates)).map (fun c => cls.create c.name)
  match f.plugin, usable.head? with
  | some p, some c => if f.pluginInfo = some c.name then some (cls.reset p).2 else new
  | _, _ => new

section Success
variable {P : Type} {cls : PluginClass P}
open TransFilter

theorem FilterStep.andThen_assoc (first second third : FilterStep P) :
    (first.andThen second).andThen third = first.andThen (second.andThen third) := by
  funext f
  unfold FilterStep.andThen
  by_cases h : (first f).1 = .success
  · simp only [h, if_true]
  · simp only [h, if_false]

theorem FilterStep.andThen_success {first next : FilterStep P} {f : TransFilter P}
    (h : (first.andThen next f).1 = .success) :
    (first f).1 = .success ∧ (next (first f).2).1 = .success ∧
      first.andThen next f = next (first f).2 := by
  unfold FilterStep.andThen at h ⊢
  split at h
  · rename_i done
    exact ⟨done, h, by rw [if_pos done]⟩
  · rename_i failed
    exact absurd h failed

namespace TransFilter

/-- The plugin at hand is the one that the candidate names. -/
def Reuses (f : TransFilter P) (c : Candidate) : Prop :=
  f.plugin.isSome = true ∧ f.pluginInfo = some c.name

theorem chosen_skip {c : Candidate} {candidates : List Candidate} {f : TransFilter P}
    (skipped : c.negotiates = false ∨ c.name = "") :
    f.chosen cls (c :: candidates) = f.chosen cls candidates := by
  have unusable : (c.negotiates && c.name != "") = false := by
    cases skipped with
    | inl unnegotiated => simp [unnegotiated]
    | inr unnamed => simp [unnamed]
  simp [chosen, unusable]

theorem chosen_of_usable {c : Candidate} {candidates : List Candidate} {f : TransFilter P}
    (negotiates : c.negotiates = true) (named : c.name ≠ "") :
    (∀ p, f.plugin = some p → f.pluginInfo = some c.name →
      f.chosen cls (c :: candidates) = some (cls.reset p).2) ∧
    (¬ f.Reuses c → f.chosen cls (c :: candidates) =
      if c.creates then some (cls.create c.name)
      else ({ f with plugin := none }).chosen cls candidates) := by
  have usable : (c.negotiates && c.name != "") = true := by simp [negotiates, named]
  constructor
  · intro p hp info
    simp [chosen, usable, hp, info]
  · intro new
    cases hp : f.plugin with
    | none => cases creates : c.creates <;> simp [chosen, usable, hp, creates]
    | some p =>
        have info : f.pluginInfo ≠ some c.name := fun info => new ⟨by simp [hp], info⟩
        cases creates : c.creates <;> simp [chosen, usable, hp, info, creates]

theorem createPlugin_of_named (resets : ∀ p, (cls.reset p).1 = .ok) {c : Candidate}
    {f : TransFilter P} (named : c.name ≠ "") :
    (∀ p, f.plugin = some p → f.pluginInfo = some c.name →
      createPlugin cls c f = (.success, { f with plugin := some (cls.reset p).2 })) ∧
    (¬ f.Reuses c → createPlugin cls c f = createNewPlugin cls c f) := by
  constructor
  · intro p hp info
    simp [createPlugin, named, hp, info, resets]
  · intro new
    unfold createPlugin
    split
    · rename_i unnamed
      exact absurd unnamed named
    · split
      · rename_i p name hp info
        have other : c.name ≠ name := fun same => new ⟨by simp [hp], by simp [info, same]⟩
        simp [other]
      · rfl

theorem tryPlugins_chosen (resets : ∀ p, (cls.reset p).1 = .ok) {candidates : List Candidate}
    {f : TransFilter P} (h : (tryPlugins cls candidates f).1 = .success) :
    (tryPlugins cls candidates f).2.plugin = f.chosen cls candidates := by
  induction candidates generalizing f with
  | nil => simp [tryPlugins] at h
  | cons c candidates ih =>
      unfold tryPlugins at h ⊢
      by_cases negotiates : c.negotiates = true
      · rw [if_pos negotiates] at h ⊢
        by_cases named : c.name = ""
        · have refused : createPlugin cls c f = (.errorInvalidParameterValue, f) := if_pos named
          rw [chosen_skip (.inr named)]
          simp only [refused, reduceCtorEq, if_false] at h ⊢
          exact ih h
        · by_cases reuses : f.Reuses c
          · obtain ⟨p, hp⟩ := Option.isSome_iff_exists.mp reuses.1
            rw [(createPlugin_of_named resets named).1 p hp reuses.2,
              (chosen_of_usable negotiates named).1 p hp reuses.2]
            rfl
          · rw [(createPlugin_of_named resets named).2 reuses] at h ⊢
            rw [(chosen_of_usable negotiates named).2 reuses]
            cases creates : c.creates with
            | true => simp [createNewPlugin, creates]
            | false =>
                simp only [createNewPlugin, creates, Bool.false_eq_true, if_false,
                  reduceCtorEq] at h ⊢
                exact ih h
      · rw [if_neg negotiates] at h ⊢
        rw [chosen_skip (.inl (by simpa using negotiates))]
        exact ih h

theorem findPlugin_chosen (resets : ∀ p, (cls.reset p).1 = .ok) {candidates : List Candidate}
    {f : TransFilter P} (h : (findPlugin cls candidates f).1 = .success) :
    (findPlugin cls candidates f).2.plugin = f.chosen cls candidates := by
  unfold findPlugin at h ⊢
  split at h
  · exact tryPlugins_chosen resets h
  · cases h

theorem preserves_true : cls.Preserves (fun _ => True) where
  create := fun _ => trivial
  init := fun _ _ => trivial
  prepare := fun _ _ _ => trivial
  reset := fun _ _ => trivial
  setParameter := fun _ _ _ _ => trivial

theorem findPlugin_paramsMap (candidates : List Candidate) (f : TransFilter P) :
    (findPlugin cls candidates f).2.paramsMap = f.paramsMap :=
  (keeps_findPlugin preserves_true candidates f ⟨rfl, fun _ _ => trivial⟩).paramsMap

theorem initPlugin_success {f : TransFilter P} (h : (initPlugin cls f).1 = .success) :
    ∃ p, f.plugin = some p ∧
      (initPlugin cls f).2 = { f with plugin := some (cls.init p).2 } := by
  unfold initPlugin at h ⊢
  cases hp : f.plugin with
  | none => simp [hp] at h
  | some p => exact ⟨p, rfl, rfl⟩

theorem configPlugin_success {forwarded : List Tag} {f : TransFilter P}
    (h : (configPlugin cls forwarded f).1 = .success) :
    ∃ p, f.plugin = some p ∧ (configPlugin cls forwarded f).2 =
      { f with plugin := some (forwarded.foldl (forward cls f.paramsMap) p) } := by
  unfold configPlugin at h ⊢
  cases hp : f.plugin with
  | none => simp [hp] at h
  | some p => exact ⟨p, rfl, rfl⟩

theorem preparePlugin_success {adapter : AdapterAnswers} {f : TransFilter P}
    (h : (preparePlugin cls adapter f).1 = .success) :
    ∃ p, f.plugin = some p ∧ (cls.prepare adapter p).1 = .ok ∧
      (preparePlugin cls adapter f).2.plugin = some (cls.prepare adapter p).2 := by
  unfold preparePlugin at h ⊢
  cases hp : f.plugin with
  | none => simp [hp] at h
  | some p =>
      refine ⟨p, rfl, ?_, rfl⟩
      simp only [hp] at h
      cases status : (cls.prepare adapter p).1 with
      | ok => rfl
      | _ => simp [status, translatePluginStatus] at h

/-- The plugin after its initialization and configuration. -/
def configured (cls : PluginClass P) (forwarded : List Tag) (params : ParamsMap) (p : P) : P :=
  forwarded.foldl (forward cls params) (cls.init p).2

/-- The plugin that has been chosen has been initialized, configured and prepared. -/
def Readied (cls : PluginClass P) (forwarded : List Tag) (answers : PrepareAnswers)
    (f g : TransFilter P) : Prop :=
  ∃ p, f.chosen cls answers.candidates = some p ∧
    (cls.prepare answers.adapter (configured cls forwarded f.paramsMap p)).1 = .ok ∧
    g.plugin = some (cls.prepare answers.adapter (configured cls forwarded f.paramsMap p)).2

/-- `Prepare` whose middle part initializes and configures. -/
theorem prepareBy_readied (resets : ∀ p, (cls.reset p).1 = .ok) {answers : PrepareAnswers}
    {forwarded : List Tag} {middle : FilterStep P} {f : TransFilter P}
    (configures : ∀ g, (middle g).1 = .success → ∃ p, g.plugin = some p ∧
      (middle g).2.plugin = some (configured cls forwarded g.paramsMap p))
    (h : (prepareBy (((findPlugin cls answers.candidates).andThen middle).andThen
      (preparePlugin cls answers.adapter)) f).1 = .success) :
    Readied cls forwarded answers f
      (prepareBy (((findPlugin cls answers.candidates).andThen middle).andThen
        (preparePlugin cls answers.adapter)) f).2 := by
  unfold prepareBy at h ⊢
  split at h
  · cases h
  · rename_i initialized
    rw [if_neg initialized]
    obtain ⟨before, prepares, hprepare⟩ := FilterStep.andThen_success h
    obtain ⟨finds, configured, hmiddle⟩ := FilterStep.andThen_success before
    rw [hmiddle] at prepares hprepare
    obtain ⟨p, hp, hconfigured⟩ := configures _ configured
    obtain ⟨q, hq, ok, hprepared⟩ := preparePlugin_success prepares
    rw [hconfigured, findPlugin_paramsMap] at hq
    cases hq
    refine ⟨p, (findPlugin_chosen resets finds).symm.trans hp, ok, ?_⟩
    exact (congrArg (·.2.plugin) hprepare).trans hprepared

theorem init_config_success {forwarded : List Tag} {f : TransFilter P}
    (h : (((initPlugin cls).andThen (configPlugin cls forwarded)) f).1 = .success) :
    ∃ p, f.plugin = some p ∧
      (((initPlugin cls).andThen (configPlugin cls forwarded)) f).2.plugin =
        some (configured cls forwarded f.paramsMap p) := by
  obtain ⟨inits, configures, hconfig⟩ := FilterStep.andThen_success h
  obtain ⟨p, hp, hinit⟩ := initPlugin_success inits
  obtain ⟨q, hq, hconfigured⟩ := configPlugin_success configures
  rw [hinit] at hq hconfigured
  cases hq
  exact ⟨p, hp, by rw [hconfig, hinit, hconfigured]; rfl⟩

end TransFilter

theorem AVInputFilter.prepare_readied (resets : ∀ p, (cls.reset p).1 = .ok)
    {answers : PrepareAnswers} {f : TransFilter P}
    (h : (AVInputFilter.prepare cls answers f).1 = .success) :
    Readied cls AVInputFilter.forwarded answers f (AVInputFilter.prepare cls answers f).2 := by
  apply prepareBy_readied resets _ h
  intro g configures
  unfold AVInputFilter.doConfigure at configures ⊢
  dsimp only at configures ⊢
  split at configures
  · rename_i done
    rw [if_pos done]
    rw [FilterStep.andThen_assoc] at done ⊢
    obtain ⟨_, configures, heq⟩ := FilterStep.andThen_success done
    have same : (configMeta answers g).2 = g := by
      unfold AVInputFilter.configMeta
      split
      · split <;> rfl
      · rfl
    rw [same] at configures heq
    rw [heq]
    exact init_config_success configures
  · cases configures

theorem AVOutputFilter.prepare_readied (resets : ∀ p, (cls.reset p).1 = .ok)
    {answers : PrepareAnswers} {f : TransFilter P}
    (h : (AVOutputFilter.prepare cls answers f).1 = .success) :
    Readied cls AVOutputFilter.forwarded
      { answers with candidates := answers.candidates.map ({ · with negotiates := true }) } f
      (AVOutputFilter.prepare cls answers f).2 := by
  unfold AVOutputFilter.prepare at h ⊢
  rw [FilterStep.andThen_assoc (findPlugin _ _)] at h ⊢
  exact prepareBy_readied resets (fun _ => init_config_success) h

end Success
end DistributedHardware
