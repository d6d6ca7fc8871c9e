import DistributedHardware.AvTransport.TransPlugins
import DistributedHardware.Library.Transition

/-!
What becomes of the parameters that are set on a filter.

`SetParameter` writes them into the filter's map and hands them to the plugin, if there is
one. `Prepare` hands over some tags of the map only. The settings of a plugin are what it
acts on: its channel, its shared memory, or what its controller was given.
-/

namespace DistributedHardware

/-- What a plugin acts on. -/
inductive PluginSettings
  | channel (kind : DsoftbusKind) (ownerName peerDevId sessionName : String)
  | memory (sharedMemory : AVTransSharedMemory)
  | controller (given : Option (AVTransSharedMemory × Int))

def AvTransPlugin.settings : AvTransPlugin → PluginSettings
  | .dsoftbus kind p => .channel kind p.ownerName p.peerDevId p.sessionName
  | .memory _ p => .memory p.sharedMemory
  | .dscreenOutput p => .controller (p.controller.map (fun c => (c.sharedMem, c.devClockDiff)))

namespace PluginSettings
variable (parse : String → Option CJson) (params : ParamsMap)

/-- A parameter is handed to the plugin. -/
def set : (tag : Tag) → tag.Value → PluginSettings → PluginSettings
  | .mediaDescription, descJsonStr, .channel kind ownerName peerDevId sessionName =>
      let read := parseChannelDescription parse descJsonStr ownerName peerDevId
      .channel kind read.1 read.2 sessionName
  | .userSharedMemoryFd, jsonStr, .memory _ => .memory (unmarshalSharedMemory parse jsonStr)
  | .userSharedMemoryFd, jsonStr, .controller (some (_, devClockDiff)) =>
      .controller (some (unmarshalSharedMemory parse jsonStr, devClockDiff))
  | .userTimeSyncResult, jsonStr, .controller (some (sharedMem, _)) =>
      .controller (some (sharedMem, atoi (cStr jsonStr)))
  | _, _, settings => settings

/-- The plugin is initialized, given the channel description, and prepared. -/
def prepared : PluginSettings → PluginSettings
  | .channel kind ownerName peerDevId _ =>
      let read := match params .mediaDescription with
        | some descJsonStr => parseChannelDescription parse descJsonStr ownerName peerDevId
        | none => (ownerName, peerDevId)
      .channel kind read.1 read.2 (read.1 ++ "_" ++ kind.suffix)
  | .memory sharedMemory => .memory sharedMemory
  | .controller given => .controller (some (given.getD (noSharedMemory, 0)))

/-- The plugin acts on these parameters: on each as a new plugin does that is given it. -/
def ActsOn : PluginSettings → Prop
  | .channel kind ownerName peerDevId sessionName =>
      ∀ descJsonStr, params .mediaDescription = some descJsonStr →
        (channelDescription parse descJsonStr).getD ("", "") = (ownerName, peerDevId) ∧
          sessionName = ownerName ++ "_" ++ kind.suffix
  | .memory sharedMemory =>
      ∀ jsonStr, params .userSharedMemoryFd = some jsonStr →
        sharedMemory = unmarshalSharedMemory parse jsonStr
  | .controller none => False
  | .controller (some (sharedMem, devClockDiff)) =>
      (∀ jsonStr, params .userSharedMemoryFd = some jsonStr →
        sharedMem = unmarshalSharedMemory parse jsonStr) ∧
      ∀ jsonStr, params .userTimeSyncResult = some jsonStr → devClockDiff = atoi (cStr jsonStr)

/-- A plugin with these settings can be prepared with the parameters: what it is not given,
or cannot read, is what it has. -/
def Accepts : PluginSettings → Prop
  | .channel _ ownerName peerDevId _ =>
      ∀ descJsonStr, params .mediaDescription = some descJsonStr →
        channelDescription parse descJsonStr = none → ownerName = "" ∧ peerDevId = ""
  | .memory sharedMemory =>
      ∀ jsonStr, params .userSharedMemoryFd = some jsonStr →
        sharedMemory = unmarshalSharedMemory parse jsonStr
  | .controller given =>
      (∀ jsonStr, params .userSharedMemoryFd = some jsonStr →
        (given.getD (noSharedMemory, 0)).1 = unmarshalSharedMemory parse jsonStr) ∧
      ∀ jsonStr, params .userTimeSyncResult = some jsonStr →
        (given.getD (noSharedMemory, 0)).2 = atoi (cStr jsonStr)

/-- A plugin that is prepared can be given the parameter: a channel description has the owner
that the session was named for, and what it cannot read it has not read before. -/
def Allows : (tag : Tag) → tag.Value → PluginSettings → Prop
  | .mediaDescription, descJsonStr, .channel kind ownerName peerDevId sessionName =>
      match channelDescription parse descJsonStr with
      | some (newOwner, _) => sessionName = newOwner ++ "_" ++ kind.suffix
      | none => ownerName = "" ∧ peerDevId = "" ∧ sessionName = "_" ++ kind.suffix
  | _, _, _ => True

variable {parse params}

theorem set_of_other (s : PluginSettings) {tag : Tag} (value : tag.Value)
    (other : tag ≠ .mediaDescription ∧ tag ≠ .userSharedMemoryFd ∧ tag ≠ .userTimeSyncResult) :
    s.set parse tag value = s := by
  cases tag with
  | mediaDescription => exact absurd rfl other.1
  | userSharedMemoryFd => exact absurd rfl other.2.1
  | userTimeSyncResult => exact absurd rfl other.2.2
  | _ => cases s <;> rfl

/-- What is read from a description is what a new plugin reads from it, where it can be
read or there was nothing before. -/
theorem getD_eq_parseChannelDescription_iff {descJsonStr ownerName peerDevId : String} :
    (channelDescription parse descJsonStr).getD ("", "") =
        parseChannelDescription parse descJsonStr ownerName peerDevId ↔
      (channelDescription parse descJsonStr = none → ownerName = "" ∧ peerDevId = "") := by
  unfold parseChannelDescription
  cases channelDescription parse descJsonStr with
  | some read => simp
  | none => simp [eq_comm]

theorem actsOn_prepared_iff (s : PluginSettings) :
    (s.prepared parse params).ActsOn parse params ↔ s.Accepts parse params := by
  cases s with
  | memory sharedMemory => exact Iff.rfl
  | controller given => exact Iff.rfl
  | channel kind ownerName peerDevId sessionName =>
      cases set : params .mediaDescription with
      | none => simp [prepared, ActsOn, Accepts, set]
      | some descJsonStr =>
          simp only [prepared, ActsOn, Accepts, set, Option.some.injEq, forall_eq', and_true,
            Prod.mk.eta]
          exact getD_eq_parseChannelDescription_iff

theorem actsOn_set_iff {s : PluginSettings} {tag : Tag} {value : tag.Value}
    (acts : s.ActsOn parse params) :
    (s.set parse tag value).ActsOn parse (params.set tag value) ↔ s.Allows parse tag value := by
  cases s with
  | channel kind ownerName peerDevId sessionName =>
      cases tag with
      | mediaDescription =>
          simp only [set, ActsOn, Allows, parseChannelDescription, ParamsMap.set_self,
            Option.some.injEq, forall_eq']
          cases channelDescription parse value with
          | some read => simp
          | none =>
              simp only [Option.getD_none, Prod.mk.injEq, and_assoc]
              constructor
              · rintro ⟨rfl, rfl, session⟩
                exact ⟨rfl, rfl, by simpa using session⟩
              · rintro ⟨rfl, rfl, session⟩
                exact ⟨rfl, rfl, by simpa using session⟩
      | _ => simpa [set, Allows, ActsOn, ParamsMap.set_of_ne] using acts
  | memory sharedMemory =>
      cases tag with
      | userSharedMemoryFd => simp [set, Allows, ActsOn]
      | _ => simpa [set, Allows, ActsOn, ParamsMap.set_of_ne] using acts
  | controller given =>
      cases given with
      | none => exact acts.elim
      | some given =>
          cases tag with
          | userSharedMemoryFd => simpa [set, Allows, ActsOn, ParamsMap.set_of_ne] using acts.2
          | userTimeSyncResult => simpa [set, Allows, ActsOn, ParamsMap.set_of_ne] using acts.1
          | _ => simpa [set, Allows, ActsOn, ParamsMap.set_of_ne] using acts

end PluginSettings

namespace AvTransPlugin
variable {parse : String → Option CJson} (p : AvTransPlugin)

theorem settings_setParameter (tag : Tag) (value : tag.Value) :
    (p.setParameter parse tag value).2.settings = p.settings.set parse tag value := by
  cases p with
  | dsoftbus kind p =>
      cases tag with
      | sectionUserSpecificStart | sectionVideoSpecificStart =>
          simp only [setParameter, settings, DsoftbusPlugin.setParameter]
          cases kind.dumps <;> rfl
      | _ => rfl
  | memory kind p => cases tag <;> rfl
  | dscreenOutput p =>
      cases given : p.controller with
      | none =>
          simp only [setParameter, settings, DscreenOutputPlugin.setParameter, given]
          cases tag <;> rfl
      | some c =>
          simp only [setParameter, settings, DscreenOutputPlugin.setParameter, given]
          cases tag <;> rfl

theorem settings_init : p.init.2.settings =
    match p.settings with
    | .controller given => .controller (some (given.getD (noSharedMemory, 0)))
    | settings => settings := by
  cases p with
  | dsoftbus kind p => rfl
  | memory kind p => cases kind <;> rfl
  | dscreenOutput p =>
      simp only [init, DscreenOutputPlugin.init, settings]
      cases p.controller <;> rfl

theorem settings_prepare {adapter : AdapterAnswers} (h : (p.prepare adapter).1 = .ok) :
    (p.prepare adapter).2.settings =
      match p.settings with
      | .channel kind ownerName peerDevId _ =>
          .channel kind ownerName peerDevId (ownerName ++ "_" ++ kind.suffix)
      | settings => settings := by
  cases p with
  | dsoftbus kind p =>
      revert h
      simp only [prepare, settings, DsoftbusPlugin.prepare]
      split_ifs <;> simp
  | memory kind p =>
      simp only [prepare, settings, MemoryPlugin.prepare]
      cases kind with
      | daudioOutput => dsimp only; split_ifs <;> rfl
      | daudioInput | dscreenInput => rfl
  | dscreenOutput p =>
      simp only [prepare, settings, DscreenOutputPlugin.prepare]
      split_ifs <;> rfl

/-- Of the tags that the filters forward, the first one only says something to the plugins. -/
theorem settings_forward {kindOf : String → PluginKind} {params : ParamsMap} {tags : List Tag}
    (others : ∀ tag ∈ tags,
      tag ≠ .mediaDescription ∧ tag ≠ .userSharedMemoryFd ∧ tag ≠ .userTimeSyncResult) :
    (tags.foldl (TransFilter.forward (registered parse kindOf) params) p).settings =
      p.settings := by
  induction tags generalizing p with
  | nil => rfl
  | cons tag tags ih =>
      have rest := ih (TransFilter.forward (registered parse kindOf) params p tag)
        (fun other hother => others other (.tail _ hother))
      rw [List.foldl_cons, rest]
      unfold TransFilter.forward
      split
      · rename_i value _
        have other := others tag (.head _)
        exact (settings_setParameter p tag value).trans (p.settings.set_of_other value other)
      · rfl

/-- What the plugin acts on when a filter has prepared it. -/
theorem settings_readied {kindOf : String → PluginKind} {params : ParamsMap}
    {adapter : AdapterAnswers} {tags : List Tag} {p : AvTransPlugin}
    (others : ∀ tag ∈ tags,
      tag ≠ .mediaDescription ∧ tag ≠ .userSharedMemoryFd ∧ tag ≠ .userTimeSyncResult)
    (h : ((TransFilter.configured (registered parse kindOf) (.mediaDescription :: tags)
      params p).prepare adapter).1 = .ok) :
    ((TransFilter.configured (registered parse kindOf) (.mediaDescription :: tags)
      params p).prepare adapter).2.settings = p.settings.prepared parse params := by
  have configured : (TransFilter.configured (registered parse kindOf) (.mediaDescription :: tags)
      params p).settings =
      (TransFilter.forward (registered parse kindOf) params p.init.2 .mediaDescription).settings :=
    settings_forward _ others
  rw [settings_prepare _ h, configured]
  unfold TransFilter.forward
  cases set : params .mediaDescription with
  | none =>
      simp only [settings_init]
      cases p.settings with
      | channel | memory | controller => simp [PluginSettings.prepared, set]
  | some descJsonStr =>
      have given : ((registered parse kindOf).setParameter .mediaDescription descJsonStr
          p.init.2).2.settings = p.init.2.settings.set parse .mediaDescription descJsonStr :=
        settings_setParameter _ _ _
      simp only [given, settings_init]
      cases p.settings with
      | channel | memory | controller =>
          simp [PluginSettings.prepared, PluginSettings.set, set]

end AvTransPlugin

inductive FilterSide
  | input | output
  deriving DecidableEq

inductive ParamsCall
  | setParameter (tag : Tag) (value : tag.Value)
  | prepare (answers : PrepareAnswers)

/-- An `AVInputFilter` or an `AVOutputFilter` with one of the plugins. -/
abbrev AvTransFilter := TransFilter AvTransPlugin

section Params
variable (parse : String → Option CJson) (kindOf : String → PluginKind) (side : FilterSide)

def FilterSide.prepare (answers : PrepareAnswers) : FilterStep AvTransPlugin :=
  match side with
  | .input => AVInputFilter.prepare (AvTransPlugin.registered parse kindOf) answers
  | .output => AVOutputFilter.prepare (AvTransPlugin.registered parse kindOf) answers

/-- The candidates for a plugin: the output does not negotiate. -/
def FilterSide.candidates (answers : PrepareAnswers) : List Candidate :=
  match side with
  | .input => answers.candidates
  | .output => answers.candidates.map ({ · with negotiates := true })

def ParamsCall.run : ParamsCall → FilterStep AvTransPlugin
  | .setParameter tag value =>
      TransFilter.setParameter (AvTransPlugin.registered parse kindOf) tag value
  | .prepare answers => side.prepare parse kindOf answers

/-- A new filter is given parameters and prepared, any number of times in any order. -/
def paramsSystem : TransitionSystem AvTransFilter ParamsCall where
  init := fun f => f = {}
  step := fun f call => some (call.run parse kindOf side f).2

/-- The value that was last set for a tag; the latest call comes first. -/
def lastSet (tag : Tag) : List ParamsCall → Option tag.Value
  | [] => none
  | .setParameter other value :: calls =>
      if h : other = tag then some (h ▸ value) else lastSet tag calls
  | .prepare _ :: calls => lastSet tag calls

namespace TransFilter

/-- The plugin of a filter that has been prepared acts on the parameters of the filter. -/
def ParamsReach (f : AvTransFilter) : Prop :=
  f.state = .ready → ∀ p ∈ f.plugin, p.settings.ActsOn parse f.paramsMap

/-- A filter that is prepared has a plugin that accepts the parameters; a plugin that has been
prepared allows what is set. -/
def LetsParamsReach (f : AvTransFilter) : ParamsCall → Prop
  | .setParameter tag value =>
      f.state = .ready → ∀ p ∈ f.plugin, p.settings.Allows parse tag value
  | .prepare answers =>
      (side.prepare parse kindOf answers f).1 = .success →
        ∀ p ∈ f.chosen (AvTransPlugin.registered parse kindOf) (side.candidates answers),
          p.settings.Accepts parse f.paramsMap

end TransFilter

end Params

section
variable {parse : String → Option CJson} {kindOf : String → PluginKind} {side : FilterSide}
  {f g : AvTransFilter}

theorem FilterSide.prepare_paramsMap (answers : PrepareAnswers) :
    (side.prepare parse kindOf answers f).2.paramsMap = f.paramsMap := by
  cases side with
  | input => exact (AVInputFilter.keeps_prepare TransFilter.preserves_true answers f
      ⟨rfl, fun _ _ => trivial⟩).paramsMap
  | output => exact (AVOutputFilter.keeps_prepare TransFilter.preserves_true answers f
      ⟨rfl, fun _ _ => trivial⟩).paramsMap

/-- The map of a filter holds what was last set. -/
theorem paramsMap_eq_lastSet {ok : AvTransFilter → ParamsCall → Prop} {calls : List ParamsCall}
    (run : (paramsSystem parse kindOf side).Run ok calls f) (tag : Tag) :
    f.paramsMap tag = lastSet tag calls := by
  induction run with
  | init initial =>
      cases initial
      rfl
  | @step calls f _ call _ _ hs ih =>
      cases hs
      cases call with
      | setParameter other value =>
          by_cases same : other = tag
          · subst same
            simp [ParamsCall.run, TransFilter.setParameter, lastSet]
          · simp only [ParamsCall.run, TransFilter.setParameter, lastSet, same]
            exact (ParamsMap.set_of_ne (Ne.symm same)).trans ih
      | prepare answers =>
          exact (congrFun (FilterSide.prepare_paramsMap answers) tag).trans ih

variable (parse kindOf side f) in
theorem FilterSide.prepare_state (answers : PrepareAnswers) :
    side.prepare parse kindOf answers f = (.errorInvalidState, f) ∨ f.state = .initialized ∧
      (side.prepare parse kindOf answers f).2.state =
        if (side.prepare parse kindOf answers f).1 = .success then .ready else .initialized := by
  cases side with
  | input => exact AVInputFilter.prepare_state _ answers f
  | output => exact AVOutputFilter.prepare_state _ answers f

/-- A filter that has been prepared has the plugin that was chosen, and it acts on what
it was prepared with. -/
theorem FilterSide.prepare_settings {answers : PrepareAnswers}
    (h : (side.prepare parse kindOf answers f).1 = .success) :
    ∃ p q, f.chosen (AvTransPlugin.registered parse kindOf) (side.candidates answers) = some p ∧
      (side.prepare parse kindOf answers f).2.plugin = some q ∧
      q.settings = p.settings.prepared parse f.paramsMap := by
  have resets : ∀ p, ((AvTransPlugin.registered parse kindOf).reset p).1 = .ok := by
    intro p
    cases p with
    | dsoftbus kind p | dscreenOutput p => rfl
    | memory kind p => cases kind <;> rfl
  cases side with
  | input =>
      obtain ⟨p, hp, ok, hq⟩ := AVInputFilter.prepare_readied resets h
      exact ⟨p, _, hp, hq, AvTransPlugin.settings_readied (by simp) ok⟩
  | output =>
      obtain ⟨p, hp, ok, hq⟩ := AVOutputFilter.prepare_readied resets h
      exact ⟨p, _, hp, hq, AvTransPlugin.settings_readied (by simp) ok⟩

namespace TransFilter

theorem paramsReach_setParameter_iff {tag : Tag} {value : tag.Value} (reach : f.ParamsReach parse) :
    (setParameter (AvTransPlugin.registered parse kindOf) tag value f).2.ParamsReach parse ↔
      f.LetsParamsReach parse kindOf side (.setParameter tag value) := by
  unfold ParamsReach LetsParamsReach
  apply imp_congr_right
  intro ready
  cases hp : f.plugin with
  | none => simp [setParameter, hp]
  | some p =>
      have acts : p.settings.ActsOn parse f.paramsMap := reach ready p hp
      have after : ((AvTransPlugin.registered parse kindOf).setParameter tag value p).2.settings =
          p.settings.set parse tag value := p.settings_setParameter tag value
      simpa [setParameter, hp, after] using PluginSettings.actsOn_set_iff acts

theorem paramsReach_prepare_iff {answers : PrepareAnswers} (reach : f.ParamsReach parse) :
    (side.prepare parse kindOf answers f).2.ParamsReach parse ↔
      f.LetsParamsReach parse kindOf side (.prepare answers) := by
  unfold LetsParamsReach
  cases FilterSide.prepare_state parse kindOf side f answers with
  | inl refused =>
      rw [refused]
      exact iff_of_true reach (by simp [refused])
  | inr done =>
      have states := done.2
      by_cases succeeds : (side.prepare parse kindOf answers f).1 = .success
      · obtain ⟨p, q, hp, hq, settings⟩ := FilterSide.prepare_settings succeeds
        rw [if_pos succeeds] at states
        have params : (side.prepare parse kindOf answers f).2.paramsMap = f.paramsMap :=
          FilterSide.prepare_paramsMap answers
        simp only [ParamsReach, states, hq, hp, succeeds, params, Option.mem_def,
          Option.some.injEq, forall_eq', forall_const, settings]
        exact PluginSettings.actsOn_prepared_iff _
      · rw [if_neg succeeds] at states
        exact iff_of_true (fun ready => by simp [states] at ready)
          (fun success => absurd success succeeds)

end TransFilter

end

/-- A shared memory as it is marshalled. -/
def memoryText : String :=
  "\x7b\"sharedMemoryFd\":7,\"sharedMemorySize\":1024,\"sharedMemoryName\":\"clock\"\x7d"

def memoryJson : CJson :=
  .object [("sharedMemoryFd", .number 7), ("sharedMemorySize", .number 1024),
    ("sharedMemoryName", .string "clock")]

theorem unmarshal_memoryText : unmarshalSharedMemory (fun _ => some memoryJson) memoryText =
    { fd := 7, size := 1024, name := "clock" } := by
  have fd : CJson.saturatedInt 7 = 7 := by norm_num [CJson.saturatedInt]
  have size : CJson.saturatedInt 1024 = 1024 := by norm_num [CJson.saturatedInt]
  simp [unmarshalSharedMemory, memoryJson, CJson.getObjectItemCaseSensitive, fd, size]

end DistributedHardware
