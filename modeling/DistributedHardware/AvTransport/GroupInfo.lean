import Mathlib.Data.List.Dedup
import DistributedHardware.AvTransport.SyncManager
import DistributedHardware.Resource.RoundTrip

/-!
The group information that `AVSyncManager` merges from its streams.

Each stream of a recognised scene is printed as an entry of the group, and equal texts fall
together in a set. Streams that differ only behind a NUL in the id of the peer print alike.
-/

namespace DistributedHardware

namespace AVStreamInfo
variable (item : AVStreamInfo)

def isAudio : Prop := item.sceneType = sceneTypeDMic ∨ item.sceneType = sceneTypeDSpeaker

def isVideo : Prop := item.sceneType = sceneTypeDScreen ∨ item.sceneType = sceneTypeDCameraStr

instance : Decidable item.isAudio := inferInstanceAs (Decidable (_ ∨ _))
instance : Decidable item.isVideo := inferInstanceAs (Decidable (_ ∨ _))

/-- The entry of a recognised stream: audio is the master, video is the slave. -/
def entryTree : CJson := groupItem item (if item.isAudio then 0 else 1)

/-- A stream with the id of its peer read through `c_str`. -/
def cStr : AVStreamInfo := { item with peerDevId := DistributedHardware.cStr item.peerDevId }

theorem entryTree_cStr : item.cStr.entryTree = item.entryTree := by
  simp only [entryTree, groupItem, cStr, DhTransport.cStr_cStr]
  rfl

variable {item} {item' : AVStreamInfo}

theorem cStr_sceneType (known : item.isAudio ∨ item.isVideo) :
    DistributedHardware.cStr item.sceneType = item.sceneType := by
  obtain (scene | scene) | (scene | scene) := known
  all_goals
    rw [scene]
    decide +kernel

/-- The entries of different pairs are different. -/
theorem eq_of_entryTree (known : item.isAudio ∨ item.isVideo)
    (known' : item'.isAudio ∨ item'.isVideo)
    (same : item.cStr.entryTree = item'.cStr.entryTree) : item.cStr = item'.cStr := by
  rw [entryTree_cStr, entryTree_cStr] at same
  simp only [entryTree, groupItem, CJson.object.injEq, List.cons.injEq, Prod.mk.injEq,
    CJson.string.injEq, true_and, cStr_sceneType known, cStr_sceneType known'] at same
  obtain ⟨scene, peer, -⟩ := same
  rw [cStr, cStr, AVStreamInfo.mk.injEq]
  exact ⟨scene, peer⟩

end AVStreamInfo

/-- The distinct pairs of a recognised scene and a peer. -/
def groupPairs (streams : List AVStreamInfo) : List AVStreamInfo :=
  ((streams.filter (fun item => item.isAudio ∨ item.isVideo)).map AVStreamInfo.cStr).dedup

theorem mem_groupPairs {streams : List AVStreamInfo} {pair : AVStreamInfo} :
    pair ∈ groupPairs streams ↔
      ∃ item ∈ streams, (item.isAudio ∨ item.isVideo) ∧ item.cStr = pair := by
  simp [groupPairs, and_assoc]

section Inner
variable (printUnformatted : CJson → Option String)

/-- What one stream does to the set. -/
def insertEntry (groupInfoSet : Std.TreeSet String compare) (item : AVStreamInfo) :
    Option (Std.TreeSet String compare) :=
  if item.isAudio ∨ item.isVideo then
    (printUnformatted item.entryTree).map groupInfoSet.insert
  else some groupInfoSet

theorem insertEntry_eq (groupInfoSet : Std.TreeSet String compare) (item : AVStreamInfo) :
    insertEntry printUnformatted groupInfoSet item =
      if item.isAudio then (printUnformatted (groupItem item 0)).map groupInfoSet.insert
      else if item.isVideo then (printUnformatted (groupItem item 1)).map groupInfoSet.insert
      else some groupInfoSet := by
  unfold insertEntry AVStreamInfo.entryTree
  by_cases audio : item.isAudio
  · rw [if_pos (.inl audio), if_pos audio, if_pos audio]
  · by_cases video : item.isVideo
    · rw [if_pos (.inr video), if_neg audio, if_neg audio, if_pos video]
    · rw [if_neg (not_or.mpr ⟨audio, video⟩), if_neg audio, if_neg video]

theorem mergeGroupInfoInner_eq (streams : List AVStreamInfo) :
    mergeGroupInfoInner printUnformatted streams =
      streams.foldlM (insertEntry printUnformatted) ∅ := by
  unfold mergeGroupInfoInner
  congr 1
  funext groupInfoSet item
  rw [insertEntry_eq]
  rfl

variable {printUnformatted}

/-- The set has the entries of all recognised streams gone through, each of which was printed. -/
theorem mem_of_foldlM {streams : List AVStreamInfo} {S T : Std.TreeSet String compare}
    (merged : streams.foldlM (insertEntry printUnformatted) S = some T) :
    (∀ item ∈ streams, item.isAudio ∨ item.isVideo → printUnformatted item.entryTree ≠ none) ∧
    ∀ entry, entry ∈ T ↔ entry ∈ S ∨ ∃ item ∈ streams,
      (item.isAudio ∨ item.isVideo) ∧ printUnformatted item.entryTree = some entry := by
  induction streams generalizing S with
  | nil =>
      cases merged
      simp
  | cons item streams ih =>
      rw [List.foldlM_cons] at merged
      obtain ⟨S', step, rest⟩ := Option.bind_eq_some_iff.mp merged
      obtain ⟨printed, mem⟩ := ih rest
      rw [insertEntry] at step
      split at step
      · next known =>
        obtain ⟨entry, own, rfl⟩ := Option.map_eq_some_iff.mp step
        refine ⟨List.forall_mem_cons.mpr ⟨by simp [own], printed⟩, fun entry' => ?_⟩
        simp only [mem, Std.TreeSet.mem_insert, Std.LawfulEqCmp.compare_eq_iff_eq,
          List.exists_mem_cons_iff, known, true_and, own, Option.some.injEq]
        rw [or_assoc, or_left_comm]
      · next unknown =>
        cases step
        refine ⟨List.forall_mem_cons.mpr ⟨fun known => absurd known unknown, printed⟩, ?_⟩
        intro entry
        simp only [mem, List.exists_mem_cons_iff, unknown, false_and, false_or]

theorem exists_of_foldlM_none {streams : List AVStreamInfo} {S : Std.TreeSet String compare}
    (merged : streams.foldlM (insertEntry printUnformatted) S = none) :
    ∃ item ∈ streams, (item.isAudio ∨ item.isVideo) ∧ printUnformatted item.entryTree = none := by
  induction streams generalizing S with
  | nil => cases merged
  | cons item streams ih =>
      rw [List.foldlM_cons] at merged
      cases step : insertEntry printUnformatted S item with
      | none =>
          rw [insertEntry] at step
          split at step
          · next known =>
            exact ⟨item, List.mem_cons_self, known, Option.map_eq_none_iff.mp step⟩
          · cases step
      | some S' =>
          rw [step] at merged
          obtain ⟨item', mem, unprinted⟩ := ih merged
          exact ⟨item', List.mem_cons_of_mem _ mem, unprinted⟩

/-- What is merged depends on the members of the list only. -/
theorem getSyncGroupInfo_eq_of_mem_iff {streams streams' : List AVStreamInfo}
    (same : ∀ item, item ∈ streams ↔ item ∈ streams') :
    (mergeGroupInfoInner printUnformatted streams).map (getSyncGroupInfo printUnformatted) =
      (mergeGroupInfoInner printUnformatted streams').map (getSyncGroupInfo printUnformatted) := by
  rw [mergeGroupInfoInner_eq, mergeGroupInfoInner_eq]
  cases merged : streams.foldlM (insertEntry printUnformatted) ∅ with
  | none =>
      obtain ⟨item, mem, known, unprinted⟩ := exists_of_foldlM_none merged
      cases merged' : streams'.foldlM (insertEntry printUnformatted) ∅ with
      | none => rfl
      | some T' =>
          exact absurd unprinted ((mem_of_foldlM merged').1 item ((same item).mp mem) known)
  | some T =>
      cases merged' : streams'.foldlM (insertEntry printUnformatted) ∅ with
      | none =>
          obtain ⟨item, mem, known, unprinted⟩ := exists_of_foldlM_none merged'
          exact absurd unprinted ((mem_of_foldlM merged).1 item ((same item).mpr mem) known)
      | some T' =>
          have equal : T.Equiv T' := by
            refine Std.TreeSet.equiv_iff_forall_mem_iff.mpr (fun entry => ?_)
            rw [(mem_of_foldlM merged).2, (mem_of_foldlM merged').2]
            simp only [same]
          rw [Option.map_some, Option.map_some, getSyncGroupInfo, getSyncGroupInfo,
            equal.toList_eq]

end Inner

section Merge
variable {printUnformatted : CJson → Option String} {streams streams' : List AVStreamInfo}

theorem mergeGroupInfo_eq : mergeGroupInfo printUnformatted streams =
    let sceneTypeSet := (streams.map AVStreamInfo.sceneType).dedup
    if sceneTypeSet.length < avSyncStreamCount then none
    else if sceneTypeDMic ∈ sceneTypeSet ∧ sceneTypeDSpeaker ∈ sceneTypeSet then none
    else if ¬ (sceneTypeDScreen ∈ sceneTypeSet ∧ sceneTypeDSpeaker ∈ sceneTypeSet) ∧
        ¬ (sceneTypeDCameraStr ∈ sceneTypeSet ∧ sceneTypeDMic ∈ sceneTypeSet) then none
    else
      ((mergeGroupInfoInner printUnformatted streams).map
        (getSyncGroupInfo printUnformatted)).filter (· ≠ "") := by
  unfold mergeGroupInfo
  cases mergeGroupInfoInner printUnformatted streams with
  | none => rfl
  | some groupInfoSet =>
      by_cases empty : getSyncGroupInfo printUnformatted groupInfoSet = "" <;>
        simp [empty, Option.filter]

/-- The order and the multiplicity of the streams do not matter. -/
theorem mergeGroupInfo_eq_of_mem_iff (same : ∀ item, item ∈ streams ↔ item ∈ streams') :
    mergeGroupInfo printUnformatted streams = mergeGroupInfo printUnformatted streams' := by
  have scenes : (streams.map AVStreamInfo.sceneType).dedup.Perm
      (streams'.map AVStreamInfo.sceneType).dedup := by
    refine (List.perm_ext_iff_of_nodup (List.nodup_dedup _) (List.nodup_dedup _)).mpr ?_
    simp [same]
  simp only [mergeGroupInfo_eq, scenes.length_eq, scenes.mem_iff,
    getSyncGroupInfo_eq_of_mem_iff same]

/-- The trees of the entries. -/
def entryTrees (streams : List AVStreamInfo) : List CJson :=
  (groupPairs streams).map AVStreamInfo.entryTree

theorem nodup_entryTrees : (entryTrees streams).Nodup := by
  refine List.Nodup.map_on ?_ (List.nodup_dedup _)
  intro pair mem pair' mem' same
  obtain ⟨item, -, known, rfl⟩ := mem_groupPairs.mp mem
  obtain ⟨item', -, known', rfl⟩ := mem_groupPairs.mp mem'
  exact AVStreamInfo.eq_of_entryTree known known' same

theorem mem_entryTrees {tree : CJson} : tree ∈ entryTrees streams ↔
    ∃ item ∈ streams, (item.isAudio ∨ item.isVideo) ∧ item.entryTree = tree := by
  simp only [entryTrees, List.mem_map, mem_groupPairs]
  constructor
  · rintro ⟨_, ⟨item, mem, known, rfl⟩, rfl⟩
    exact ⟨item, mem, known, item.entryTree_cStr.symm⟩
  · rintro ⟨item, mem, known, rfl⟩
    exact ⟨_, ⟨item, mem, known, rfl⟩, item.entryTree_cStr⟩

variable {parse : String → Option CJson}

/-- The texts in the set are those of the trees, and each tree has one. -/
theorem entries_perm (lib : PrintsParsed parse printUnformatted)
    {groupInfoSet : Std.TreeSet String compare}
    (merged : mergeGroupInfoInner printUnformatted streams = some groupInfoSet) :
    groupInfoSet.toList.Nodup ∧
      (groupInfoSet.toList.map parse).Perm ((entryTrees streams).map some) := by
  rw [mergeGroupInfoInner_eq] at merged
  obtain ⟨printed, mem⟩ := mem_of_foldlM merged
  have nodup : groupInfoSet.toList.Nodup := by
    refine groupInfoSet.distinct_toList.imp (fun {entry entry'} differs same => ?_)
    subst same
    exact differs Std.ReflCmp.compare_self
  -- each text in the set is read back as the tree it was printed from
  have read (entry : String) (there : entry ∈ groupInfoSet.toList) :
      ∃ tree ∈ entryTrees streams, printUnformatted tree = some entry ∧
        parse entry = some tree := by
    obtain inEmpty | ⟨item, mem, known, own⟩ := (mem entry).mp (Std.TreeSet.mem_toList.mp there)
    · exact absurd inEmpty Std.TreeSet.not_mem_emptyc
    · exact ⟨item.entryTree, mem_entryTrees.mpr ⟨item, mem, known, rfl⟩, own,
        lib.parsePrinted _ _ own⟩
  refine ⟨nodup, (List.perm_ext_iff_of_nodup ?_ ?_).mpr ?_⟩
  · refine List.Nodup.map_on ?_ nodup
    intro entry there entry' there' same
    obtain ⟨tree, -, own, back⟩ := read entry there
    obtain ⟨tree', -, own', back'⟩ := read entry' there'
    rw [back, back', Option.some.injEq] at same
    rw [same, own'] at own
    exact (Option.some.inj own).symm
  · exact nodup_entryTrees.map (Option.some_injective _)
  · intro found
    rw [List.mem_map, List.mem_map]
    constructor
    · rintro ⟨entry, there, rfl⟩
      obtain ⟨tree, known, -, back⟩ := read entry there
      exact ⟨tree, known, back.symm⟩
    · rintro ⟨tree, known, rfl⟩
      obtain ⟨item, mem', recognised, rfl⟩ := mem_entryTrees.mp known
      obtain ⟨entry, own⟩ := Option.ne_none_iff_exists'.mp (printed item mem' recognised)
      refine ⟨entry, Std.TreeSet.mem_toList.mpr ?_, lib.parsePrinted _ _ own⟩
      exact (mem entry).mpr (.inr ⟨item, mem', recognised, own⟩)

/-- What is printed of the texts of the entries. -/
def groupTree (entries : List String) : CJson :=
  .object [("myDevId", .string ""), ("groupInfoArray", .array (entries.map .string))]

theorem entries_of_mergeGroupInfo (lib : PrintsParsed parse printUnformatted) {info : String}
    (merged : mergeGroupInfo printUnformatted streams = some info) :
    ∃ entries, parse info = some (groupTree entries) ∧ entries.Nodup ∧
      (entries.map parse).Perm ((entryTrees streams).map some) := by
  simp only [mergeGroupInfo_eq, ite_eq_iff, reduceCtorEq, and_false, false_or] at merged
  obtain ⟨-, -, -, merged⟩ := merged
  obtain ⟨printed, nonempty⟩ := Option.filter_eq_some_iff.mp merged
  obtain ⟨groupInfoSet, inner, rfl⟩ := Option.map_eq_some_iff.mp printed
  have text : printUnformatted (groupTree groupInfoSet.toList) =
      some (getSyncGroupInfo printUnformatted groupInfoSet) := by
    have info : getSyncGroupInfo printUnformatted groupInfoSet =
        (printUnformatted (groupTree groupInfoSet.toList)).getD "" := rfl
    rw [info] at nonempty ⊢
    cases text : printUnformatted (groupTree groupInfoSet.toList) with
    | none => simp [text] at nonempty
    | some info => rfl
  exact ⟨groupInfoSet.toList, lib.parsePrinted _ _ text, entries_perm lib inner⟩

end Merge

/-- The group information depends on the pairs of scene and peer in the list only, and where
there is one it has one entry for each pair of a recognised scene. -/
theorem groupInfo_of_pairs {parse : String → Option CJson}
    {printUnformatted : CJson → Option String} (lib : PrintsParsed parse printUnformatted) :
    (∀ streams streams' : List AVStreamInfo, (∀ item, item ∈ streams ↔ item ∈ streams') →
      mergeGroupInfo printUnformatted streams = mergeGroupInfo printUnformatted streams') ∧
    ∀ streams info, mergeGroupInfo printUnformatted streams = some info →
      ∃ entries, parse info = some (groupTree entries) ∧ entries.Nodup ∧
        (entries.map parse).Perm
          ((groupPairs streams).map (fun pair => some pair.entryTree)) := by
  refine ⟨fun streams streams' => mergeGroupInfo_eq_of_mem_iff, fun streams info merged => ?_⟩
  obtain ⟨entries, read, nodup, perm⟩ := entries_of_mergeGroupInfo lib merged
  rw [entryTrees, List.map_map] at perm
  exact ⟨entries, read, nodup, perm⟩

section Examples

private def micOf (peerDevId : String) : AVStreamInfo := { sceneType := sceneTypeDMic, peerDevId }

private def cameraOfA : AVStreamInfo := { sceneType := sceneTypeDCameraStr, peerDevId := "a" }

/-- What cJSON prints of the two entries, and of the group that holds them. -/
private def micText : String :=
  String.join ["\x7b\"sceneType\":\"dmic_stream\",\"peerDevId\":\"a\",\"startFrameNum\":0,",
    "\"avSyncFlag\":0\x7d"]

private def cameraText : String :=
  String.join ["\x7b\"sceneType\":\"dcamera_stream\",\"peerDevId\":\"a\",\"startFrameNum\":0,",
    "\"avSyncFlag\":1\x7d"]

private def groupText : String :=
  String.join ["\x7b\"myDevId\":\"\",\"groupInfoArray\":[",
    "\"\x7b\\\"sceneType\\\":\\\"dcamera_stream\\\",\\\"peerDevId\\\":\\\"a\\\",",
    "\\\"startFrameNum\\\":0,\\\"avSyncFlag\\\":1\x7d\",",
    "\"\x7b\\\"sceneType\\\":\\\"dmic_stream\\\",\\\"peerDevId\\\":\\\"a\\\",",
    "\\\"startFrameNum\\\":0,\\\"avSyncFlag\\\":0\x7d\"]\x7d"]

private def groupTexts : List (CJson × String) :=
  [((micOf "a").entryTree, micText), (cameraOfA.entryTree, cameraText),
    (groupTree [cameraText, micText], groupText)]

private theorem nodup_groupTrees : (groupTexts.map Prod.fst).Nodup := by
  have micTree : (micOf "a").entryTree = groupItem (micOf "a") 0 := rfl
  have cameraTree : cameraOfA.entryTree = groupItem cameraOfA 1 := rfl
  simp [groupTexts, micTree, cameraTree, groupItem, groupTree]

private theorem contained_groupTexts : ∀ pair ∈ groupTexts, ∀ s, pair.1.Contains s →
    s.utf8ByteSize ≤ pair.2.utf8ByteSize := by
  have entry {item : AVStreamInfo} {flag : ℚ} {s : String}
      (mem : (groupItem item flag).Contains s) :
      s = cStr item.sceneType ∨ s = cStr item.peerDevId := by
    simpa [groupItem] using mem
  have group {s : String} (mem : (groupTree [cameraText, micText]).Contains s) :
      s = "" ∨ s = cameraText ∨ s = micText := by
    simpa [groupTree] using mem
  rintro pair mem s there
  simp only [groupTexts, List.mem_cons, List.not_mem_nil, or_false] at mem
  obtain rfl | rfl | rfl := mem
  · obtain rfl | rfl := entry there <;> decide +kernel
  · obtain rfl | rfl := entry there <;> decide +kernel
  · obtain rfl | rfl | rfl := group there <;> decide +kernel

private theorem exists_group_printed : ∃ parse printUnformatted,
    PrintsParsed parse printUnformatted ∧ ∀ pair ∈ groupTexts,
      printUnformatted pair.1 = some pair.2 :=
  exists_printsParsed_of_pairs groupTexts nodup_groupTrees (by decide +kernel) contained_groupTexts

/-- Microphones whose ids begin with `a` and a NUL, or are `a`, and the camera. -/
private theorem merge_groupTexts {printUnformatted : CJson → Option String}
    (printed : ∀ pair ∈ groupTexts, printUnformatted pair.1 = some pair.2) :
    mergeGroupInfo printUnformatted [micOf "a", cameraOfA] = some groupText ∧
      mergeGroupInfo printUnformatted [micOf "a\x00b", micOf "a\x00c", cameraOfA] =
        some groupText := by
  have mic : printUnformatted (micOf "a").entryTree = some micText :=
    printed ((micOf "a").entryTree, micText) (by simp [groupTexts])
  have camera : printUnformatted cameraOfA.entryTree = some cameraText :=
    printed (cameraOfA.entryTree, cameraText) (by simp [groupTexts])
  have group : printUnformatted (groupTree [cameraText, micText]) = some groupText :=
    printed (groupTree [cameraText, micText], groupText) (by simp [groupTexts])
  have insertMic (S : Std.TreeSet String compare) (peerDevId : String)
      (cut : cStr peerDevId = "a") : insertEntry printUnformatted S (micOf peerDevId) =
        some (S.insert micText) := by
    have same : (micOf peerDevId).cStr = micOf "a" := by simp [AVStreamInfo.cStr, micOf, cut]
    rw [insertEntry, if_pos (.inl (.inl rfl)), ← AVStreamInfo.entryTree_cStr, same, mic]
    rfl
  have insertCamera (S : Std.TreeSet String compare) :
      insertEntry printUnformatted S cameraOfA = some (S.insert cameraText) := by
    rw [insertEntry, if_pos (.inr (.inr rfl)), camera]
    rfl
  have info {S : Std.TreeSet String compare} (sorted : S.toList = [cameraText, micText]) :
      ((some S).map (getSyncGroupInfo printUnformatted)).filter (· ≠ "") = some groupText := by
    have text : getSyncGroupInfo printUnformatted S =
        (printUnformatted (groupTree S.toList)).getD "" := rfl
    rw [Option.map_some, text, sorted, group]
    decide +kernel
  constructor
  · have inner : mergeGroupInfoInner printUnformatted [micOf "a", cameraOfA] =
        some (((∅ : Std.TreeSet String compare).insert micText).insert cameraText) := by
      simp [mergeGroupInfoInner_eq, insertMic _ "a" (by decide +kernel), insertCamera]
    rw [mergeGroupInfo_eq, inner]
    dsimp only
    rw [if_neg (by decide +kernel), if_neg (by decide +kernel), if_neg (by decide +kernel)]
    exact info (by decide +kernel)
  · have inner : mergeGroupInfoInner printUnformatted
          [micOf "a\x00b", micOf "a\x00c", cameraOfA] =
        some ((((∅ : Std.TreeSet String compare).insert micText).insert micText).insert
          cameraText) := by
      simp [mergeGroupInfoInner_eq, insertMic _ "a\x00b" (by decide +kernel),
        insertMic _ "a\x00c" (by decide +kernel), insertCamera]
    rw [mergeGroupInfo_eq, inner]
    dsimp only
    rw [if_neg (by decide +kernel), if_neg (by decide +kernel), if_neg (by decide +kernel)]
    exact info (by decide +kernel)

/-- A microphone and the camera of one peer, in either order. -/
theorem group_micOfA : ∃ parse printUnformatted, PrintsParsed parse printUnformatted ∧
    mergeGroupInfo printUnformatted [micOf "a", cameraOfA] =
      mergeGroupInfo printUnformatted [cameraOfA, micOf "a", cameraOfA] ∧
    ∃ info ∈ mergeGroupInfo printUnformatted [micOf "a", cameraOfA],
      ∃ entries, parse info = some (groupTree entries) ∧ entries.Nodup ∧
        (entries.map parse).Perm ((groupPairs [micOf "a", cameraOfA]).map
          (fun pair => some pair.entryTree)) := by
  obtain ⟨parse, printUnformatted, lib, printed⟩ := exists_group_printed
  have merged := (merge_groupTexts printed).1
  have same : ∀ item, item ∈ [micOf "a", cameraOfA] ↔ item ∈ [cameraOfA, micOf "a", cameraOfA] := by
    simp
  exact ⟨parse, printUnformatted, lib, (groupInfo_of_pairs lib).1 _ _ same, groupText, merged,
    (groupInfo_of_pairs lib).2 _ _ merged⟩

/-- Two microphones whose ids differ behind a NUL have one entry. -/
theorem exists_pairs_merged : ∃ parse printUnformatted info entries,
    PrintsParsed parse printUnformatted ∧
    mergeGroupInfo printUnformatted [micOf "a\x00b", micOf "a\x00c", cameraOfA] = some info ∧
    parse info = some (groupTree entries) ∧ entries.length = 2 ∧
    [micOf "a\x00b", micOf "a\x00c", cameraOfA].Nodup := by
  obtain ⟨parse, printUnformatted, lib, printed⟩ := exists_group_printed
  have group := printed (groupTree [cameraText, micText], groupText) (by simp [groupTexts])
  exact ⟨parse, printUnformatted, groupText, [cameraText, micText], lib,
    (merge_groupTexts printed).2, lib.parsePrinted _ _ group, rfl, by decide⟩

end Examples
end DistributedHardware
