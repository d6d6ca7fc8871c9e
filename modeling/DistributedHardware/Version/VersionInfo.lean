import DistributedHardware.Library.Store
import DistributedHardware.Resource.CapabilityInfo

/-!
The version records of the devices and their decoding.

`FromJson` takes the members it finds and leaves the others as they are. The type of a
component is not set before, so where its member is missing it is whatever the memory
held.
-/

namespace DistributedHardware

def maxDh : DhType := 0x80000000

structure CompVersion where
  name : String := ""
  dhType : DhType
  handlerVersion : String := ""
  sourceVersion : String := ""
  sinkVersion : String := ""
  deriving DecidableEq

abbrev CompVersions := Store DhType CompVersion

structure VersionInfo where
  deviceId : String := ""
  dhVersion : String := ""
  compVersions : CompVersions := ∅

structure DHVersion where
  uuid : String
  dhVersion : String
  compVersions : CompVersions

/-- What comes from outside: the hash of OpenSSL, the parser of cJSON, and what a type
that is not set holds. -/
structure VersionSetting where
  sha256 : String → String
  parse : String → Option CJson
  unsetType : DhType := 0

def CompVersion.fromJson (json : CJson) (compVer : CompVersion) : CompVersion := Id.run do
  let mut compVer := compVer
  if json.isString "name" then
    compVer := { compVer with name := json.valuestring "name" }
  if json.isUInt32 "type" && json.valueunsigned "type" ≤ maxDh.toNat then
    compVer := { compVer with dhType := UInt32.ofNat (json.valueunsigned "type") }
  if json.isString "handler" then
    compVer := { compVer with handlerVersion := json.valuestring "handler" }
  if json.isString "source_ver" then
    compVer := { compVer with sourceVersion := json.valuestring "source_ver" }
  if json.isString "sink_ver" then
    compVer := { compVer with sinkVersion := json.valuestring "sink_ver" }
  return compVer

/-- `std::unordered_map::insert`: the first component of a type stays. -/
def insertCompVersion (compVersions : CompVersions) (compVer : CompVersion) : CompVersions :=
  if (compVersions.get compVer.dhType).isSome then compVersions
  else compVersions.set compVer.dhType compVer

def VersionInfo.fromJson (unsetType : DhType) (json : CJson) (versionInfo : VersionInfo) :
    VersionInfo := Id.run do
  let mut versionInfo := versionInfo
  if json.isString "dev_id" then
    versionInfo := { versionInfo with deviceId := json.valuestring "dev_id" }
  if json.isString "dh_ver" then
    versionInfo := { versionInfo with dhVersion := json.valuestring "dh_ver" }
  if let some compVer := json.getObjectItem "comp_ver" then
    versionInfo :=
      { versionInfo with
        compVersions := compVer.children.foldl (fun compVersions compVerObj =>
          insertCompVersion compVersions (CompVersion.fromJson compVerObj { dhType := unsetType }))
          versionInfo.compVersions }
  return versionInfo

/-- `VersionInfo::FromJsonString` on a fresh record. -/
def VersionSetting.fromJsonString (v : VersionSetting) (jsonStr : String) :
    Except Int VersionInfo :=
  getByValue v.parse {} (VersionInfo.fromJson v.unsetType) jsonStr

end DistributedHardware
