import VolumePlugin.Message.Field

/-! Messages of the identity service. -/

namespace VolumePlugin

/-- A truth value on its own. -/
instance : Message Bool where
  empty := false
  fields := [.bool "value" 1 id fun v _ => v]

/-- The field of a truth value on its own. -/
def truthValue : Field Bool :=
  .bool "value" 1 id fun v _ => v

structure GetPluginInfoRequest where
  deriving DecidableEq

instance : Message GetPluginInfoRequest where
  empty := {}
  fields := []

structure GetPluginInfoResponse where
  name : String := ""
  vendorVersion : String := ""
  manifest : Attributes := .empty
  deriving DecidableEq

instance : Message GetPluginInfoResponse where
  empty := {}
  fields := [
    .text "name" 1 (·.name) fun v m => { m with name := v },
    .text "vendor_version" 2 (·.vendorVersion) fun v m => { m with vendorVersion := v },
    .attributes "manifest" 3 (·.manifest) fun v m => { m with manifest := v }]

structure GetPluginCapabilitiesRequest where
  deriving DecidableEq

instance : Message GetPluginCapabilitiesRequest where
  empty := {}
  fields := []

/-- A service that the plugin offers, by number. -/
structure PluginService where
  type : Int32 := 0
  deriving DecidableEq

instance : Message PluginService where
  empty := {}
  fields := [
    .int32 "type" 1 (·.type) fun v m => { m with type := v }]

/-- When volumes can grow, by number. -/
structure PluginExpansion where
  type : Int32 := 0
  deriving DecidableEq

instance : Message PluginExpansion where
  empty := {}
  fields := [
    .int32 "type" 1 (·.type) fun v m => { m with type := v }]

/-- The two kinds of abilities of a plugin. -/
inductive PluginAbility where
  | service (value : PluginService)
  | expansion (value : PluginExpansion)
  deriving DecidableEq

structure PluginCapability where
  type : Option PluginAbility := none
  deriving DecidableEq

instance : Message PluginCapability where
  empty := {}
  fields := [
    .choice "type" [
      .of "service" 1 (fun m => match m.type with | some (.service v) => some v | _ => none)
        fun v m => { m with type := some (.service v) },
      .of "volume_expansion" 2
        (fun m => match m.type with | some (.expansion v) => some v | _ => none)
        fun v m => { m with type := some (.expansion v) }]]

structure GetPluginCapabilitiesResponse where
  capabilities : List PluginCapability := []
  deriving DecidableEq

instance : Message GetPluginCapabilitiesResponse where
  empty := {}
  fields := [
    .messages "capabilities" 1 (·.capabilities) fun v m => { m with capabilities := v }]

structure ProbeRequest where
  deriving DecidableEq

instance : Message ProbeRequest where
  empty := {}
  fields := []

structure ProbeResponse where
  ready : Option Bool := none
  deriving DecidableEq

instance : Message ProbeResponse where
  empty := {}
  fields := [
    .wrapped "ready" 1 truthValue (·.ready) fun v m => { m with ready := some v }]

end VolumePlugin
