import VolumePlugin.Message.Identity
import VolumePlugin.Timeline

/-! The identity service: who the plugin is, what it can do, and whether it is ready. -/

namespace VolumePlugin.Identity

/-- Says who the plugin is. -/
def pluginInfo (name vendorVersion : String) : GetPluginInfoResponse :=
  { name := name, vendorVersion := vendorVersion }

/-- Says what the plugin can do: it has a controller service, it knows where volumes can be reached
from, and it expands volumes while they are in use. -/
def pluginCapabilities : GetPluginCapabilitiesResponse :=
  { capabilities := [
      { type := some (.service { type := 1 }) },
      { type := some (.service { type := 2 }) },
      { type := some (.expansion { type := 1 }) }] }

/-- Says whether the plugin is ready, which it is until it is to shut down. -/
def probe (signal : Signal) : ProbeResponse :=
  { ready := some !signal.value }

end VolumePlugin.Identity
