/-! The names that the plugin and its orchestrator agree on. The controller writes some of them and
the node reads them back. -/

namespace VolumePlugin.Setting

/-- The name of the plugin unless it is configured. -/
def defaultDriverName : String := "blockcsi.rk8s.io"

def vendorVersion : String := "0.1.0"

/-- The topology segment that names a region. -/
def region : String := "topology.blockcsi.rk8s.io/region"

def luksEncrypted : String := "blockcsi.rk8s.io/luks-encrypted"

def luksCipher : String := "blockcsi.rk8s.io/luks-cipher"

/-- The parameter that gives the size of the key in bits. -/
def luksKeySize : String := "blockcsi.rk8s.io/luks-key-size"

/-- The parameter that lists tags for the volume, separated by commas. -/
def volumeTags : String := "blockcsi.rk8s.io/volume-tags"

/-- The secret that holds the passphrase. -/
def luksKey : String := "luksKey"

/-- The entry of the publish context that holds the path of the device. -/
def devicePath : String := "devicePath"

/-- The entry of the volume context that selects a partition. -/
def partition : String := "partition"

/-- The file system of volumes for which none is asked. -/
def defaultFsType : String := "ext4"

end VolumePlugin.Setting
