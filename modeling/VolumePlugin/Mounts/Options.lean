/-! Mount options. Options that the kernel knows become flags, and the other ones are handed to the
file system as they are. -/

namespace VolumePlugin.Mounts

/-- The flags that a kernel knows and options can set. -/
structure Flags where
  readOnly : Bool := false
  noSuid : Bool := false
  noDevices : Bool := false
  noExecution : Bool := false
  synchronous : Bool := false
  remount : Bool := false
  noAccessTimes : Bool := false
  noDirectoryAccessTimes : Bool := false
  bind : Bool := false
  recursive : Bool := false
  relativeAccessTimes : Bool := false
  deriving DecidableEq, Repr, Inhabited

namespace Flags

def union (f g : Flags) : Flags :=
  { readOnly := f.readOnly || g.readOnly
    noSuid := f.noSuid || g.noSuid
    noDevices := f.noDevices || g.noDevices
    noExecution := f.noExecution || g.noExecution
    synchronous := f.synchronous || g.synchronous
    remount := f.remount || g.remount
    noAccessTimes := f.noAccessTimes || g.noAccessTimes
    noDirectoryAccessTimes := f.noDirectoryAccessTimes || g.noDirectoryAccessTimes
    bind := f.bind || g.bind
    recursive := f.recursive || g.recursive
    relativeAccessTimes := f.relativeAccessTimes || g.relativeAccessTimes }

/-- The number by which a kernel knows a set of flags. -/
def number (f : Flags) : Nat :=
  ([(f.readOnly, 1), (f.noSuid, 2), (f.noDevices, 4), (f.noExecution, 8), (f.synchronous, 16),
    (f.remount, 32), (f.noAccessTimes, 1024), (f.noDirectoryAccessTimes, 2048), (f.bind, 4096),
    (f.recursive, 16384), (f.relativeAccessTimes, 2097152)].map fun (isSet, bit) =>
      if isSet then bit else 0).foldl (· + ·) 0

end Flags

/-- The flags that an option sets, if the kernel knows it. -/
def flagsOf? (option : String) : Option Flags :=
  match option with
  | "defaults" | "rw" | "" => some {}
  | "ro" => some { readOnly := true }
  | "bind" => some { bind := true }
  | "rbind" => some { bind := true, recursive := true }
  | "remount" => some { remount := true }
  | "noatime" => some { noAccessTimes := true }
  | "nodiratime" => some { noDirectoryAccessTimes := true }
  | "relatime" => some { relativeAccessTimes := true }
  | "nosuid" => some { noSuid := true }
  | "nodev" => some { noDevices := true }
  | "noexec" => some { noExecution := true }
  | "sync" => some { synchronous := true }
  | _ => none

def flags (options : List String) : Flags :=
  (options.filterMap flagsOf?).foldr Flags.union {}

def unknownOptions (options : List String) : List String :=
  options.filter fun o => (flagsOf? o).isNone

/-- What is handed to the file system. -/
def data? (options : List String) : Option String :=
  match unknownOptions options with
  | [] => none
  | unknown => some (",".intercalate unknown)

end VolumePlugin.Mounts
