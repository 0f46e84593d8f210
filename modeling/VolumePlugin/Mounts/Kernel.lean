import VolumePlugin.Mounts.Mounter

/-! A kernel that lets the plugin mount and unmount nothing. The commands that mounting needs are
run by the host. -/

namespace VolumePlugin.Mounts.Kernel

open Host (Command CommandOutput Failure)

/-- What is mounted. -/
def table : List Entry :=
  [⟨"overlay", "/", "overlay"⟩, ⟨"proc", "/proc", "proc"⟩, ⟨"tmpfs", "/dev", "tmpfs"⟩,
    ⟨"sysfs", "/sys", "sysfs"⟩]

/-- The mount table as the kernel writes it. -/
def tableText : String :=
  "\n".intercalate (table.map (writeLine · "rw"))

/-- How a request is refused that names the given texts. A text that is handed to the kernel ends
with the null character, so no text that holds one can be handed over. -/
def refusal (texts : List String) : Failure :=
  if texts.any fun s => s.toList.contains (Char.ofNat 0) then ⟨"EINVAL: Invalid argument"⟩
  else ⟨"EPERM: Operation not permitted"⟩

/-- The texts that a wanted mount hands to the kernel. -/
def textsOf (wanted : Wanted) : List String :=
  wanted.source.toList ++ wanted.target :: wanted.fsType.toList ++ wanted.data.toList

variable {σ α : Type}

/-- The answer to a query, and the host after it, given how the host runs commands. -/
def answer (runCommand : Command → σ → Except Failure CommandOutput × σ) :
    (q : Query) → σ → q.Answer × σ
  | .run command, host => runCommand command host
  | .mount wanted, host => (.error (refusal (textsOf wanted)), host)
  | .unmount target, host => (.error (refusal [target]), host)
  | .table, host => (.ok tableText, host)

def run (runCommand : Command → σ → Except Failure CommandOutput × σ) (job : Job α) (host : σ) :
    Except CsiError α × σ :=
  Prog.run (answer runCommand) job host

end VolumePlugin.Mounts.Kernel
