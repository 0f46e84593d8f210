import VolumePlugin.Host.FileTree

/-! The files of a bare host: what there is before anything is put on it. -/

namespace VolumePlugin.Host.Bare

def directories : List String :=
  ["/boot", "/dev", "/dev/mqueue", "/dev/pts", "/dev/shm", "/etc", "/home", "/media", "/mnt",
    "/opt", "/proc", "/proc/self", "/proc/self/fd", "/root", "/run", "/run/lock", "/srv", "/sys",
    "/tmp", "/usr", "/usr/bin", "/usr/games", "/usr/include", "/usr/lib", "/usr/lib64",
    "/usr/libexec", "/usr/local", "/usr/local/bin", "/usr/local/lib", "/usr/local/sbin",
    "/usr/local/share", "/usr/sbin", "/usr/share", "/usr/src", "/var", "/var/backups",
    "/var/cache", "/var/lib", "/var/local", "/var/log", "/var/mail", "/var/opt", "/var/spool",
    "/var/tmp"]

/-- The links, each with what it leads to. -/
def links : List (String × String) :=
  [("/bin", "usr/bin"), ("/lib", "usr/lib"), ("/lib64", "usr/lib64"), ("/sbin", "usr/sbin"),
    ("/dev/fd", "/proc/self/fd"), ("/dev/stdin", "/proc/self/fd/0"),
    ("/dev/stdout", "/proc/self/fd/1"), ("/dev/stderr", "/proc/self/fd/2"),
    ("/etc/mtab", "/proc/mounts"), ("/proc/mounts", "self/mounts"), ("/var/lock", "/run/lock"),
    ("/var/run", "/run")]

/-- What is neither a directory nor a link nor a program. -/
def plainFiles : List String :=
  ["/dev/full", "/dev/null", "/dev/random", "/dev/tty", "/dev/urandom", "/dev/zero",
    "/etc/fstab", "/etc/group", "/etc/hostname", "/etc/hosts", "/etc/os-release", "/etc/passwd",
    "/etc/profile", "/etc/resolv.conf", "/etc/shadow", "/proc/cpuinfo", "/proc/meminfo",
    "/proc/uptime", "/proc/version", "/proc/self/fd/0", "/proc/self/fd/1", "/proc/self/fd/2",
    "/proc/self/mounts", "/proc/self/status"]

def programDirectory : List String := ["usr", "bin"]

def programs : List String :=
  ["cat", "echo", "false", "head", "printf", "sh", "sleep", "true", "wc"]

/-- The directories in which only the kernel makes anything. -/
def kernelDirectories : List (List String) := [["proc"]]

def files : FileTree where
  entries :=
    directories.map (fun path => (FileTree.names path, .directory)) ++
    links.map (fun l => (FileTree.names l.1, .link l.2)) ++
    plainFiles.map (fun path => (FileTree.names path, .file "")) ++
    programs.map (fun name => (programDirectory ++ [name], .file ""))
  closed := kernelDirectories

end VolumePlugin.Host.Bare
