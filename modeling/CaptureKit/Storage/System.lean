import CaptureKit.Storage.FileTree

/-!
# What every system has

Besides the files of its user a host has the usual folders, a few settings, programs, and
devices that look like files.  Their content hardly matters here; that they are there does.
-/

namespace CaptureKit
namespace Storage

open Text

/-- A location spelled with slashes between its names. -/
def locationOf (spelled : String) : Location :=
  spelled.splitOn "/"

/-- The usual folders, each behind the one that holds it. -/
def systemFolders : List String :=
  ["boot", "dev", "dev/mqueue", "dev/pts", "dev/shm", "etc", "etc/alternatives", "etc/apt",
    "etc/default", "etc/init.d", "etc/skel", "etc/ssl", "home", "media", "mnt", "opt", "proc",
    "proc/1", "proc/bus", "proc/fs", "proc/irq",
    "proc/self", "proc/self/attr", "proc/self/fd", "proc/self/fdinfo", "proc/self/map_files",
    "proc/self/net", "proc/self/ns", "proc/self/task", "proc/sys", "proc/sys/kernel",
    "proc/sysvipc", "proc/tty", "root", "run", "run/lock", "srv", "sys",
    "sys/class", "sys/devices", "sys/fs", "sys/kernel", "tmp", "usr", "usr/bin", "usr/games",
    "usr/include", "usr/lib", "usr/lib64", "usr/libexec", "usr/local", "usr/local/bin",
    "usr/local/etc", "usr/local/games", "usr/local/include", "usr/local/lib", "usr/local/sbin",
    "usr/local/share", "usr/local/src", "usr/sbin", "usr/share", "usr/share/doc",
    "usr/share/man", "usr/src", "var", "var/backups", "var/cache", "var/lib", "var/local",
    "var/log", "var/mail", "var/opt", "var/spool", "var/tmp"]

/-- The usual links and their targets. -/
def systemLinks : List (String × String) :=
  [("bin", "usr/bin"), ("lib", "usr/lib"), ("lib64", "usr/lib64"), ("sbin", "usr/sbin"),
    ("dev/fd", "/proc/self/fd"), ("dev/stdin", "/proc/self/fd/0"),
    ("dev/stdout", "/proc/self/fd/1"), ("dev/stderr", "/proc/self/fd/2"),
    ("dev/core", "/proc/kcore"), ("etc/mtab", "/proc/mounts"),
    ("etc/os-release", "../usr/lib/os-release"), ("proc/mounts", "self/mounts"),
    ("proc/net", "self/net"), ("proc/thread-self", "self"), ("proc/self/exe", "/usr/bin/env"),
    ("proc/self/root", "/"), ("var/lock", "/run/lock"), ("var/run", "/run")]

/-- The usual devices. -/
def systemDevices : List (String × Device) :=
  [("dev/null", .null), ("dev/zero", .zeros), ("dev/random", .zeros), ("dev/urandom", .zeros),
    ("dev/full", .full), ("dev/tty", .terminal), ("proc/self/mem", .faulty),
    ("proc/self/fd/0", .stream 0 []), ("proc/self/fd/1", .stream 1 []),
    ("proc/self/fd/2", .stream 2 [])]

/-- The usual settings. -/
def systemFiles : List (String × String) :=
  [("etc/passwd", "root:x:0:0:root:/root:/bin/bash\n"), ("etc/group", "root:x:0:\n"),
    ("etc/shadow", "root:*:0:0:99999:7:::\n"), ("etc/hosts", "127.0.0.1\tlocalhost\n"),
    ("etc/hostname", "localhost\n"), ("etc/resolv.conf", "nameserver 127.0.0.1\n"),
    ("etc/fstab", "\n"), ("etc/profile", "\n"), ("etc/shells", "/bin/sh\n"),
    ("etc/issue", "Linux\n"), ("etc/debian_version", "12\n"), ("etc/environment", ""),
    ("etc/group-", "root:x:0:\n"), ("etc/gshadow", "root:*::\n"), ("etc/host.conf", "multi on\n"),
    ("etc/inputrc", "\n"), ("etc/issue.net", "Linux\n"), ("etc/ld.so.conf", "\n"),
    ("etc/login.defs", "\n"), ("etc/machine-id", "\n"), ("etc/networks", "\n"),
    ("etc/nsswitch.conf", "\n"), ("etc/passwd-", "root:x:0:0:root:/root:/bin/bash\n"),
    ("etc/bash.bashrc", "\n"), ("etc/protocols", "\n"), ("etc/services", "\n"),
    ("etc/timezone", "Etc/UTC\n"), ("root/.bashrc", "\n"), ("root/.profile", "\n"),
    ("proc/cmdline", "\n"), ("proc/cpuinfo", "\n"), ("proc/crypto", "\n"),
    ("proc/devices", "\n"), ("proc/diskstats", "\n"), ("proc/filesystems", "\n"),
    ("proc/interrupts", "\n"), ("proc/loadavg", "\n"), ("proc/meminfo", "\n"),
    ("proc/modules", "\n"), ("proc/partitions", "\n"), ("proc/stat", "\n"),
    ("proc/swaps", ""), ("proc/uptime", "\n"), ("proc/version", "Linux\n"),
    ("proc/vmstat", "\n"), ("proc/self/cgroup", "\n"), ("proc/self/cmdline", "\x00"),
    ("proc/self/comm", "program\n"), ("proc/self/environ", "\x00"), ("proc/self/io", "\n"),
    ("proc/self/limits", "\n"), ("proc/self/maps", "\n"), ("proc/self/mountinfo", "\n"),
    ("proc/self/mounts", "\n"), ("proc/self/oom_adj", "0\n"), ("proc/self/oom_score", "0\n"),
    ("proc/self/oom_score_adj", "0\n"), ("proc/self/smaps", "\n"), ("proc/self/stat", "\n"),
    ("proc/self/statm", "\n"), ("proc/self/status", "\n"), ("proc/self/wchan", "0"),
    ("proc/sys/kernel/hostname", "localhost\n"), ("proc/sys/kernel/ostype", "Linux\n"),
    ("usr/lib/os-release", "NAME=\"Linux\"\n")]

/-- Programs of a system that nothing here starts. -/
def systemPrograms : List String :=
  ["apt", "apt-get", "arch", "awk", "b2sum", "base32", "base64", "basenc", "bash", "chgrp",
    "chown", "chroot", "cksum", "clear", "csplit", "date", "dd", "df", "dircolors", "dpkg", "du",
    "egrep", "env", "expand", "expr", "factor", "fgrep", "file", "find", "fmt", "free", "getent",
    "getopt", "groups", "gunzip", "gzip", "hostid", "hostname", "iconv", "id", "install", "join",
    "kill", "ldd", "locale", "login", "logname", "lscpu", "mawk", "md5sum", "mkfifo", "mknod",
    "mktemp", "more", "mount", "nice", "nohup", "nproc", "numfmt", "od", "passwd", "pathchk",
    "perl", "pinky", "pr", "printenv", "ps", "ptx", "rbash", "run-parts", "script", "sed",
    "sha1sum", "sha224sum", "sha256sum", "sha384sum", "sha512sum", "shred", "shuf", "split",
    "stat", "stdbuf", "stty", "su", "sum", "tar", "tempfile", "timeout", "top", "tsort", "tty",
    "umount", "uname", "unexpand", "uptime", "users", "vdir", "w", "watch", "whereis", "who",
    "whoami", "xargs", "yes", "zcat", "zdiff", "zgrep"]

/-- The files of a system that nobody has used yet. -/
def FileTree.system : FileTree :=
  .ofEntries (systemFolders.map (fun folder => (locationOf folder, .folder)) ++
    systemLinks.map (fun link => (locationOf link.1, .link link.2)) ++
    systemDevices.map (fun device => (locationOf device.1, .device device.2)) ++
    systemFiles.map (fun file => (locationOf file.1, .file (encode file.2))))

/-- Where a program finds the folder that it works in. -/
def ownFolder : Location := ["proc", "self", "cwd"]

/-- The files as a program sees them that works in a folder. -/
def FileTree.workingIn
    (tree : FileTree)
    (folder : String) :
    FileTree :=
  if tree.get? ownFolder = some (.link folder) then tree
  else { tree with entries := putIn tree.entries ownFolder (.link folder) }

end Storage
end CaptureKit
