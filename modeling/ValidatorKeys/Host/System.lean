import ValidatorKeys.Shell.Startup
import ValidatorKeys.Utility.Table

/-!
# What every system has

The files that are there before any others: directories, devices, and the programs that are known by
name.  The same programs stand in both directories of programs.
-/

namespace ValidatorKeys.Host

open Kernel (Bytes Behaviour Image Work)

/-! ## Programs -/

/-- The names of shells in directories, each with the program that it is. -/
def shells : List (String × String) :=
  [("sh", "sh"), ("dash", "sh"), ("bash", "bash"), ("rbash", "bash")]

def knownPrograms : List (String × String) :=
  shells ++ Utility.table.map fun u => (u.1, u.1)

/-- What a program does that is known by name. -/
def load (i : Image) : Behaviour :=
  let name := i.arguments.headD []
  let args := i.arguments.tail
  let w : Work Unit :=
    if i.program = "sh" then Shell.shell .plain name args
    else if i.program = "bash" then Shell.shell .extended name args
    else
      match Utility.find? i.program with
      | some act => Utility.runAs name (act args)
      | none => pure ()
  w fun _ => .ended (.exited 0)

/-! ## Files -/

def programDirectories : List String := ["/usr/bin", "/bin"]

/-- The other directories. -/
def directories : List String :=
  ["/dev/pts", "/dev/shm", "/etc/init.d", "/etc/opt", "/etc/profile.d", "/home", "/lib", "/lib64",
    "/media", "/mnt", "/opt", "/proc", "/root", "/run/lock", "/sbin", "/srv", "/sys", "/tmp",
    "/usr/games", "/usr/include", "/usr/lib", "/usr/lib64", "/usr/libexec", "/usr/local/bin",
    "/usr/local/etc", "/usr/local/lib", "/usr/local/sbin", "/usr/local/share", "/usr/sbin",
    "/usr/share", "/usr/src", "/var/backups", "/var/cache", "/var/lib", "/var/log", "/var/mail",
    "/var/opt", "/var/spool", "/var/tmp"]

/-- The devices, and the names of open streams. -/
def devices : List (String × Node) :=
  [("null", .nullDevice), ("zero", .zeroDevice), ("full", .fullDevice), ("stdin", .stream 0),
    ("stdout", .stream 1), ("stderr", .stream 2)] ++
    (List.range 10).map fun n => ("fd/" ++ n.repr, .stream n)

def users : String :=
  "root:x:0:0:root:/root:/bin/bash\n" ++
  "daemon:x:1:1:daemon:/usr/sbin:/usr/sbin/nologin\n" ++
  "bin:x:2:2:bin:/bin:/usr/sbin/nologin\n" ++
  "sys:x:3:3:sys:/dev:/usr/sbin/nologin\n" ++
  "sync:x:4:65534:sync:/bin:/bin/sync\n" ++
  "nobody:x:65534:65534:nobody:/nonexistent:/usr/sbin/nologin\n"

/-- The tree that holds only what every system has, with the directory `cwd`. -/
def systemTree (cwd : String) : FileTree :=
  let put (t : FileTree) (path : String) (n : Node) : FileTree := t.put cwd path n
  let t : FileTree := programDirectories.foldl (fun t dir =>
    knownPrograms.foldl (fun t p => put t (Path.join dir p.1) (.program p.2)) t) {}
  let t := directories.foldl (fun t dir => put t dir (.directory 0o755)) t
  let t := devices.foldl (fun t d => put t (Path.join "/dev" d.1) d.2) t
  let t := put t "/etc/passwd" (.file users.toUTF8 0o644)
  put t cwd (.directory 0o755)

end ValidatorKeys.Host
