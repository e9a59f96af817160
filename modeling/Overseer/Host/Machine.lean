import Overseer.Host.Platform
import Overseer.Tools.Catalogue

/-!
# A machine

A host with the usual directories, devices and programs, on which nothing runs yet.

## Main definitions

* `systemFiles` — its files
* `systemEnvironment` — the environment of its processes
* `machine` — the host
-/

namespace Overseer.Host

open Overseer.Os

/-- The directories of a fresh machine. -/
def systemDirectories : List String :=
  ["usr", "usr/bin", "usr/sbin", "usr/lib", "usr/local", "usr/local/bin", "usr/local/sbin",
    "usr/share", "dev", "dev/fd", "etc", "home", "mnt", "opt", "proc", "proc/self", "root", "run",
    "srv", "sys", "tmp", "var", "var/log", "var/tmp", "work"]

/-- The links of a fresh machine. -/
def systemLinks : List (String × String) :=
  [("bin", "usr/bin"), ("sbin", "usr/sbin"), ("lib", "usr/lib"), ("usr/bin/sh", "dash")]

/-- The users of a fresh machine. -/
def users : String :=
  "root:x:0:0:root:/root:/bin/bash\nnobody:x:65534:65534:nobody:/nonexistent:/usr/sbin/nologin\n"

/-- The files of a fresh machine: their paths, contents and permission bits. -/
def systemTexts : List (String × String × Nat) :=
  [("etc/passwd", users, 0o644), ("etc/group", "root:x:0:\n", 0o644),
    ("etc/hostname", "localhost\n", 0o644), ("etc/hosts", "127.0.0.1 localhost\n", 0o644),
    ("proc/self/mem", "", 0o600), ("proc/uptime", "1.00 1.00\n", 0o444)]

/-- The devices of a fresh machine. -/
def systemDevices : List (String × Device) :=
  [("dev/null", .null), ("dev/zero", .zero), ("dev/full", .full)]

/-- The place of a path text that begins at the root. -/
def placeOf (text : String) : Path := (text.toList.splitOn '/').map String.ofList

/-- The names of all programs. -/
def programNames : List String :=
  (Tools.shells.map (·.1)).filter (· != "sh") ++ Tools.tools.map (·.1)

/-- The files of a fresh machine. -/
def systemFiles : FileTree :=
  let nodes := systemDirectories.map (fun d => (placeOf d, Node.directory)) ++
    systemLinks.map (fun (p, target) => (placeOf p, Node.link target)) ++
    systemDevices.map (fun (p, d) => (placeOf p, Node.device d)) ++
    programNames.map (fun name => (["usr", "bin", name], Node.program name))
  systemTexts.foldl (fun t (path, text, mode) =>
    { t with
      nodes := t.nodes ++ [(placeOf path, .file t.nextFile)]
      files := (t.nextFile, { bytes := bytesOf text, mode }) :: t.files
      nextFile := t.nextFile + 1 }) { nodes }

/-- The directory that processes of a fresh machine start in. -/
def startDirectory : Path := ["work"]

/-- The environment of processes of a fresh machine. -/
def systemEnvironment : Variables :=
  [("HOME", "/root"), ("LC_ALL", "C"),
    ("PATH", "/usr/local/sbin:/usr/local/bin:/usr/sbin:/usr/bin:/sbin:/bin"),
    ("PWD", startDirectory.text)]

/-- A fresh machine. -/
def machine : World :=
  (systemFiles, {
    directory := startDirectory, environment := systemEnvironment, loader := Tools.loader })

end Overseer.Host
