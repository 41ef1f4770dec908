import Framelink.Bytes

/-!
# Device paths

What a path leads to when a serial device is looked for.  A path is walked name
by name: from the root or from the working directory, up for two points and
through links, until a name leads nowhere or further than to a directory.
-/

namespace Framelink
namespace Serial

/-- What a path leads to. -/
inductive PathTarget
  /-- The terminal. -/
  | terminal
  /-- A device or a file without line settings. -/
  | plainDevice
  /-- The node of a device that is not there. -/
  | absentDevice
  /-- The node of an input device, known to those who open it alone. -/
  | inputNode
  | directory
  /-- A name below something that is no directory. -/
  | belowDevice
  /-- A name longer than any file's. -/
  | tooLong
  /-- A path that cannot be one, for it holds a zero character. -/
  | malformed
  | nothing
  deriving DecidableEq, Repr

/-- What stands under a name in a directory. -/
inductive Place
  | directory
  /-- Another way to a directory. -/
  | link (directory : List String)
  /-- What is no directory. -/
  | leaf (target : PathTarget)
  deriving DecidableEq, Repr

namespace Place

/-- The places in a directory that are of one sort. -/
def within (directory : List String) (place : Place) (names : List String) :
    List (List String × Place) :=
  names.map fun name => (directory ++ [name], place)

/-- The places of the file system, each under the names that lead to it from the
root. -/
def all : List (List String × Place) :=
  within [] .directory
      ["dev", "tmp", "etc", "proc", "sys", "usr", "home", "root", "var", "run", "opt", "boot",
        "media", "mnt", "srv"] ++
    within ["dev"] .directory ["pts", "shm", "mqueue"] ++
    within ["dev"] (.leaf .plainDevice)
      ["null", "zero", "full", "random", "urandom", "stdin", "stdout", "stderr"] ++
    within ["etc"] .directory ["alternatives", "apt", "default", "init.d", "ssl"] ++
    within ["etc"] (.leaf .plainDevice)
      ["fstab", "group", "hostname", "hosts", "passwd", "resolv.conf", "shadow"] ++
    within ["proc"] .directory ["self", "net", "sys", "thread-self"] ++
    within ["proc", "self"] .directory ["fd", "fdinfo", "net", "ns", "task"] ++
    within ["proc", "self", "fd"] (.leaf .plainDevice) ["0", "1", "2"] ++
    within ["sys"] .directory
      ["block", "bus", "class", "dev", "devices", "firmware", "fs", "kernel", "module"] ++
    within ["sys", "class"] .directory ["tty"] ++
    within ["usr"] .directory
      ["bin", "games", "include", "lib", "local", "sbin", "share", "src"] ++
    within ["usr", "local"] .directory
      ["bin", "etc", "games", "include", "lib", "sbin", "share", "src"] ++
    within ["usr", "share"] .directory ["doc", "man"] ++
    within ["var"] .directory
      ["backups", "cache", "lib", "local", "log", "mail", "opt", "spool", "tmp"] ++
    within ["run"] .directory ["lock"] ++
    [(["dev", "tty"], .leaf .absentDevice), (["dev", "fd"], .link ["proc", "self", "fd"]),
      (["bin"], .link ["usr", "bin"]), (["sbin"], .link ["usr", "sbin"]),
      (["lib"], .link ["usr", "lib"]), (["lib64"], .link ["usr", "lib64"]),
      (["var", "run"], .link ["run"]), (["var", "lock"], .link ["run", "lock"])]

end Place

namespace PathTarget

/-- The path of the terminal. -/
def terminalPath : String := "PTY"

/-- The most octets that a name may have. -/
def longestName : Nat := 255

/-- The most octets that a path may have. -/
def longestPath : Nat := 4095

/-- Where paths start that do not start at the root. -/
def workingDirectory : List String := ["home", "work"]

/-- Walk names from a directory. -/
def walk : (here names : List String) → PathTarget
  | _, [] => .directory
  | here, name :: rest =>
      if name = "" ∨ name = "." then walk here rest
      else if name = ".." then walk here.dropLast rest
      else if longestName < name.utf8ByteSize then .tooLong
      else
        match Place.all.lookup (here ++ [name]) with
        | none => .nothing
        | some .directory => walk (here ++ [name]) rest
        | some (.link target) => walk target rest
        | some (.leaf target) => if rest.isEmpty then target else .belowDevice

/-- What a path leads to. -/
def ofPath (path : String) : PathTarget :=
  if path = terminalPath then .terminal
  else if path.contains (Char.ofNat 0) then .malformed
  else if longestPath < path.utf8ByteSize then .tooLong
  else if path = "" then .nothing
  else walk (if path.startsWith "/" then [] else workingDirectory) (path.splitOn "/")

end PathTarget
end Serial
end Framelink
