/-!
# Users

The users that a system has from its installation on. Nobody else logs in to it.
-/

namespace TestCursor

namespace Shell

structure User where
  name : String
  number : Nat
  group : Nat
  /-- What is said about the user. -/
  remark : String
  home : String
  shell : String
  deriving DecidableEq, Repr

namespace User

/-- The shell of those who cannot log in. -/
def closedShell : String := "/usr/sbin/nologin"

/-- A user for a service, which has a group of the same number. -/
def service (name : String) (number : Nat) (home : String) : User :=
  ⟨name, number, number, name, home, closedShell⟩

/-- The users of a new system. -/
def all : List User :=
  [⟨"root", 0, 0, "root", "/root", "/bin/bash"⟩,
   service "daemon" 1 "/usr/sbin", service "bin" 2 "/bin", service "sys" 3 "/dev",
   ⟨"sync", 4, 65534, "sync", "/bin", "/bin/sync"⟩,
   ⟨"games", 5, 60, "games", "/usr/games", closedShell⟩,
   ⟨"man", 6, 12, "man", "/var/cache/man", closedShell⟩,
   ⟨"lp", 7, 7, "lp", "/var/spool/lpd", closedShell⟩,
   service "mail" 8 "/var/mail", service "news" 9 "/var/spool/news",
   service "uucp" 10 "/var/spool/uucp", service "proxy" 13 "/bin",
   service "www-data" 33 "/var/www", service "backup" 34 "/var/backups",
   ⟨"list", 38, 38, "Mailing List Manager", "/var/list", closedShell⟩,
   ⟨"irc", 39, 39, "ircd", "/run/ircd", closedShell⟩,
   ⟨"_apt", 42, 65534, "", "/nonexistent", closedShell⟩,
   service "nobody" 65534 "/nonexistent"]

def find? (name : String) : Option User := all.find? fun user => user.name == name

def line (user : User) : String :=
  ":".intercalate
    [user.name, "x", toString user.number, toString user.group, user.remark, user.home,
     user.shell] ++ "\n"

end User

end Shell

end TestCursor
