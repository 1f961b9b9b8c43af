import JupyterWorkloads.Text.Armor
import JupyterWorkloads.Text.Instant

/-! What a configuration may use of the machine it is read on: files, commands that write something, and
the clock. -/
namespace JupyterWorkloads

open Text.Armor (Octets)

structure Machine where
  readFile : String → Option Octets
  /-- What the command with a name writes for its arguments, if it succeeds. -/
  run : String → List String → Option Octets
  /-- The seconds since the start of the year zero. -/
  now : Int

namespace Machine

/-- What is written where arguments are repeated: a space between them and a break at the end, unless the
first argument says to leave the break out. -/
def echoed (arguments : List String) : String :=
  match arguments with
  | "-n" :: rest => " ".intercalate rest
  | _ => " ".intercalate arguments ++ "\n"

/-- A machine with no more than a device that is always empty, a command that repeats its arguments, and a
clock that stands still. -/
def bare : Machine where
  readFile name := if name = "/dev/null" then some [] else none
  run name arguments :=
    if ["echo", "/bin/echo", "/usr/bin/echo"].contains name then
      some (Text.Armor.ofString (echoed arguments))
    else none
  now := (Text.Instant.ofText? "2026-01-01T00:00:00Z").getD 0

end Machine

end JupyterWorkloads
