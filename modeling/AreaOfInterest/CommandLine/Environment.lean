import AreaOfInterest.Lookup.Reply

/-!
# The environment of the command line

What the commands need from where they run: files, the network and two streams of text. The commands are written
against this interface, so that they can be run on a computer or on a model of one.
-/

namespace AreaOfInterest.CommandLine

/-- The environment of a run. -/
structure Environment (m : Type → Type) where
  /-- Whether there is a file or a directory at a path. -/
  isPresent : String → m Bool
  /-- The text of a file, none when it cannot be read. -/
  read : String → m (Option String)
  /-- Writes a file and says whether that worked. -/
  write : String → String → m Bool
  /-- The answer to a request, none when nobody answers. -/
  fetch : LookupRequest → m (Option LookupReply)
  /-- Writes to the standard output. -/
  print : String → m Unit
  /-- Writes to the stream for messages. -/
  note : String → m Unit
  /-- The directory of the user's configuration files. -/
  configHome : m (Option String)
  /-- The directory of the user. -/
  home : m (Option String)

/-- The name of a file: the last part of its path. Empty parts and single dots do not count, and a path that ends
in two dots, or has no parts, goes by itself. -/
def fileName (path : String) : String :=
  match ((path.splitOn "/").filter fun part => part ≠ "" ∧ part ≠ ".").getLast? with
  | none | some ".." => path
  | some name => name

end AreaOfInterest.CommandLine
