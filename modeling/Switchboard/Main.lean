import Switchboard.Command.Run

/-!
# The program

The program looks up its variables and the files that it uses, runs, writes the files
that have changed, and prints.  There is no network for it to dial into.
-/

namespace Switchboard
namespace Program

/-- A place as the operating system spells it. -/
def spell (place : Place) : String :=
  "/" ++ "/".intercalate (place.map Text.decodeLossy)

/-- A path from the root as a place. -/
def placeOf (path : String) : Place :=
  (FileTree.bare []).placeOf (Text.octets path)

/-- The tree with what there is at a place. -/
def look (files : FileTree) (place : Place) : IO FileTree := do
  try
    let content ← IO.FS.readBinFile (spell place)
    return files.put place (.file content.toList)
  catch
    | .inappropriateType _ code _ =>
        if code.toNat = SystemFault.isDirectory.number then
          return files.put place .directory
        else
          return files
    | _ => return files

/-- The variables that the program reads. -/
def readEnvironment : IO Environment :=
  [Command.configVariable, Command.logVariable, debugVariable].foldlM
    (fun known name => do
      match ← IO.getEnv name with
      | some value => return known.set name (Text.octets value)
      | none => return known)
    .empty

/-- The host with what there is on the ways that arguments lead. -/
def survey (host : Command.Host) (arguments : List Text.Octets) : IO Command.Host := do
  let places := (Command.paths host arguments).flatMap host.files.way
  return { host with files := ← places.foldlM look host.files }

end Program
end Switchboard

open Switchboard in
/-- The configuration is looked up first and then the files that it names. -/
def main (arguments : List String) : IO UInt32 := do
  let octets := arguments.map Text.octets
  let current := Program.placeOf (toString (← IO.currentDir))
  let start : Command.Host :=
    ⟨← Program.readEnvironment, .bare current, .isolated⟩
  let host ← Program.survey (← Program.survey start octets) octets
  let exit := Command.run host octets
  for (place, content) in host.files.written exit.files do
    IO.FS.writeBinFile (Program.spell place) ⟨content.toArray⟩
  IO.print exit.output
  IO.eprint exit.complaints
  return .ofNat exit.code
