import SiteGate.CommandLine.Tool

/-!
# The configuration tool as a program

Takes over into a tree what lies at the paths that the tool looks at, runs the tool on the tree, and
gives what it has changed back to the file system. A file that was there before is replaced by way
of the swap file.
-/

set_option autoImplicit false

namespace SiteGate.Program

open CommandLine (Outcome)
open Config (Layout)

/-- The paths of a layout and those that they lead through. -/
def pathsOf (l : Layout) : List Path := (l.directories ++ l.files).flatMap Path.beginnings

/-- The layout that the words after the tool's name ask for. -/
def layoutOf (words : List Text) : Option Layout :=
  let tool := CommandLine.Tool.tool
  ((tool.read words).bind fun call => call.own.finish tool).toOption.map fun own =>
    Layout.ofRoot (CommandLine.Tool.rootOf own)

/-- Takes over what a path leads to. -/
def takeOver (t : Tree) (p : Path) : IO Tree := do
  let place := (← IO.currentDir) / String.ofList p
  if ← place.isDir then return (t.makeDirectories p).2
  else
    match ← (IO.FS.readBinFile place).toBaseIO with
    | .ok content => return (t.write p content.toList).toOption.getD t
    | .error _ => return t

/-- Gives back what a path leads to, if it is not what it was before. -/
def giveBack (l : Layout) (before after : Tree) (p : Path) : IO Unit := do
  let name := String.ofList p
  let old := (before.node p).toOption
  let new := (after.node p).toOption
  if old = new then return
  match new with
  | none => IO.FS.removeFile name
  | some .directory => IO.FS.createDirAll name
  | some (.file content) =>
    let bytes := ByteArray.mk content.toArray
    if old.isSome then
      let swap := String.ofList l.swapFile
      IO.FS.writeBinFile swap bytes
      IO.FS.rename swap name
    else IO.FS.writeBinFile name bytes

/-- Runs the tool on the paths of a layout. -/
def runAt (l : Layout) (words : List Text) : IO Outcome := do
  let before ← (pathsOf l).foldlM takeOver Tree.empty
  let outcome := CommandLine.Tool.run before words
  for p in pathsOf l do giveBack l before outcome.files p
  return outcome

end SiteGate.Program

open SiteGate in
/-- Runs the configuration tool. -/
def main (args : List String) : IO UInt32 := do
  let words := args.map String.toList
  let outcome ←
    match Program.layoutOf words with
    | some l => Program.runAt l words
    | none => pure (CommandLine.Tool.run Tree.empty words)
  IO.print (String.ofList outcome.output)
  IO.eprint (String.ofList outcome.errors)
  return UInt32.ofNat outcome.code
