import UsbHost.Command.Program

/-!
The command `usbh` over a simulated bus with one device. The files that a run can read are taken in
before it, and what it saved is written out after it.
-/

namespace UsbHost

def configPaths (arguments : List String) (surroundings : Surroundings) : List String :=
  let named :=
    match CommandLine.ofArguments arguments with
    | .ok line => line.config.toList.map fun path => Path.expandHome surroundings.home path
    | .error _ => []
  named ++ [Config.defaultPath surroundings, Config.systemPath]

def plant (path : String) (content : ByteArray) (tree : FileTree) : FileTree :=
  let above := ((Path.parent? path).getD "")
  match tree.makeDirectories above with
  | .error _ => tree
  | .ok grown => (grown.write path content).toOption.getD grown

def takeIn (tree : FileTree) (path : String) : IO FileTree := do
  try
    return plant path (← IO.FS.readBinFile path) tree
  catch _ => return tree

def writeOut (before after : FileTree) (path : String) : IO Unit := do
  match before.read path, after.read path with
  | .error _, .ok text => save text
  | .ok old, .ok text => if old != text then save text
  | _, .error _ => pure ()
where
  save (text : String) : IO Unit := do
    IO.FS.createDirAll ((Path.parent? path).getD "")
    IO.FS.writeFile path text

end UsbHost

open UsbHost in
def main (arguments : List String) : IO UInt32 := do
  let working := (Path.pieces (toString (← IO.currentDir))).filter (· != "")
  let surroundings : Surroundings :=
    { home := (← IO.getEnv "HOME").getD "/", configHome := ← IO.getEnv "XDG_CONFIG_HOME" }
  let paths := configPaths arguments surroundings
  let files ← paths.foldlM takeIn { working }
  let world : World :=
    { surroundings, logFilter := ← IO.getEnv "RUST_LOG", files, bus := { devices := [{}] } }
  let (ending, after) := Program.run arguments world
  IO.print ending.output
  IO.eprint ending.errors
  paths.forM (writeOut world.files after.files)
  return UInt32.ofNat ending.exitCode
