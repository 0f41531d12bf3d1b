import Stepwise.Cli.Commands

namespace Stepwise.Terminal

/-- Does what a command line asks for, with the lines that were typed so far. While the program
    waits for another one, what it shows is shown, and a line is read. -/
partial def converse (clock : Cli.Clock) (args : List String) (w : Workstation)
    (typed : List String) (seen : Nat) : IO (Cli.Exit × Workstation) := do
  let (exit, after) := Cli.perform clock args { w with terminal := ⟨typed, ""⟩ }
  IO.print (String.ofList (after.terminal.shown.toList.drop seen))
  (← IO.getStdout).flush
  if exit == .stuck then
    let line ← (← IO.getStdin).getLine
    if !line.isEmpty then
      let typed := typed ++ (Terminal.ofInput (Text.plainLines line)).typed
      return ← converse clock args w typed after.terminal.shown.length
  return (exit, after)

end Stepwise.Terminal

namespace Stepwise.Disk

/-- Takes up a file, or a directory with all that is in it. Links to directories are not followed. -/
partial def gather (names : List String) (entry : IO.FS.DirEntry) (d : Disk) : IO Disk := do
  let names := names ++ [entry.fileName]
  match (← entry.path.symlinkMetadata).type with
  | .dir =>
    let mut d := { d with entries := (names, .directory) :: d.entries }
    for entry in ← entry.path.readDir do
      d ← gather names entry d
    return d
  | _ =>
    if ← entry.path.isDir then return d
    let bytes ← IO.FS.readBinFile entry.path
    return { d with entries := (names, .file bytes.toList) :: d.entries }

/-- The disk below the working directory. -/
def current : IO Disk := do
  let here ← IO.currentDir
  let cwd := Path.ofString here.toString
  let bare : Disk := ⟨cwd, []⟩
  let mut d := (bare.makeDirectory cwd).toOption.getD bare
  for entry in ← here.readDir do
    d ← gather cwd.names entry d
  return d

/-- Makes the files below the working directory what they became. -/
def commit (before after : Disk) : IO Unit := do
  for (names, entry) in after.entries do
    let path := Path.toString ⟨"/", names⟩
    match before.entries.lookup names, entry with
    | some (.file old), .file bytes =>
      if old != bytes then IO.FS.writeBinFile path (ByteArray.mk bytes.toArray)
    | _, .file bytes =>
      IO.FS.createDirAll (Path.toString ⟨"/", names.dropLast⟩)
      IO.FS.writeBinFile path (ByteArray.mk bytes.toArray)
    | none, .directory => IO.FS.createDirAll path
    | some _, .directory => pure ()
  for (names, entry) in before.entries do
    if entry matches .file _ then
      if (after.entries.lookup names).isNone then
        IO.FS.removeFile (Path.toString ⟨"/", names⟩)

end Stepwise.Disk

namespace Stepwise.Cli

/-- The variables of the process. -/
def environment : IO (List (String × String)) := do
  let bytes ← IO.FS.readBinFile "/proc/self/environ"
  return ((String.fromUTF8? bytes).getD "").splitOn "\x00" |>.filterMap fun setting =>
    match setting.splitOn "=" with
    | name :: value@(_ :: _) => some (name, "=".intercalate value)
    | _ => none

/-- The time at which a file is written now. -/
def Clock.current : IO Clock :=
  IO.FS.withTempFile fun _ path => do
    let stamp := (← path.metadata).modified
    return .ofMilliseconds (stamp.sec * 1000 + stamp.nsec.toNat / 1000000)

/-- Runs the program on the files of the working directory. -/
def start (args : List String) : IO UInt32 := do
  let clock ← Clock.current
  let disk ← Disk.current
  let w : Workstation := ⟨⟨[], ""⟩, ⟨disk, ← environment⟩, false, none⟩
  let (exit, after) ← Terminal.converse clock args w [] 0
  disk.commit after.machine.disk
  if let .crash kind := exit then IO.eprintln kind
  return exit.status.toUInt32

end Stepwise.Cli

def main (args : List String) : IO UInt32 := Stepwise.Cli.start args
