import Expurgate.Command.Needs

/-!
The command line program: looks at what a request needs, runs it, and writes what comes out.
-/

namespace Expurgate

/-- What stands at a path now, as a part of a tree of files. -/
def lookAt (folder : Location) (path : String) : IO FileTree := do
  let l := locationOf folder path
  let here ← IO.currentDir
  let folderOf (l : Location) : IO (List Location) := do
    return if ← (here / pathOf l).isDir then [l] else []
  try
    let bytes ← IO.FS.readBinFile (here / pathOf l)
    let content := match decodeText bytes.toList with
      | some s => FileContent.text s
      | none => .bytes
    return ⟨[(l, content)], []⟩
  catch _ =>
    return ⟨[], (← folderOf l) ++ (← folderOf l.dropLast)⟩

/-- What a generator draws from a seed: each number is drawn after all the earlier ones. A run takes
all its draws from this, and so the seed is enough to repeat it. -/
def drawFrom (seed : Nat) (past : List Nat) : Nat :=
  (past.foldl (fun (_, g) n => randNat g 0 (n - 1)) (0, mkStdGen seed)).1

/-- The world as far as a request looks at it. What it holds was asked for before the run, so the
run itself is a function of it. -/
def lookAround (i : Invocation) : IO World := do
  let home ← IO.getEnv "HOME"
  let configFolder := (← IO.getEnv "XDG_CONFIG_HOME").or (home.map (joinPath · ".config"))
  let folder := locationOf [] (← IO.currentDir).toString
  let parts ← (i.files home configFolder).mapM (lookAt folder)
  let stdin ← if i.command.readsStdin then (← IO.getStdin).readBinToEnd else pure .empty
  let input := World.plain stdin.toList
    ⟨parts.flatMap (·.files), parts.flatMap (·.folders)⟩
  return { input with
    folder := folder
    home := home
    configFolder := configFolder
    logText := allowsText (← IO.getEnv "TERMFILTER_ALLOW_DEBUG_TEXT")
    draws := drawFrom (← IO.rand 0 0x100000000)
    seeded := drawFrom
    stdoutTerminal := ← (← IO.getStdout).isTty
    stderrTerminal := ← (← IO.getStderr).isTty }

def finish (r : RunResult) : IO UInt32 := do
  for entry in r.log do
    IO.eprintln s!"[DEBUG] {entry}"
  IO.print r.stdout
  IO.eprint r.stderr
  match r.saved with
  | none => pure ()
  | some (l, s) => IO.FS.writeFile (pathOf l) s
  return UInt32.ofNat r.code

def runHere (args : List String) : IO UInt32 := do
  match asked args with
  | .run i => finish (runInvocation (← lookAround i) i)
  | .version | .help | .unclear => finish (run (.plain [] ⟨[], []⟩) args)

end Expurgate

def main (args : List String) : IO UInt32 := Expurgate.runHere args
