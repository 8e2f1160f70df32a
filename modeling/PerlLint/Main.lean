import PerlLint.Host.Files
import PerlLint.Session.Stream

/-!
# The program

The outer layer.  It reads the arguments, the files and the input, hands them to
the library, and prints what the library gives.  Nothing is decided here.

Only the files that may matter are read: configuration files, the files under whose
names the critic may be found, and the files that are checked.  A file counts as a
program if it starts like a script.
-/

namespace PerlLint.Terminal

open Host

/-! ## Files -/

/-- Whether a content starts like a script. -/
def isScript (content : ByteArray) : Bool := content[0]? == some 0x23 && content[1]? == some 0x21

/-- Adds what stands at a path to the files. -/
def addPath (r : Runner) (fs : Files) (path : String) : IO Files := do
  let l := Files.walkFreely r.here path
  let place := (← IO.currentDir) / path
  if ← place.isDir then return fs.makeDirectories l
  match ← (IO.FS.readBinFile place).toBaseIO with
  | .ok content => return fs.write l content.toList (isScript content)
  | .error _ => return fs

/-- Adds what stands at some paths to the files. -/
def addPaths (r : Runner) (paths : List String) (fs : Files) : IO Files :=
  paths.foldlM (addPath r) fs

/-- The runner of the current directory. -/
def currentRunner : IO Runner := do
  let search := (← IO.getEnv "PATH").getD ""
  return ⟨Files.walkFreely [] (← IO.currentDir).toString,
    (Text.splitOn [':'] search.toList).map String.ofList⟩

/-- The paths that matter for a configuration. -/
def criticPaths (r : Runner) (c : Config) : List String :=
  let dir := (c.workingDirectory? none).getD (Files.pathOf r.here)
  dir :: candidates r.search dir c.executable

/-! ## Checking -/

/-- Carries out a request to check files. -/
def check (r : Runner) (q : CheckRequest) : IO UInt32 := do
  let fs ← addPaths r (q.config.toList ++ Config.fileNames) (systemFiles.makeDirectories r.here)
  let fs ← match CheckRequest.loadConfig r fs q.config with
    | .ok c => addPaths r (criticPaths r c ++ q.files) fs
    | .error _ => pure fs
  match q.perform r fs with
  | .ok finish =>
      IO.print finish.stdout
      return finish.status.toUInt32
  | .error e =>
      IO.eprintln e.message
      return 2

/-! ## Serving -/

/-- Reads bytes until there are `size`, or the input ends. -/
partial def readBytes (input : IO.FS.Stream) (size : Nat) (bytes : ByteArray) : IO ByteArray := do
  if size ≤ bytes.size then return bytes
  let more ← input.read (size - bytes.size).toUSize
  if more.isEmpty then return bytes
  readBytes input size (bytes ++ more)

/-- Reads the text of a frame, whose header has announced `size` so far. -/
partial def readFrame? (input : IO.FS.Stream) (size : Option Nat) : IO (Option String) := do
  let line ← input.getLine
  if line.isEmpty then return none
  if line.trimAscii.isEmpty then
    match size with
    | some n =>
        let bytes ← readBytes input n .empty
        return some (String.ofList (Text.Utf8.decodeLossy bytes.toList))
    | none => readFrame? input none
  else readFrame? input ((Session.announcedSize? line).or size)

/-- The files as they are when a message comes. -/
def filesFor (r : Runner) (s : Session) (text : String) : IO Files := do
  let named := s.server.root.toList ++ Session.pathsNamed text
  let configs := named.flatMap fun dir => Config.fileNames.map (joinPath dir)
  addPaths r (named ++ configs ++ criticPaths r s.server.config)
    (systemFiles.makeDirectories r.here)

/-- Serves an editor until it says goodbye or its messages end. -/
partial def serve (r : Runner) (s : Session) (input output : IO.FS.Stream) : IO Unit := do
  match ← readFrame? input none with
  | none => return
  | some text =>
      let (sent, s) := { s with files := ← filesFor r s text }.receiveText r text
      for v in sent do
        output.putStr (Session.frame v)
      output.flush
      unless s.isExited do serve r s input output

/-! ## Arguments -/

/-- Carries out a command line, and gives the exit status. -/
def run (args : List String) : IO UInt32 := do
  let r ← currentRunner
  match Request.ofArguments? args with
  | some (.check q) => check r q
  | some .serve =>
      serve r (.new .empty) (← IO.getStdin) (← IO.getStdout)
      return 0
  | some q =>
      IO.print (q.run r .empty ⟨0, ""⟩).stdout
      return 0
  | none =>
      IO.eprint usageText
      return 2

end PerlLint.Terminal

/-- The program. -/
def main (args : List String) : IO UInt32 := PerlLint.Terminal.run args
