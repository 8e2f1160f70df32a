import PerlLint.Table
import PerlLint.Text.Basic

/-!
# Files and programs

A path is a text with slashes between its components.  It is absolute if it
starts with a slash.  What a path means depends on the directory from which it
is seen, and is decided by the file tree.

The files of a machine are a table from locations to nodes.  A *location* is the
list of names on the way from the root, the last one first, so the location of
the directory around is the tail.  The root is the empty list, and always a
directory.  A path leads to a location by walking it name by name from the
directory from which it is seen (`locate`).  On the way everything has to be a
directory.

A program is named by a path or by a bare name.  A name with more than one
component is a path, and it is seen from the directory that is given; neither is
its spelling changed nor is it made absolute any further, so the result is relative
if the directory is.  A bare name is looked for in the directories of the search
path, one after the other.  In both cases what is found has to be a regular file
that may be executed.

A program on the machine runs for a while and then ends with a result.  In
between it may sleep, and while it sleeps others may change the files.  An
activity is the course of such a program.  It is either done, or asleep: then it
has left the files in some state, and goes on with the files as they are when it
wakes up.

`Activity.wakeAll` runs an activity to its end as if nobody else were there.  The
number of times that it may sleep is bounded.
-/

namespace PerlLint.Host

/-! ## Paths -/

/-- Whether a path starts with a slash. -/
def isAbsolute (path : String) : Bool := path.toList.head? == some '/'

/-- The path of `name` seen from the directory `dir`. -/
def joinPath (dir name : String) : String :=
  if isAbsolute name || dir.isEmpty then name
  else if dir.toList.getLast? == some '/' then dir ++ name
  else dir ++ "/" ++ name

/-- The texts between slashes. -/
def steps (path : String) : List String :=
  (Text.splitOn ['/'] path.toList).map String.ofList

/-- The components of a path that count.  Empty ones do not, and a single dot
counts only in front of a relative path. -/
def components (path : String) : List String :=
  match steps path with
  | "." :: rest => "." :: rest.filter fun c => c != "" && c != "."
  | all =>
      (if isAbsolute path then ["/"] else []) ++ all.filter fun c => c != "" && c != "."

/-! ## Nodes -/

/-- The utilities that a machine may have installed. -/
inductive Utility where
  | sh | cat | head | tail | tr | seq | wc | sleep | touch | rm | mkdir
  | echo | printf | pwd | test | true | false | ls | env | grep | sort
  | basename | dirname | expr | chmod | cp | mv | tee
deriving Repr, DecidableEq

/-- The devices that behave like files. -/
inductive Device where
  /-- Takes everything and holds nothing. -/
  | null
  /-- Holds zeros without end. -/
  | zero
deriving Repr, DecidableEq

/-- What may stand at a location. -/
inductive Node where
  | directory
  /-- A file, and whether it may be executed. -/
  | file (content : List UInt8) (executable : Bool)
  /-- An installed utility. -/
  | utility (u : Utility)
  | device (d : Device)
deriving Repr, DecidableEq

/-- A location: the names from the root, the last one first. -/
abbrev Location := List String

/-- The files of a machine. -/
structure Files where
  /-- The nodes by location. -/
  nodes : Table Location Node

/-! ## Faults -/

/-- Why a path cannot be used. -/
inductive FileFault where
  /-- There is no such file. -/
  | missing
  /-- A file stands where a directory has to. -/
  | notDirectory
  /-- A directory stands where a file has to. -/
  | isDirectory
  /-- A name is too long. -/
  | tooLong
  /-- The path holds a NUL. -/
  | nul
deriving Repr, DecidableEq

/-- The wording of a fault. -/
def FileFault.message : FileFault → String
  | missing => "No such file or directory (os error 2)"
  | notDirectory => "Not a directory (os error 20)"
  | isDirectory => "Is a directory (os error 21)"
  | tooLong => "File name too long (os error 36)"
  | nul => "file name contained an unexpected NUL byte"

namespace Files

/-! ## Looking up -/

/-- A tree with a root only. -/
def empty : Files := ⟨.empty⟩

/-- The node at a location. -/
def node? (fs : Files) : Location → Option Node
  | [] => some .directory
  | l => fs.nodes.get? l

/-- Whether a directory stands at a location. -/
def isDirectoryAt (fs : Files) (l : Location) : Bool := fs.node? l == some .directory

/-- The greatest length of a name, in bytes. -/
def nameBound : Nat := 255

/-- The length that paths stay below, in bytes. -/
def pathBound : Nat := 4096

/-- Walks names from a directory on.  The last one has to exist only if `strict`
says so. -/
def walk (fs : Files) (strict : Bool) (here : Location) :
    List String → Except FileFault Location
  | [] => .ok here
  | name :: rest =>
      if !fs.isDirectoryAt here then .error .notDirectory
      else if name = "" ∨ name = "." then walk fs strict here rest
      else if name = ".." then walk fs strict here.tail rest
      else if nameBound < name.utf8ByteSize then .error .tooLong
      else
        let there := name :: here
        if (fs.node? there).isSome || (rest.isEmpty && !strict) then walk fs strict there rest
        else .error .missing
termination_by structural names => names

/-- The location to which a path leads from the directory `here`. -/
def resolve (fs : Files) (strict : Bool) (here : Location) (path : String) :
    Except FileFault Location :=
  if path.isEmpty then .error .missing
  else if path.toList.contains '\x00' then .error .nul
  else if pathBound ≤ path.utf8ByteSize then .error .tooLong
  else walk fs strict (if isAbsolute path then [] else here) (steps path)

/-- The location to which a path leads if all of it exists. -/
def walkFreely (here : Location) (path : String) : Location :=
  (steps path).foldl (fun l name =>
    if name = "" ∨ name = "." then l else if name = ".." then l.tail else name :: l)
    (if isAbsolute path then [] else here)

/-- The location of something that exists. -/
def locate (fs : Files) (here : Location) (path : String) : Except FileFault Location :=
  fs.resolve true here path

/-- The node to which a path leads. -/
def lookUp (fs : Files) (here : Location) (path : String) : Except FileFault Node := do
  match fs.node? (← fs.locate here path) with
  | some n => .ok n
  | none => .error .missing

/-- The content of a node.  The content of a utility is of no interest, except
that it is no text. -/
def content : Node → Except FileFault (List UInt8)
  | .directory => .error .isDirectory
  | .file bytes _ => .ok bytes
  | .utility _ => .ok [0x7F, 0x45, 0x4C, 0x46, 0xFF]
  | .device _ => .ok []

/-- The content of the file to which a path leads. -/
def read (fs : Files) (here : Location) (path : String) : Except FileFault (List UInt8) := do
  content (← fs.lookUp here path)

/-- Whether a path leads to anything. -/
def exists? (fs : Files) (here : Location) (path : String) : Bool :=
  (fs.locate here path).toOption.isSome

/-- Whether a node is a regular file. -/
def isRegular : Node → Bool
  | .file _ _ | .utility _ => true
  | _ => false

/-- Whether a path leads to a regular file. -/
def isFile (fs : Files) (here : Location) (path : String) : Bool :=
  match fs.lookUp here path with
  | .ok n => isRegular n
  | .error _ => false

/-- Whether a node is a regular file that may be executed. -/
def isExecutable : Node → Bool
  | .file _ executable => executable
  | .utility _ => true
  | _ => false

/-- Whether a path leads to a program. -/
def isProgram (fs : Files) (here : Location) (path : String) : Bool :=
  match fs.lookUp here path with
  | .ok n => isExecutable n
  | .error _ => false

/-- The absolute path of a location. -/
def pathOf : Location → String
  | [] => "/"
  | l => String.ofList (l.reverse.flatMap fun name => '/' :: name.toList)

/-! ## Changing -/

/-- Puts a node at a location. -/
def put (fs : Files) (l : Location) (n : Node) : Files := ⟨fs.nodes.set l n⟩

/-- Makes the directories from the root down to a location. -/
def makeDirectories (fs : Files) : Location → Files
  | [] => fs
  | name :: around =>
      let fs := fs.makeDirectories around
      if (fs.node? (name :: around)).isSome then fs else fs.put (name :: around) .directory
termination_by structural l => l

/-- Writes a file, and makes the directories around it. -/
def write (fs : Files) (l : Location) (content : List UInt8) (executable : Bool) : Files :=
  (fs.makeDirectories l.tail).put l (.file content executable)

/-- Changes the content of a file that is there, or makes one. -/
def setContent (fs : Files) (l : Location) (content : List UInt8) : Files :=
  match fs.node? l with
  | some (.file _ executable) => fs.put l (.file content executable)
  | none => fs.put l (.file content false)
  | _ => fs

/-- Lets a file be executed, or not. -/
def setExecutable (fs : Files) (l : Location) (executable : Bool) : Files :=
  match fs.node? l with
  | some (.file content _) => fs.put l (.file content executable)
  | _ => fs

/-- Removes what stands at a location. -/
def remove (fs : Files) (l : Location) : Files := ⟨fs.nodes.erase l⟩

/-- The locations at or below a location. -/
def below (fs : Files) (l : Location) : List Location :=
  (fs.nodes.entries.map Prod.fst).filter l.isSuffixOf

/-- Removes everything at or below a location. -/
def removeTree (fs : Files) (l : Location) : Files := (fs.below l).foldl remove fs

/-- The names in a directory. -/
def names (fs : Files) (l : Location) : List String :=
  (fs.nodes.entries.map Prod.fst).filterMap fun k =>
    match k with
    | name :: around => if around = l then some name else none
    | [] => none

end Files

/-- A small tree: a file `f` in a directory `d`. -/
def sampleFiles : Files := Files.empty.write ["f", "d"] [1] false

/-! ## Looking up programs -/

/-- The paths under which a program may be found. -/
def candidates (search : List String) (dir program : String) : List String :=
  if 1 < (components program).length then [joinPath dir program]
  else search.map fun entry => joinPath entry program

/-- The path under which a program is found.  The candidates are seen from
`here`. -/
def findProgram? (fs : Files) (here : Location) (search : List String) (dir program : String) :
    Option String :=
  (candidates search dir program).find? fun path => fs.isProgram here path

/-! ## A machine with utilities

Nothing is installed on it but the utilities that a script may call. -/

/-- The utilities and their names. -/
def utilityNames : List (String × Utility) :=
  [("sh", .sh), ("dash", .sh), ("bash", .sh), ("cat", .cat), ("head", .head), ("tail", .tail),
    ("tr", .tr), ("seq", .seq), ("wc", .wc), ("sleep", .sleep), ("touch", .touch), ("rm", .rm),
    ("mkdir", .mkdir), ("echo", .echo), ("printf", .printf), ("pwd", .pwd), ("test", .test),
    ("[", .test), ("true", .true), ("false", .false), ("ls", .ls), ("env", .env),
    ("grep", .grep), ("sort", .sort), ("basename", .basename), ("dirname", .dirname),
    ("expr", .expr), ("chmod", .chmod), ("cp", .cp), ("mv", .mv), ("tee", .tee)]

/-- The directories that hold the utilities. -/
def utilityDirectories : List Location := [["bin", "usr"], ["bin"]]

/-- The directories that are there. -/
def systemDirectories : List Location :=
  [["bin", "local", "usr"], ["tmp"], ["etc"], ["home"], ["root"], ["dev"]]

/-- The files of a machine with utilities. -/
def systemFiles : Files :=
  let dirs := (systemDirectories ++ utilityDirectories).foldl Files.makeDirectories Files.empty
  let devices := (dirs.put ["null", "dev"] (.device .null)).put ["zero", "dev"] (.device .zero)
  utilityDirectories.foldl (fun fs dir =>
    utilityNames.foldl (fun fs (name, u) => fs.put (name :: dir) (.utility u)) fs) devices

/-- The directories in which programs are looked for. -/
def systemSearch : List String := ["/usr/local/bin", "/usr/bin", "/bin"]

/-! ## Activities -/

/-- The course of a program that ends with a result. -/
inductive Activity (α : Type) where
  /-- The program has ended. -/
  | done (result : α)
  /-- The program sleeps, and has left the files as they are here. -/
  | asleep (files : Files) (wake : Files → Activity α)

namespace Activity

variable {α β : Type}

/-- One activity after another. -/
def bind : Activity α → (α → Activity β) → Activity β
  | done a, f => f a
  | asleep files wake, f => asleep files fun fs => bind (wake fs) f

instance : Monad Activity where
  pure := done
  bind := bind

/-- Sleeps once. -/
def sleep (files : Files) : Activity Files := asleep files done

/-- Wakes up a sleeper, at most `n` times.  `none` if it sleeps on. -/
def wakeAll : (n : Nat) → Activity α → Option α
  | _, done a => some a
  | 0, asleep _ _ => none
  | n + 1, asleep files wake => wakeAll n (wake files)

/-- What two activities end with is what the second one ends with. -/
theorem wakeAll_bind {x : Activity α} {f : α → Activity β} {n : Nat} {b : β}
    (h : (x >>= f).wakeAll n = some b) : ∃ a m, (f a).wakeAll m = some b := by
  induction x generalizing n with
  | done a => exact ⟨a, n, h⟩
  | asleep files wake ih =>
      cases n with
      | zero => cases h
      | succ n => exact ih files h

end Activity

end PerlLint.Host
