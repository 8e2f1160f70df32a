import PerlLint.Shell.Filter
import PerlLint.Shell.Machine

/-!
# Utilities

What the installed utilities do: with the input, the files and the outputs of the
shell that runs them.  Every one ends with an exit status.

An option with a name as the first argument makes a utility fail, because these
utilities know none.  `echo` and `printf` print it, and `true` and `false` do not
care.
-/

namespace PerlLint.Shell

open Host

/-! ## Tests on files, texts and numbers -/

/-- Whether a path leads to a file that is not empty. -/
def hasContent (fs : Files) (here : Location) (path : String) : Bool :=
  match fs.read here path with
  | .ok bytes => !bytes.isEmpty
  | .error _ => false

/-- The value of a test with one operand. -/
def unaryTest? (fs : Files) (here : Location) (op operand : List Char) : Option Bool :=
  let path := Text.Bytes.toString operand
  match op with
  | ['-', 'n'] => some (!operand.isEmpty)
  | ['-', 'z'] => some operand.isEmpty
  | ['-', 'e'] | ['-', 'r'] | ['-', 'w'] => some (fs.exists? here path)
  | ['-', 'f'] => some (fs.isFile here path)
  | ['-', 'd'] =>
      match fs.lookUp here path with
      | .ok node => some (node == .directory)
      | .error _ => some false
  | ['-', 'x'] => some (fs.isProgram here path)
  | ['-', 's'] => some (hasContent fs here path)
  | _ => none

/-- The value of a test with two operands. -/
def binaryTest? (a op b : List Char) : Option Bool :=
  let x := numberOf a
  let y := numberOf b
  match String.ofList op with
  | "=" => some (a == b)
  | "!=" => some (a != b)
  | "-eq" => some (x == y)
  | "-ne" => some (x != y)
  | "-lt" => some (x < y)
  | "-le" => some (x ≤ y)
  | "-gt" => some (x > y)
  | "-ge" => some (x ≥ y)
  | _ => none

/-- The value of a test without connectives.  `none` if it is no test. -/
def plainTest? (fs : Files) (here : Location) : List (List Char) → Option Bool
  | [] => some false
  | [a] => some (!a.isEmpty)
  | [op, a] => if op = ['!'] then some a.isEmpty else unaryTest? fs here op a
  | ['!'] :: rest => (plainTest? fs here rest).map not
  | [a, op, b] => binaryTest? a op b
  | _ => none

/-- The value of tests joined by `-a`. -/
def allTests? (fs : Files) (here : Location) (args : List (List Char)) : Option Bool :=
  match plainTest? fs here args with
  | some b => some b
  | none => do return ((← (args.splitOn ['-', 'a']).mapM (plainTest? fs here)).all id)

/-- The value of a test.  `none` if it is no test. -/
def testValue? (fs : Files) (here : Location) (args : List (List Char)) : Option Bool :=
  match plainTest? fs here args with
  | some b => some b
  | none => do return ((← (args.splitOn ['-', 'o']).mapM (allTests? fs here)).any id)

/-- The exit status of a test. -/
def testStatus : Option Bool → Nat
  | some true => 0
  | some false => 1
  | none => 2

/-! ## Files as input -/

/-- The files that are named, put together, or the input if there is none.  Also
says whether all could be read. -/
def inputOf (paths : List (List Char)) : Act (List Char × Bool) := do
  if paths.isEmpty then return (← Act.takeInput, true)
  let s ← get
  let contents := paths.map fun p => s.files.read s.directory (Text.Bytes.toString p)
  return ((contents.flatMap fun c => Text.Bytes.ofBytes (c.toOption.getD [])),
    contents.all fun c => c.toOption.isSome)

/-- Whether a path leads to the device without end. -/
def isZeroDevice (p : List Char) : Act Bool := do
  let s ← get
  match s.files.lookUp s.directory (Text.Bytes.toString p) with
  | .ok node => return node == .device .zero
  | .error _ => return false

/-- Prints a part of some files or of the input. -/
def printPart (part : Amount → List Char → List Char) (args : List (List Char)) : Act Unit := do
  let (amount, paths) := amountOf args
  match amount, paths with
  | .chars n, [p] =>
      if ← isZeroDevice p then
        Act.print (List.replicate n '\x00')
        Act.finish 0
        return
  | _, _ => pure ()
  let (text, complete) ← inputOf paths
  Act.print (part amount text)
  Act.finish (if complete then 0 else 1)

/-- The location of a path that need not exist. -/
def locationOf (p : List Char) : Act (Option Location) := do
  let s ← get
  return (s.files.resolve false s.directory (Text.Bytes.toString p)).toOption

/-- Changes the files once for every path. -/
def changeFiles (change : Files → Location → Option Files) (paths : List (List Char)) :
    Act Unit := do
  Act.finish 0
  for p in paths do
    match ← locationOf p with
    | some l =>
        match change (← get).files l with
        | some files => modify fun s => { s with files }
        | none => Act.finish 1
    | none => Act.finish 1

/-- Prints a text, and gives an exit status. -/
def printWith (result : List Char × Nat) : Act Unit := do
  Act.print result.1
  Act.finish result.2

/-! ## Names of files -/

/-- A path without slashes at its end. -/
def dropSlashes (p : List Char) : List Char := (p.reverse.dropWhile (· == '/')).reverse

/-- The last component of a path, without an ending. -/
def baseName (p ending : List Char) : List Char :=
  let name := ((dropSlashes p).reverse.takeWhile (· != '/')).reverse
  let name := if name.isEmpty && !p.isEmpty then ['/'] else name
  if ending.isSuffixOf name && ending.length < name.length then
    name.take (name.length - ending.length)
  else name

/-- A path without its last component. -/
def directoryName (p : List Char) : List Char :=
  let p := dropSlashes p
  let front := (p.reverse.dropWhile (· != '/')).reverse
  if p.isEmpty then ['/']
  else if front.isEmpty then ['.']
  else if (dropSlashes front).isEmpty then ['/']
  else dropSlashes front

/-- The options in front of other arguments, as letters, and those arguments. -/
def splitOptions : List (List Char) → List Char × List (List Char)
  | ('-' :: c :: cs) :: rest =>
      let (options, args) := splitOptions rest
      (c :: cs ++ options, args)
  | args => ([], args)

/-- The lines that list a file or a directory. -/
def listing? (fs : Files) (here : Location) (hidden : Bool) (p : List Char) :
    Option (List (List Char)) :=
  match fs.locate here (Text.Bytes.toString p) with
  | .error _ => none
  | .ok l =>
      if fs.isDirectoryAt l then
        let names := (fs.names l).map Text.Bytes.ofString
        let names :=
          if hidden then ['.'] :: ['.', '.'] :: names
          else names.filter fun n => n.head? != some '.'
        some (names.mergeSort comesBefore)
      else some [p]

/-- Lists files and directories. -/
def listAll (args : List (List Char)) : Act Unit := do
  let s ← get
  let (options, paths) := splitOptions args
  let paths := if paths.isEmpty then [['.']] else paths
  let listings := paths.map (listing? s.files s.directory (options.contains 'a'))
  Act.print ((listings.flatMap (·.getD [])).flatMap fun l => l ++ ['\n'])
  Act.finish (if listings.all Option.isSome then 0 else 2)

/-- Whether a mode lets a file be executed. -/
def modeExecutes (mode : List Char) : Bool :=
  if mode.all Text.isDigit then
    ['1', '3', '5', '7'].contains ((mode.reverse.drop 2).headD '0')
  else mode.contains 'x' && !mode.contains '-'

/-- Copies one file to another place, or into a directory. -/
def copyFile (move : Bool) (source target : List Char) : Act Unit := do
  let s ← get
  let fs := s.files
  match fs.locate s.directory (Text.Bytes.toString source), ← locationOf target with
  | .ok l, some k =>
      match fs.node? l, l with
      | some (.file content executable), name :: _ =>
          let k := if fs.isDirectoryAt k then name :: k else k
          let fs := if move then fs.remove l else fs
          set { s with files := fs.put k (.file content executable), status := 0 }
      | _, _ => Act.finish 1
  | _, _ => Act.finish 1

/-! ## The utilities -/

/-- Whether an argument is an option with a name. -/
def isLongOption (a : List Char) : Bool := ['-', '-'].isPrefixOf a && 2 < a.length

/-- The exit status of a utility that is given an option which it does not
know. -/
def refusal : Utility → Nat
  | .sh | .ls | .grep | .sort | .test | .expr => 2
  | .env => 125
  | _ => 1

/-- Whether a utility takes any option. -/
def takesAnything : Utility → Bool
  | .echo | .printf | .true | .false | .test => true
  | _ => false

/-- Runs a utility other than the shell. -/
def runUtility (u : Utility) (args : List (List Char)) : Act Unit := do
  if !takesAnything u && isLongOption (args.headD []) then
    Act.complain "unrecognized option"
    Act.finish (refusal u)
    return
  match u with
  | .true => Act.finish 0
  | .false => Act.finish 1
  | .echo =>
      Act.print ((args.intersperse [' ']).flatten ++ ['\n'])
      Act.finish 0
  | .printf =>
      Act.print (printfText args)
      Act.finish (if args.isEmpty then 1 else 0)
  | .pwd =>
      Act.print (Text.Bytes.ofString (Files.pathOf (← get).directory ++ "\n"))
      Act.finish 0
  | .test =>
      let s ← get
      Act.finish (testStatus (testValue? s.files s.directory args))
  | .cat =>
      let (text, complete) ← inputOf (args.filter (· != ['-']))
      Act.print text
      Act.finish (if complete then 0 else 1)
  | .head => printPart Amount.front args
  | .tail => printPart Amount.back args
  | .tr =>
      let (text, status) := exchange args (← Act.takeInput)
      Act.print text
      Act.finish status
  | .seq =>
      Act.print (seqText args)
      Act.finish 0
  | .wc =>
      let option := args.headD []
      let (text, complete) ← inputOf (args.drop 1)
      let name := match args.drop 1 with
        | [p] => ' ' :: p
        | _ => []
      Act.print (Text.natDigits (countOf option text) ++ name ++ ['\n'])
      Act.finish (if complete then 0 else 1)
  | .sleep =>
      if args.isEmpty then Act.finish 1
      else
        Act.sleep
        Act.finish 0
  | .touch =>
      changeFiles (fun fs l =>
        some (if (fs.node? l).isSome then fs else fs.setContent l [])) args
  | .mkdir =>
      let (options, paths) := splitOptions args
      if options.contains 'p' then
        let s ← get
        let wanted := paths.foldl (fun fs p =>
          fs.makeDirectories (Files.walkFreely s.directory (Text.Bytes.toString p))) s.files
        set { s with files := wanted, status := 0 }
      else
        changeFiles (fun fs l =>
          if (fs.node? l).isSome then none else some (fs.put l .directory)) paths
  | .rm =>
      let (options, paths) := splitOptions args
      let deep := options.contains 'r' || options.contains 'R'
      changeFiles (fun fs l =>
        match fs.node? l with
        | some .directory => if deep then some (fs.removeTree l) else none
        | some _ => some (fs.remove l)
        | none => if options.contains 'f' then some fs else none) paths
  | .chmod =>
      changeFiles (fun fs l =>
        if (fs.node? l).isSome then
          some (fs.setExecutable l (modeExecutes (args.headD [])))
        else none) (args.drop 1)
  | .cp | .mv =>
      match (splitOptions args).2 with
      | [source, target] => copyFile (u == .mv) source target
      | _ => Act.finish 1
  | .tee =>
      let text ← Act.takeInput
      Act.print text
      changeFiles (fun fs l =>
        if fs.isDirectoryAt l then none
        else some (fs.setContent l (Text.Bytes.toBytes text))) args
  | .ls => listAll args
  | .sort =>
      let (options, paths) := splitOptions args
      let (text, complete) ← inputOf paths
      Act.print (sortText options text)
      Act.finish (if complete then 0 else 2)
  | .grep =>
      match splitOptions args with
      | (options, pattern :: paths) =>
          let (text, complete) ← inputOf paths
          if complete then printWith (searchText options pattern text) else Act.finish 2
      | _ => Act.finish 2
  | .expr => printWith (exprText args)
  | .basename =>
      match args with
      | [] => Act.finish 1
      | p :: rest => printWith (baseName p (rest.headD []) ++ ['\n'], 0)
  | .dirname =>
      match args with
      | [] => Act.finish 1
      | p :: _ => printWith (directoryName p ++ ['\n'], 0)
  | .sh | .env => Act.finish (refusal u)

end PerlLint.Shell
