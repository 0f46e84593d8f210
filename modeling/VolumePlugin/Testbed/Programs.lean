import VolumePlugin.Host.Programs
import VolumePlugin.Testbed.Bare
import VolumePlugin.Text.Blank
import VolumePlugin.Text.Hex
import VolumePlugin.Text.Pieces
import VolumePlugin.Text.Unsigned

/-! The standard programs of a bare host: those that repeat what they read or are told, and a shell
for lists of simple commands. -/

namespace VolumePlugin.Host.Programs

/-- The directory that relative paths start from. -/
def workingDirectory : String := "/root"

def absolute (path : String) : String :=
  if path = "" || path.startsWith "/" then path else s!"{workingDirectory}/{path}"

/-- The name of the program that a path leads to. -/
def programAt (path : String) : Except StartError String :=
  match Bare.files.findExisting true (absolute path) with
  | .error cause => .error (.unreachable cause)
  | .ok (place, .file _) =>
    match place.getLast? with
    | some name => if place.dropLast = Bare.programDirectory then .ok name else .error .refused
    | none => .error .refused
  | .ok _ => .error .refused

/-- The directories in which programs are looked for, in order. -/
def searchPath : List String :=
  ["/usr/local/sbin", "/usr/local/bin", "/usr/sbin", "/usr/bin", "/sbin", "/bin"]

/-- The first success of several tries. Where there is no program, or something else in its place,
the search goes on; any other failure ends it. -/
def firstFound (refusedOnce : Bool) : List (Except StartError String) → Except StartError String
  | [] => .error (if refusedOnce then .refused else .unreachable .notFound)
  | .ok name :: _ => .ok name
  | .error .refused :: rest => firstFound true rest
  | .error (.unreachable .notFound) :: rest | .error (.unreachable .notADirectory) :: rest =>
    firstFound refusedOnce rest
  | .error e :: _ => .error e

/-- The name of the program that a path or a name stands for. Only names are looked for. -/
def locate (program : String) : Except StartError String :=
  if program = "" || program.contains '/' then programAt program
  else firstFound false (searchPath.map fun directory => programAt s!"{directory}/{program}")

def octal? (c : Char) : Option Nat :=
  if '0' ≤ c ∧ c ≤ '7' then some (c.toNat - '0'.toNat) else none

/-- The byte that up to three octal digits give, and the rest. -/
def readOctal : Nat → Nat → List Char → UInt8 × List Char
  | 0, value, rest => (UInt8.ofNat value, rest)
  | _ + 1, value, [] => (UInt8.ofNat value, [])
  | n + 1, value, c :: rest =>
    match octal? c with
    | some d => readOctal n (8 * value + d) rest
    | none => (UInt8.ofNat value, c :: rest)

/-- The character that a backslash and a letter stand for. -/
def escaped? (c : Char) : Option Nat :=
  match c with
  | 'n' => some 10
  | 't' => some 9
  | 'r' => some 13
  | 'a' => some 7
  | 'b' => some 8
  | 'f' => some 12
  | 'v' => some 11
  | '\\' => some 92
  | _ => none

/-- The byte that one or two hexadecimal digits give, and the rest. -/
def readHex? : List Char → Option (UInt8 × List Char)
  | [] => none
  | high :: rest => do
    let value ← Text.hexDigit? high
    match rest.head?.bind (Text.hexByte? high) with
    | some byte => return (byte, rest.drop 1)
    | none => return (UInt8.ofNat value, rest)

/-- The byte that the characters after a backslash stand for, and the rest. Only some programs heed
hexadecimal digits. -/
def escape? (hexadecimal : Bool) : List Char → Option (UInt8 × List Char)
  | [] => none
  | c :: rest =>
    if hexadecimal ∧ c = 'x' then readHex? rest
    else if (octal? c).isSome then some (readOctal 3 0 (c :: rest))
    else (escaped? c).map fun n => (UInt8.ofNat n, rest)

/-- One pass of `printf` over its format, at most `fuel` characters of it, and the arguments that
are left. -/
def formatPass (hexadecimal : Bool) : Nat → List Char → List String → List UInt8 × List String
  | 0, _, arguments => ([], arguments)
  | _, [], arguments => ([], arguments)
  | fuel + 1, '\\' :: c :: rest, arguments =>
    match escape? hexadecimal (c :: rest) with
    | some (byte, rest) =>
      let (bytes, arguments) := formatPass hexadecimal fuel rest arguments
      (byte :: bytes, arguments)
    | none =>
      let (bytes, arguments) := formatPass hexadecimal fuel rest arguments
      (Text.Utf8.encode ['\\', c] ++ bytes, arguments)
  | fuel + 1, '%' :: c :: rest, arguments =>
    if c = '%' then
      let (bytes, arguments) := formatPass hexadecimal fuel rest arguments
      (37 :: bytes, arguments)
    else
      let value := match arguments.head? with
        | some a => a
        | none => if c = 'd' then "0" else ""
      let (bytes, left) := formatPass hexadecimal fuel rest (arguments.drop 1)
      (Text.Utf8.ofString value ++ bytes, left)
  | fuel + 1, c :: rest, arguments =>
    let (bytes, arguments) := formatPass hexadecimal fuel rest arguments
    (Text.Utf8.encode [c] ++ bytes, arguments)

/-- What `printf` writes: its format, again and again while arguments are left. -/
def formatted (hexadecimal : Bool) (format : String) : Nat → List String → List UInt8
  | 0, _ => []
  | fuel + 1, arguments =>
    let (bytes, left) := formatPass hexadecimal format.length format.toList arguments
    if left.isEmpty || left.length = arguments.length then bytes
    else bytes ++ formatted hexadecimal format fuel left

def printf (hexadecimal : Bool) (arguments : List String) (s : Streams) : Nat × Streams :=
  match arguments with
  | [] => (2, s)
  | format :: rest =>
    (0, { s with output := s.output ++ formatted hexadecimal format (rest.length + 1) rest })

def echoed : List String → List UInt8
  | "-n" :: words => Text.Utf8.ofString (" ".intercalate words)
  | words => Text.Utf8.ofString (" ".intercalate words ++ "\n")

/-- The bytes of a text in which the shell's own `echo` heeds backslashes, at most `fuel` characters
of it. An octal number starts with a zero. -/
def unescaped : Nat → List Char → List UInt8
  | 0, _ => []
  | _, [] => []
  | fuel + 1, '\\' :: c :: rest =>
    if c = '0' then
      let (byte, rest) := readOctal 3 0 rest
      byte :: unescaped fuel rest
    else match escaped? c with
      | some n => UInt8.ofNat n :: unescaped fuel rest
      | none => Text.Utf8.encode ['\\', c] ++ unescaped fuel rest
  | fuel + 1, c :: rest => Text.Utf8.encode [c] ++ unescaped fuel rest

/-- What the shell's own `echo` writes. -/
def echoedByShell (words : List String) : List UInt8 :=
  let (words, ending) := match words with
    | "-n" :: words => (words, "")
    | words => (words, "\n")
  let text := (" ".intercalate words).toList
  unescaped text.length text ++ Text.Utf8.ofString ending

def numberOf (s : String) : Option Nat :=
  (Text.readUnsigned Text.wordBound s.toList).toOption

/-- What `cat` does with one file: it repeats what it reads. -/
def repeated (s : Streams) (file : String) : Streams :=
  if file = "-" then { s with output := s.output ++ s.input, input := [] }
  else match Bare.files.read (absolute file) with
    | .ok contents => { s with output := s.output ++ Text.Utf8.ofString contents }
    | .error e =>
      { s with errors := s.errors ++ Text.Utf8.ofString s!"cat: {file}: {e.reason}\n" }

def cat (files : List String) (s : Streams) : Nat × Streams :=
  let after := (if files.isEmpty then ["-"] else files).foldl repeated s
  (if after.errors.length = s.errors.length then 0 else 1, after)

/-- Runs a program that is no shell, if there is one of the name. -/
def simple? (program : String) (arguments : List String) (s : Streams) : Option (Nat × Streams) :=
  match program with
  | "true" | "sleep" => some (0, s)
  | "false" => some (1, s)
  | "cat" => some (cat arguments s)
  | "echo" => some (0, { s with output := s.output ++ echoed arguments })
  | "printf" => some (printf true arguments s)
  | "wc" =>
    let counted (n : Nat) : Option (Nat × Streams) :=
      some (0, { s with input := [], output := s.output ++ Text.Utf8.ofString s!"{n}\n" })
    match arguments with
    | ["-c"] => counted s.input.length
    | ["-l"] => counted (s.input.count 10)
    | _ => none
  | "head" =>
    match arguments with
    | ["-c", n] =>
      let n := (numberOf n).getD 0
      some (0, { s with input := s.input.drop n, output := s.output ++ s.input.take n })
    | _ => none
  | _ => none

/-- A part of a script. -/
inductive Piece where
  | word (text : String)
  /-- What separates two commands. -/
  | separator (text : String)
  /-- Sends what one descriptor gets to another one, or nowhere. -/
  | redirect (source : Nat) (target : Option Nat)
  deriving DecidableEq, Repr

/-- The part of a word up to the closing single quote, and the rest. -/
def singleQuoted (s : List Char) : List Char × List Char :=
  (s.takeWhile (· ≠ Char.ofNat 39), (s.dropWhile (· ≠ Char.ofNat 39)).drop 1)

/-- The number of the shell's own process. -/
def ownNumber : String := "1"

def parameter (parameters : List String) (c : Char) : List Char :=
  if c = '$' then ownNumber.toList
  else if c = '#' then (toString (parameters.length - 1)).toList
  else if c = '@' ∨ c = '*' then (" ".intercalate (parameters.drop 1)).toList
  else if c.isDigit then (parameters.getD (c.toNat - '0'.toNat) "").toList
  else []

/-- The part of a word up to the closing double quote, and the rest. -/
def doubleQuoted (parameters : List String) : List Char → List Char × List Char
  | [] => ([], [])
  | '"' :: rest => ([], rest)
  | '\\' :: c :: rest =>
    let (text, rest) := doubleQuoted parameters rest
    (if c = '"' ∨ c = '\\' ∨ c = '$' then c :: text else '\\' :: c :: text, rest)
  | '$' :: c :: rest =>
    let (text, rest) := doubleQuoted parameters rest
    (parameter parameters c ++ text, rest)
  | c :: rest =>
    let (text, rest) := doubleQuoted parameters rest
    (c :: text, rest)

/-- Ends a word that may have been begun. -/
def endWord (word : Option (List Char)) (pieces : List Piece) : List Piece :=
  match word with
  | some w => .word (String.ofList w) :: pieces
  | none => pieces

/-- Where a redirection goes to, and the rest. -/
def redirection (source : Nat) (rest : List Char) : Piece × List Char :=
  match rest with
  | '&' :: c :: rest => (.redirect source (some (c.toNat - '0'.toNat)), rest)
  | rest =>
    let rest := rest.dropWhile (· = ' ')
    (.redirect source none, rest.dropWhile fun c => !Text.isBlank c && c ≠ ';')

/-- The parts of a script, at most `fuel` of its characters. -/
def pieces (parameters : List String) : Nat → Option (List Char) → List Char → List Piece
  | 0, word, _ => endWord word []
  | _, word, [] => endWord word []
  | fuel + 1, word, c :: rest =>
    let soFar := word.getD []
    if c = ';' ∨ c = '\n' then
      endWord word (.separator ";" :: pieces parameters fuel none rest)
    else if c = '&' ∨ c = '|' then
      let both := rest.head? = some c
      endWord word (.separator (if both then String.ofList [c, c] else String.ofList [c]) ::
        pieces parameters fuel none (if both then rest.drop 1 else rest))
    else if Text.isBlank c then endWord word (pieces parameters fuel none rest)
    else if c = '>' then
      let source := if soFar = ['2'] then 2 else 1
      let before := if soFar = ['1'] ∨ soFar = ['2'] then none else word
      let (piece, rest) := redirection source rest
      endWord before (piece :: pieces parameters fuel none rest)
    else if c = Char.ofNat 39 then
      let (text, rest) := singleQuoted rest
      pieces parameters fuel (some (soFar ++ text)) rest
    else if c = '"' then
      let (text, rest) := doubleQuoted parameters rest
      pieces parameters fuel (some (soFar ++ text)) rest
    else if c = '$' then
      match rest with
      | d :: rest => pieces parameters fuel (some (soFar ++ parameter parameters d)) rest
      | [] => endWord (some (soFar ++ ['$'])) []
    else if c = '\\' then
      pieces parameters fuel (some (soFar ++ rest.take 1)) (rest.drop 1)
    else pieces parameters fuel (some (soFar ++ [c])) rest

def wordsOf (command : List Piece) : List String :=
  command.filterMap fun
    | .word text => some text
    | _ => none

/-- Sends what a command wrote to where its redirections say. -/
def redirected (command : List Piece) (before after : Streams) : Streams :=
  let written := after.output.drop before.output.length
  let complaints := after.errors.drop before.errors.length
  let target (source : Nat) : Option (Option Nat) := command.findSome? fun
    | .redirect s t => if s = source then some t else none
    | _ => none
  let place (s : Streams) (bytes : List UInt8) : Option Nat → Streams
    | some 1 => { s with output := s.output ++ bytes }
    | some 2 => { s with errors := s.errors ++ bytes }
    | _ => s
  let s : Streams := { after with output := before.output, errors := before.errors }
  let s := place s written ((target 1).getD (some 1))
  place s complaints ((target 2).getD (some 2))

/-- What becomes of a shell after one command. -/
inductive Step where
  | goesOn (status : Nat) (s : Streams)
  | ends (ending : Ending) (s : Streams)

/-- Runs a program that is found, for a shell with a name. -/
def runFound (name program : String) (arguments : List String) (s : Streams) : Nat × Streams :=
  let failed (code : Nat) (reason : String) : Nat × Streams :=
    let complaint := Text.Utf8.ofString s!"{name}: 1: {program}: {reason}\n"
    (code, { s with errors := s.errors ++ complaint })
  match locate program with
  | .ok found => (simple? found arguments s).getD (failed 127 "not found")
  | .error .refused => failed 126 "Permission denied"
  | .error _ => failed 127 "not found"

/-- Runs a program for a shell with a name. Some programs are in the shell itself. -/
def runProgram (name program : String) (arguments : List String) (s : Streams) : Nat × Streams :=
  match program with
  | "echo" => (0, { s with output := s.output ++ echoedByShell arguments })
  | "printf" => printf false arguments s
  | ":" => (0, s)
  | program => runFound name program arguments s

/-- Runs one command of a script. -/
def runCommand (name : String) (status : Nat) (command : List Piece) (s : Streams) : Step :=
  match wordsOf command with
  | [] => .goesOn status s
  | "exit" :: code => .ends (.exited (((code.head?.bind numberOf).getD status) % 256)) s
  | "kill" :: _ => .ends .killed s
  | "exec" :: program :: arguments =>
    let (status, after) := runProgram name program arguments s
    .ends (.exited status) (redirected command s after)
  | program :: arguments =>
    let (status, after) := runProgram name program arguments s
    .goesOn status (redirected command s after)

/-- Runs the commands of a script, each with what separates it from the one before it. What a
command writes before a bar is what the next one reads. -/
def runCommands (name : String) : Nat → List (String × List Piece) → Streams → Ending × Streams
  | status, [], s => (.exited status, s)
  | status, (separator, command) :: rest, s =>
    if (separator = "&&" ∧ status ≠ 0) ∨ (separator = "||" ∧ status = 0) then
      runCommands name status rest s
    else
      let pipes := match rest with
        | ("|", _) :: _ => true
        | _ => false
      match runCommand name status command s with
      | .ends ending s => (ending, s)
      | .goesOn status after =>
        let after := if pipes then
          { after with input := after.output.drop s.output.length, output := s.output } else after
        runCommands name status rest after

/-- The commands of a script, each with what separates it from the one before it. -/
def split (separator : String) (command : List Piece) :
    List Piece → List (String × List Piece)
  | [] => [(separator, command)]
  | .separator next :: rest => (separator, command) :: split next [] rest
  | piece :: rest => split separator (command ++ [piece]) rest

def shell (script : String) (parameters : List String) (s : Streams) : Ending × Streams :=
  let commands := split ";" [] (pieces parameters script.length none script.toList)
  runCommands (parameters.headD "sh") 0 commands s

def run (command : Command) : Except StartError (Ending × Streams) := do
  let hasEnd (s : String) : Bool := s.toList.contains (Char.ofNat 0)
  if hasEnd command.program || command.arguments.any hasEnd then throw .endInText
  let name ← locate command.program
  if command.arguments.any fun a => argumentBound ≤ a.utf8ByteSize then throw .tooLong
  let s : Streams := { input := Text.Utf8.ofString (command.stdin.getD "") }
  match name, command.arguments with
  | "sh", "-c" :: script :: rest =>
    heard (shell script (if rest.isEmpty then ["sh"] else rest) s)
  | "sh", [] => heard <| shell (command.stdin.getD "") ["sh"] {}
  | name, arguments =>
    match simple? name arguments s with
    | some (code, s) => heard (.exited code, s)
    | none => throw (.unreachable .notFound)

end VolumePlugin.Host.Programs
