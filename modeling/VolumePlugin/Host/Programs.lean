import VolumePlugin.Host.Call
import VolumePlugin.Host.FileTree
import VolumePlugin.Text.Utf8

/-! How programs are started and heard. What a program reads is handed over before it is waited for,
and what it has written counts when it has ended. -/

namespace VolumePlugin.Host.Programs

/-- Why a program is not started, or not heard to the end. -/
inductive StartError where
  /-- The path of the program leads to nothing. -/
  | unreachable (cause : FileError)
  /-- The path of the program leads to something that is no program. -/
  | refused
  /-- A text that is handed over holds the character that ends texts. -/
  | endInText
  /-- An argument is longer than any that can be handed over. -/
  | tooLong
  /-- The program ended before it had taken all that it was to read. -/
  | unread
  deriving DecidableEq, Repr

namespace StartError

def kind : StartError → String
  | unreachable cause => cause.kind
  | refused => "PermissionDenied"
  | endInText => "InvalidInput"
  | tooLong => "ArgumentListTooLong"
  | unread => "BrokenPipe"

def message : StartError → String
  | unreachable cause => cause.message
  | refused => "Permission denied (os error 13)"
  | endInText => "nul byte found in provided data"
  | tooLong => "Argument list too long (os error 7)"
  | unread => "Broken pipe (os error 32)"

end StartError

inductive Ending where
  | exited (code : Nat)
  | killed
  deriving DecidableEq, Repr

/-- What a program has written, and what it has left unread. -/
structure Streams where
  input : List UInt8 := []
  output : List UInt8 := []
  errors : List UInt8 := []
  deriving Repr

/-- The number of bytes that no argument reaches. -/
def argumentBound : Nat := 131072

/-- The number of bytes that wait for a program at most. -/
def pipeCapacity : Nat := 65536

/-- What a program did. What it left unread must fit into the pipe that it reads from. -/
def heard (ended : Ending × Streams) : Except StartError (Ending × Streams) :=
  if pipeCapacity < ended.2.input.length then .error .unread else .ok ended

/-- What a program leaves behind. Bytes that are no text are replaced. -/
def output : Ending × Streams → CommandOutput
  | (ending, s) =>
    { code := match ending with
        | .exited code => some code
        | .killed => none
      stdout := String.ofList (Text.Utf8.decodeLossy s.output)
      stderr := String.ofList (Text.Utf8.decodeLossy s.errors) }

end VolumePlugin.Host.Programs
