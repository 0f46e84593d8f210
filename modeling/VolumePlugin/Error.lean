/-! The causes for which a call fails, their wording, and the status code each is answered with. -/

namespace VolumePlugin

inductive StatusCode where
  | ok
  | cancelled
  | unknown
  | invalidArgument
  | deadlineExceeded
  | notFound
  | alreadyExists
  | permissionDenied
  | resourceExhausted
  | failedPrecondition
  | aborted
  | outOfRange
  | unimplemented
  | internal
  | unavailable
  | dataLoss
  | unauthenticated
  deriving DecidableEq, Repr, Inhabited

namespace StatusCode

def all : List StatusCode :=
  [.ok, .cancelled, .unknown, .invalidArgument, .deadlineExceeded, .notFound, .alreadyExists,
    .permissionDenied, .resourceExhausted, .failedPrecondition, .aborted, .outOfRange,
    .unimplemented, .internal, .unavailable, .dataLoss, .unauthenticated]

def number (code : StatusCode) : Nat :=
  all.idxOf code

/-- The code with a number; numbers without a code count as unknown. -/
def ofNumber (n : Nat) : StatusCode :=
  all[n]?.getD .unknown

def name : StatusCode → String
  | ok => "Ok"
  | cancelled => "Cancelled"
  | unknown => "Unknown"
  | invalidArgument => "InvalidArgument"
  | deadlineExceeded => "DeadlineExceeded"
  | notFound => "NotFound"
  | alreadyExists => "AlreadyExists"
  | permissionDenied => "PermissionDenied"
  | resourceExhausted => "ResourceExhausted"
  | failedPrecondition => "FailedPrecondition"
  | aborted => "Aborted"
  | outOfRange => "OutOfRange"
  | unimplemented => "Unimplemented"
  | internal => "Internal"
  | unavailable => "Unavailable"
  | dataLoss => "DataLoss"
  | unauthenticated => "Unauthenticated"

end StatusCode

/-- Why a call to the provider failed. -/
inductive CloudError where
  | notFound (what : String)
  /-- The volume got attached to some instance in the meantime. -/
  | alreadyAttached (volume : Nat)
  /-- Any other refusal, with the status and the reasons that the provider gave. -/
  | api (status : Nat) (reasons : String)
  | transport (detail : String)
  | decode (detail : String)
  /-- The number of a page left the range of page numbers, so that the caller gets no answer. -/
  | pageOverflow
  deriving DecidableEq, Repr, Inhabited

namespace CloudError

def message : CloudError → String
  | notFound what => s!"{what} not found"
  | alreadyAttached volume => s!"volume {volume} is already attached"
  | api status reasons => s!"api returned {status}: {reasons}"
  | transport detail => s!"transport error: {detail}"
  | decode detail => s!"decode error: {detail}"
  | pageOverflow => "page number out of range"

def isNotFound : CloudError → Bool
  | notFound _ => true
  | _ => false

end CloudError

/-- Why a call to the plugin failed. -/
inductive CsiError where
  | invalidArgument (detail : String)
  | notFound (what : String)
  | volumeNotFound (handle : String)
  | alreadyExists (detail : String)
  | volumeAlreadyExists (detail : String)
  | failedPrecondition (detail : String)
  | unavailable (detail : String)
  | aborted (detail : String)
  | mountFailed (path reason : String)
  | unmountFailed (path reason : String)
  | encryption (detail : String)
  | timeout (action : String) (volume : Nat)
  | cloud (cause : CloudError)
  | unimplemented (what : String)
  | internal (detail : String)
  | transport (detail : String)
  deriving DecidableEq, Repr, Inhabited

namespace CsiError

def message : CsiError → String
  | invalidArgument detail => s!"invalid argument: {detail}"
  | notFound what => s!"not found: {what}"
  | volumeNotFound handle => s!"volume {handle} not found"
  | alreadyExists detail => s!"already exists: {detail}"
  | volumeAlreadyExists detail => s!"volume {detail} already exists"
  | failedPrecondition detail => s!"failed precondition: {detail}"
  | unavailable detail => s!"unavailable: {detail}"
  | aborted detail => s!"aborted: {detail}"
  | mountFailed path reason => s!"mount failed at {path}: {reason}"
  | unmountFailed path reason => s!"unmount failed at {path}: {reason}"
  | encryption detail => s!"encryption error: {detail}"
  | timeout action volume => s!"timed out waiting for {action} on volume {volume}"
  | cloud cause => s!"cloud api error: {cause.message}"
  | unimplemented what => s!"unimplemented: {what}"
  | internal detail => s!"internal error: {detail}"
  | transport detail => s!"transport error: {detail}"

def code : CsiError → StatusCode
  | invalidArgument _ => .invalidArgument
  | notFound _ | volumeNotFound _ => .notFound
  | alreadyExists _ | volumeAlreadyExists _ => .alreadyExists
  | failedPrecondition _ => .failedPrecondition
  | unavailable _ | transport _ => .unavailable
  | aborted _ => .aborted
  | unimplemented _ => .unimplemented
  | mountFailed .. | unmountFailed .. | encryption _ | timeout .. | cloud _ | internal _ =>
    .internal

end CsiError

/-- Refuses the empty text where a value must be given. -/
def requireText (what text : String) : Except CsiError Unit :=
  if text = "" then .error (.invalidArgument s!"{what} is required") else .ok ()

end VolumePlugin
