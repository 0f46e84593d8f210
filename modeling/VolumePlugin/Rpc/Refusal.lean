import VolumePlugin.Error
import VolumePlugin.Http.Percent

/-! How a refusal travels to the one who asked. Its code and its text stand in the header of the
response, the text percent-encoded. Who asks takes headers up to a size only, so a refusal with a
longer text arrives as a failure of the connection. -/

namespace VolumePlugin.Rpc

/-- What a request is refused with. -/
structure Refusal where
  code : StatusCode
  message : String
  deriving DecidableEq, Repr

namespace Refusal

/-- Characters that do not stand for themselves in a text. -/
def encodedInMessage (c : Char) : Bool :=
  Http.Percent.encodedInPath c || c = '%'

/-- The date of a response. Every date is as long as this one. -/
def sampleDate : String := "Thu, 01 Jan 1970 00:00:00 GMT"

def fields (r : Refusal) : List (String × String) :=
  [(":status", "200"), ("content-type", "application/grpc"),
    ("grpc-status", toString r.code.number), ("content-length", "0"), ("date", sampleDate)] ++
  if r.message = "" then []
  else [("grpc-message",
    String.ofList (Http.Percent.encode encodedInMessage r.message.toList))]

/-- What a header field counts for beside the bytes of its name and its value. -/
def fieldOverhead : Nat := 32

def headerSize (fields : List (String × String)) : Nat :=
  fields.foldl (fun size f => size + (f.1.utf8ByteSize + f.2.utf8ByteSize + fieldOverhead)) 0

/-- The size that no header reaches which is taken. -/
def headerBound : Nat := 16384

/-- What arrives in place of a response whose header is not taken. -/
def broken : Refusal := ⟨.internal, "h2 protocol error: http2 error"⟩

/-- What arrives of a refusal. -/
def received (r : Refusal) : Refusal :=
  if headerSize r.fields < headerBound then r else broken

end Refusal

end VolumePlugin.Rpc
