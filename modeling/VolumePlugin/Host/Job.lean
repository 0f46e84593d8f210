import VolumePlugin.Host.Call
import VolumePlugin.Prog

/-! What the node service asks for while it works on a request: calls to the host, the lock that
keeps requests apart, and the disks that it has not met before. -/

namespace VolumePlugin.Host

/-- What the service asks for. -/
inductive Query where
  | call (c : Call)
  /-- Those of the disks that were not asked about before. -/
  | newDisks (disks : List String)
  /-- Waits until no other request has the lock, and takes it. -/
  | lock
  | unlock
  deriving DecidableEq, Repr

abbrev Query.Answer : Query → Type
  | call c => c.Answer
  | newDisks _ => List String
  | lock | unlock => Unit

/-- Work that cannot fail. -/
abbrev Work := Prog Query.Answer

/-- Work that may fail. -/
abbrev Job := ExceptT CsiError Work

def ask (c : Call) : Work c.Answer :=
  Prog.question (A := Query.Answer) (.call c)

namespace Job

variable {α ε : Type}

/-- Work that is already done. -/
def ofExcept (result : Except CsiError α) : Job α :=
  ExceptT.mk (.done result)

/-- Work that must succeed, with the wording of its failure. -/
def demand (work : Work (Except ε α)) (failure : ε → CsiError) : Job α :=
  ExceptT.mk (work.bind fun result => .done (result.mapError failure))

/-- Work that fails with an error of the plugin. -/
def ofWork (work : Work (Except CsiError α)) : Job α :=
  ExceptT.mk work

/-- Work during which no other request has the lock. The lock is given back also after a
failure. -/
def locked (task : Job α) : Job α :=
  ExceptT.mk <| (Prog.question (A := Query.Answer) .lock).bind fun _ =>
    task.run.bind fun result =>
      (Prog.question (A := Query.Answer) .unlock).bind fun _ => .done result

end Job

/-- The disks of a list that are not known yet, each once and in order. -/
def freshDisks (known disks : List String) : List String :=
  disks.foldl (fun fresh d => if known.contains d || fresh.contains d then fresh
    else fresh ++ [d]) []

/-- Answers queries of a service that works on one request at a time. -/
def answerQuery {σ : Type} (answer : (c : Call) → σ → c.Answer × σ) :
    (q : Query) → List String × σ → q.Answer × (List String × σ)
  | .call c, (known, s) =>
    let (result, s) := answer c s
    (result, (known, s))
  | .newDisks disks, (known, s) =>
    let fresh := freshDisks known disks
    (fresh, (known ++ fresh, s))
  | .lock, s => ((), s)
  | .unlock, s => ((), s)

end VolumePlugin.Host
