import VolumePlugin.Testbed.Spec

/-! Faults: calls to the surroundings that are answered otherwise than they would be. -/

namespace VolumePlugin.Testbed

/-- What a call is answered with instead. -/
inductive Effect where
  | cloudError (e : CloudError)
  | failure (f : Host.Failure)
  | error (e : CsiError)
  | truth (value : Bool)
  | texts (values : List String)
  /-- Fields that the volume in the answer shows with other values. -/
  | patch (fields : Json)
  /-- Other numbers for the page in the answer. -/
  | page (page pages : Option Nat)
  | nothing
  deriving Repr

/-- A fault that waits for calls of a kind. -/
structure Fault where
  call : String
  /-- How many of the calls it lets pass. -/
  skip : Nat := 0
  /-- How many of the calls after those it changes. -/
  times : Nat := 1
  effect : Effect
  deriving Repr

namespace Fault

/-- The faults after a call, and the effect on it. Only the first fault for calls of its kind
counts. -/
def take (call : String) : List Fault → Option Effect × List Fault
  | [] => (none, [])
  | f :: rest =>
    if f.call = call then
      if 0 < f.skip then (none, { f with skip := f.skip - 1 } :: rest)
      else if f.times ≤ 1 then (some f.effect, rest)
      else (some f.effect, { f with times := f.times - 1 } :: rest)
    else
      let (effect, rest) := take call rest
      (effect, f :: rest)

/-- The kinds of calls that fail with an error of the plugin. -/
def mountCalls : List String :=
  ["mount", "unmount", "format_and_mount", "is_mount_point", "mount_sources", "mount_targets"]

/-- The kinds of calls that fail with a text. -/
def hostCalls : List String :=
  ["glob", "eval_symlinks", "mkdir_all", "create_file", "remove", "statfs", "run", "exists"]

def readEffect (call : String) (v : Json) : Effect :=
  match v.get? "error" with
  | some e =>
    if mountCalls.contains call then .error (Spec.readError e)
    else if hostCalls.contains call then .failure ⟨e.getText "text"⟩
    else .cloudError (Spec.readCloudError e)
  | none =>
    match v.get? "value" with
    | some (.bool b) => .truth b
    | some value => .texts (value.texts?.getD [])
    | none =>
      match v.get? "patch" with
      | some fields => .patch fields
      | none =>
        if (v.get? "page").isSome || (v.get? "pages").isSome then
          .page (v.getNat? "page") (v.getNat? "pages")
        else .nothing

def read (v : Json) : Fault :=
  let call := v.getText "call"
  { call := call, skip := v.getNat "skip", times := (v.getNat? "times").getD 1
    effect := readEffect call v }

end Fault

namespace Effect

/-- The members of a record with some of them replaced. -/
def overlay (members fields : List (String × Json)) : List (String × Json) :=
  members.map fun m => (m.1, (fields.lookup m.1).getD m.2)

def patched (fields : Json) (v : RemoteVolume) : RemoteVolume :=
  match v.toJson, fields with
  | .object members, .object changes =>
    (RemoteVolume.ofJson? (.object (overlay members changes))).getD v
  | _, _ => v

def renumbered {α : Type} (page pages : Option Nat) (p : Page α) : Page α :=
  { p with page := page.getD p.page, pages := pages.getD p.pages }

def cloudFailure? : Effect → Option CloudError
  | cloudError e => some e
  | _ => none

/-- The answer of the provider as the effect shows it. -/
def onCloudAnswer (effect : Effect) : (c : Cloud.Call) → c.Answer → c.Answer
  | .getVolume _, answer | .createVolume _, answer | .attachVolume .., answer
  | .cloneVolume .., answer =>
    match effect with
    | patch fields => answer.map (patched fields)
    | _ => answer
  | .listVolumes _, answer =>
    match effect with
    | page p ps => answer.map (renumbered p ps)
    | _ => answer
  | _, answer => answer

/-- The answer of the host that the effect puts in place of its own. -/
def hostAnswer? (effect : Effect) : (c : Host.Call) → Option c.Answer
  | .pathExists _ =>
    match effect with
    | truth b => some b
    | _ => none
  | .glob _ =>
    match effect with
    | failure f => some (.error f)
    | texts l => some (.ok l)
    | _ => none
  | .resolveLinks _ | .statistics _ | .makeDirectories _ | .createFile _ | .remove _ | .run _ =>
    match effect with
    | failure f => some (.error f)
    | _ => none
  | .mount _ | .unmount _ | .formatAndMount _ =>
    match effect with
    | error e => some (.error e)
    | _ => none
  | .isMountPoint _ =>
    match effect with
    | error e => some (.error e)
    | truth b => some (.ok b)
    | _ => none
  | .mountSources _ | .mountTargets _ =>
    match effect with
    | error e => some (.error e)
    | texts l => some (.ok l)
    | _ => none

end Effect

end VolumePlugin.Testbed
