import SchemaMigration.Ledger.Record
import SchemaMigration.Plan.Basic
import SchemaMigration.Plan.Options

/-! # Building a plan — scanned files against the ledger

    Live scripts are looked at in ascending path order, then archived ones.  Two
    things are carried along: the records that a file has already taken over,
    and the first pending script of every content.  A record can be taken over
    when it is active, has a hash, its own file is not live and no earlier file
    took it; of several the first in ledger order goes. -/

namespace SchemaMigration.Plan

/-- What a plan is made from. -/
structure Input where
  live : List Script
  archived : List Script
  records : List Record
  options : Options

/-- The scripts in ascending order of the bytes of their paths. -/
def byPath (scripts : List Script) : List Script :=
  scripts.mergeSort fun a b => decide (a.path ≤ b.path)

/-- The record of a path; of several the last one counts. -/
def recordAt? (records : List Record) (path : String) : Option Record :=
  records.reverse.find? fun r => r.path = path

/-- The active records with some content, in ledger order.  Records without a
    hash have no content to compare. -/
def activeWith (records : List Record) (hash : String) : List Record :=
  records.filter fun r => r.state = .active ∧ r.hash ≠ "" ∧ r.hash = hash

/-- Whether a live script has the path. -/
def isLive (live : List Script) (path : String) : Bool :=
  live.any fun s => s.path = path

/-- The first active record with some content that is free to be taken over. -/
def free? (input : Input) (taken : List String) (hash : String) : Option Record :=
  (activeWith input.records hash).find? fun r =>
    !isLive input.live r.path && !taken.contains r.path

/-- The decision for a live script without a record of its own, before duplicates
    among pending scripts are looked at. -/
def unrecorded (input : Input) (taken : List String) (s : Script) : Verdict :=
  match activeWith input.records s.hash with
  | [] => .pending .new
  | kept :: _ =>
      match free? input taken s.hash with
      | some record =>
          if input.options.allowRehash then .renamed record.path else .pending .renameNotAllowed
      | none =>
          if input.options.redundancy then .redundant kept.path else .pending .duplicate

/-- The decision for a live script, before duplicates among pending scripts are
    looked at. -/
def firstVerdict (input : Input) (taken : List String) (s : Script) : Verdict :=
  match recordAt? input.records s.path with
  | some record =>
      if record.hash = s.hash then .applied
      else if record.hash = "" ∧ input.options.allowRehash then .rehash
      else .pending .contentChanged
  | none => unrecorded input taken s

/-- What earlier live scripts leave behind: the paths of the records they took
    over, and the pending scripts by content. -/
structure Carried where
  taken : List String
  firstPending : List (String × String)

/-- The decision for a live script.  With redundancy, a pending script gives way
    to an earlier pending one with the same content. -/
def liveVerdict (input : Input) (c : Carried) (s : Script) : Verdict :=
  match firstVerdict input c.taken s with
  | .pending reason =>
      if input.options.redundancy then
        match c.firstPending.lookup s.hash with
        | some first => .redundant first
        | none => .pending reason
      else .pending reason
  | other => other

/-- What is carried on after a live script. -/
def Carried.after (c : Carried) (s : Script) : Verdict → Carried
  | .renamed old => { c with taken := old :: c.taken }
  | .pending _ =>
      match c.firstPending.lookup s.hash with
      | some _ => c
      | none => { c with firstPending := (s.hash, s.path) :: c.firstPending }
  | _ => c

/-- Decides on live scripts one after another. -/
def planLive (input : Input) : Carried → List Script → List PlannedFile × Carried
  | c, [] => ([], c)
  | c, s :: rest =>
      let verdict := liveVerdict input c s
      let (entries, last) := planLive input (c.after s verdict) rest
      (⟨s, verdict⟩ :: entries, last)

/-- The decision for an archived script. -/
def archivedVerdict (input : Input) (taken : List String) (s : Script) : Verdict :=
  if input.options.archivedRedundancy then
    match free? input taken s.hash with
    | some record => .archivedRedundant record.path
    | none => .archived
  else .archived

/-- The records that are taken over after an archived script. -/
def takenAfter (taken : List String) : Verdict → List String
  | .archivedRedundant record => record :: taken
  | _ => taken

/-- Decides on archived scripts one after another. -/
def planArchived (input : Input) : List String → List Script → List PlannedFile × List String
  | taken, [] => ([], taken)
  | taken, s :: rest =>
      let verdict := archivedVerdict input taken s
      let (entries, last) := planArchived input (takenAfter taken verdict) rest
      (⟨s, verdict⟩ :: entries, last)

/-- Whether a scanned file accounts for a record: by its path, by having taken it
    over, or, for an archived record, by its content in the archive. -/
def isPresent (input : Input) (taken : List String) (r : Record) : Bool :=
  isLive input.live r.path || isLive input.archived r.path || taken.contains r.path
    || (decide (r.state = .archived) && input.archived.any fun s => s.hash = r.hash)

/-- The plan for scanned files, a ledger and options. -/
def build (input : Input) : Plan :=
  let (live, carried) := planLive input ⟨[], []⟩ (byPath input.live)
  let (archived, taken) := planArchived input carried.taken (byPath input.archived)
  { entries := live ++ archived
    dead := (input.records.filter fun r => !isPresent input taken r).map fun r =>
      ⟨r.path, r.missingRuns⟩
    recovered := (input.records.filter fun r =>
      isPresent input taken r && decide (0 < r.missingRuns)).map Record.path }

end SchemaMigration.Plan
