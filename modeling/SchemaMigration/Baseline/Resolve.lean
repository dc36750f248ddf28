import SchemaMigration.Baseline.Stage
import SchemaMigration.Database.Policy
import SchemaMigration.Site

/-! # Resolving a baseline — which dump initialises a database

    A remote baseline is downloaded when the run is automatic or the operator
    agrees; a bundled one is applied when its file is there.  Otherwise the
    operator may name a local file or fall back to the bundled one.  In
    automatic runs nobody is asked. -/

namespace SchemaMigration.Baseline

/-- What a baseline is resolved with. -/
structure Resolver where
  policy : Policy
  /-- Where the dump is expected; a download is written there. -/
  baseFile : Option Path
  url : Option String
  automatic : Bool
  connection : Connection

namespace Resolver

variable (r : Resolver)

/-- The address to download from, which only a remote baseline has. -/
def remoteUrl : Option String :=
  match r.policy.origin with
  | .remote => r.url
  | .bundled => none

/-- The first step. -/
def start : Program Site.interface Stage :=
  match r.baseFile with
  | none => do
      Site.log (.info .baseline ">> No base file provided, skipped!")
      pure (.done none)
  | some base =>
      match r.remoteUrl with
      | some url =>
          if r.automatic then do
            let name := r.policy.displayName
            Site.log (.info .baseline
              s!"AllowAutoDBUpdate is set, downloading the {name} baseline without asking.")
            pure (.downloading url)
          else do
            let name := r.policy.displayName
            let agreed ← Site.confirm
              s!"Do you want to download and apply the latest {name} database baseline?"
            pure (if agreed then .downloading url else .fallback)
      | none => do
          if ← Site.isFile base then pure (.applying base)
          else if r.automatic then
            pure (.failed s!"base file {base.text} does not exist")
          else pure .fallback

/-- The step that downloads the dump. -/
def fetch (url : String) : Program Site.interface Stage :=
  match r.baseFile with
  | none => pure (.failed "no base file location to download to")
  | some base => do
      match ← Site.download url base with
      | .ok () =>
          Site.log (.info .baseline s!"Successfully downloaded {base.text}")
          pure (.applying base)
      | .error e =>
          Site.log (.error .baseline s!"Failed to download {url}. Manual download required!")
          pure (.failed e.message)

/-- The operator's own file. -/
def localFile : Program Site.interface Stage := do
  match ← Site.askPath "Enter full path to local SQL file" with
  | some text =>
      let file : Path := ⟨text⟩
      if ← Site.isFile file then
        Site.log (.info .baseline s!"Using existing local file '{file.text}'")
        pure (.applying file)
      else pure (.failed s!"local file '{file.text}' does not exist")
  | none =>
      Site.log (.info .baseline "No local file provided, skipping database population.")
      pure (.done none)

/-- Nothing was chosen. -/
def decline : Program Site.interface Stage := do
  Site.log (.info .baseline "Population canceled by user.")
  pure (.done none)

/-- The bundled file, if it is there and the operator agrees. -/
def bundledFile : Program Site.interface Stage :=
  match r.baseFile with
  | none => decline
  | some base => do
      if ← Site.isFile base then
        if ← Site.confirm s!"Use the bundled base file '{base.text}' instead?" then
          Site.log (.info .baseline s!"Using the bundled '{base.text}'")
          pure (.applying base)
        else decline
      else decline

/-- The step in which the operator chooses a file. -/
def choose : Program Site.interface Stage := do
  if ← Site.confirm "Do you want to use an existing local SQL file instead?" then localFile
  else r.bundledFile

/-- The step that applies a dump. -/
def applyFile (file : Path) : Program Site.interface Stage := do
  Site.log (.info .baseline s!">> Applying '{file.text}'...")
  match ← Site.runFile r.connection file with
  | .ok 0 => pure (.done (some file))
  | .ok status =>
      pure (.failed s!"applying '{file.text}' failed, SQL client exited with status {status}")
  | .error e => pure (.failed e.message)

/-- The step from each stage; a final stage stays. -/
def step : Stage → Program Site.interface Stage
  | .needed => r.start
  | .downloading url => r.fetch url
  | .fallback => r.choose
  | .applying file => r.applyFile file
  | stage => pure stage

/-- Takes steps until a final stage is reached. -/
def resolveFrom (stage : Stage) : Program Site.interface Stage :=
  if stage.isFinal then pure stage
  else
    (r.step stage).bind fun next =>
      if _h : stage.canBecome next = true then
        (Site.log (.debug .baseline
          s!"{r.policy.displayName} baseline: {stage.describe} -> {next.describe}")).bind
          fun _ => resolveFrom next
      else
        pure (.failed s!"invalid baseline transition from {stage.describe} to {next.describe}")
termination_by stage.rank
decreasing_by exact Stage.rank_lt_of_canBecome _h

/-- Resolves the baseline of a database. -/
def resolve : Program Site.interface Stage := r.resolveFrom .needed

end Resolver

end SchemaMigration.Baseline
