import SchemaMigration.Database.Kind
import SchemaMigration.Files.Path

/-! # Policies — what differs between the kinds

    Every database goes through the same steps.  A policy supplies the parts
    that differ: the names in messages, the places of its files, where its
    baseline comes from, and whether the baseline is applied on every load. -/

namespace SchemaMigration

/-- Where the baseline dump of a database comes from. -/
inductive BaselineOrigin where
  | bundled
  | remote
  deriving DecidableEq, Repr

/-- The fixed description of a database kind. -/
structure Policy where
  kind : Kind
  settingName : String
  displayName : String
  origin : BaselineOrigin
  alwaysRefresh : Bool
  deriving DecidableEq, Repr

namespace Policy

/-- The policy of each kind. -/
def ofKind : Kind → Policy
  | .auth => ⟨.auth, "Updates.Auth", "Auth", .bundled, false⟩
  | .characters => ⟨.characters, "Updates.Character", "Character", .bundled, false⟩
  | .world => ⟨.world, "Updates.World", "World", .remote, true⟩
  | .hotfixes => ⟨.hotfixes, "Updates.Hotfix", "Hotfixes", .remote, true⟩

/-- Whether a mask selects the database. -/
def isEnabled (p : Policy) (mask : Nat) : Bool := p.kind.inMask mask

/-- Where the baseline dump is expected. -/
def baseFile (p : Policy) (source : Path) : Path :=
  ((source.join "sql").join "base").join (p.kind.slug ++ "_database.sql")

/-- Where the live scripts are. -/
def updatesDirectory (p : Policy) (source : Path) : Path :=
  ((source.join "sql").join "updates").join p.kind.slug

/-- Where the archived scripts are. -/
def archivedDirectory (p : Policy) (source : Path) : Path :=
  (p.updatesDirectory source).join "archived"

end Policy

end SchemaMigration
