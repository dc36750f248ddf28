import SchemaMigration.Files.Tree
import SchemaMigration.Settings.Decode

/-! # Settings files — where the settings of a project are

    A project directory has its settings in `dbup.yml`, or else in `dbup.yaml`. -/

namespace SchemaMigration.Settings

/-- Reads and checks a settings file. -/
def load (files : FileTree) (path : Path) : Except InputError Settings :=
  if files.contains path then
    match files.readText path with
    | .error cause => .error (.unreadable path cause)
    | .ok text => readWith (.settingsUnreadable path) text
  else .error (.settingsNotFound path)

/-- The settings file of a directory. -/
def fileIn (directory : Path) : Path := directory.join "dbup.yml"

/-- The settings file of a directory without the first one. -/
def secondFileIn (directory : Path) : Path := directory.join "dbup.yaml"

/-- Reads and checks the settings of a project directory. -/
def loadFrom (files : FileTree) (directory : Path) : Except InputError Settings :=
  if files.contains (fileIn directory) then load files (fileIn directory)
  else if files.contains (secondFileIn directory) then load files (secondFileIn directory)
  else .error (.settingsNotFound (fileIn directory))

end SchemaMigration.Settings
