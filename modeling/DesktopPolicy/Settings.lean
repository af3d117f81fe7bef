-- Settings of the service. A setting is given outright, or else by a variable of the environment, or
-- else in a file of assignments; otherwise it has its usual value. The names of variables may be in
-- letters of any case.
import DesktopPolicy.Environment.Assignment
import DesktopPolicy.Schema
import DesktopPolicy.Text.Casing

namespace DesktopPolicy

open Schema (Checked Fields both)

structure Settings where
  title : String := "Desktop Access"
  debug : Bool := false
  /-- The file with the definitions of roles. Without one the built-in roles are served. -/
  rolesFile : Option String := none
  /-- Rules that say nothing are left out when roles are united. -/
  skipEmptyRules : Bool := true
  logLevel : String := "INFO"
  logDirectory : String := "/var/log/desktop-access"
  logToFile : Bool := false
  deriving DecidableEq, Repr

namespace Settings

/-! ## Fields -/

def titleField : String := "app_name"

def debugField : String := "debug"

def rolesFileField : String := "roles_file"

def skipEmptyRulesField : String := "skip_empty_rules"

def logLevelField : String := "log_level"

def logDirectoryField : String := "log_dir"

def logToFileField : String := "log_to_file"

def fieldNames : List String := [
  titleField, debugField, rolesFileField, skipEmptyRulesField, logLevelField, logDirectoryField,
  logToFileField]

/-- The settings that fields give. Those that are absent have their usual values. -/
def ofFields (fields : Fields) : Checked Settings :=
  let usual : Settings := {}
  let field {α : Type} (name : String) (absent : α) (check : Value → Checked α) : Checked α :=
    Schema.optional fields name absent check
  both (both (both (both (both (both
    ((field titleField usual.title Schema.text).map Settings.mk)
    (field debugField usual.debug Schema.truth))
    (field rolesFileField usual.rolesFile Schema.textOrNull))
    (field skipEmptyRulesField usual.skipEmptyRules Schema.truth))
    (field logLevelField usual.logLevel Schema.text))
    (field logDirectoryField usual.logDirectory Schema.text))
    (field logToFileField usual.logToFile Schema.truth)

def toValue (settings : Settings) : Value :=
  .map [
    (.text titleField, .text settings.title),
    (.text debugField, .bool settings.debug),
    (.text rolesFileField, match settings.rolesFile with
      | some path => .text path
      | none => .null),
    (.text skipEmptyRulesField, .bool settings.skipEmptyRules),
    (.text logLevelField, .text settings.logLevel),
    (.text logDirectoryField, .text settings.logDirectory),
    (.text logToFileField, .bool settings.logToFile)]

/-! ## Variables -/

/-- The name of the variable of a setting, in small letters. -/
def variableName (name : String) : String := "desktop_access_" ++ name

def smallName (name : String) : String := String.ofList (Text.lowered name.toList)

/-- The value of a setting among variables. Of names that differ in case only, the last counts. -/
def ofVariables (values : List (String × Option String)) (name : String) : Option String :=
  (values.reverse.find? fun entry => smallName entry.1 == variableName name).bind (·.2)

def variableFields (values : List (String × Option String)) : Fields :=
  fieldNames.filterMap fun name =>
    (ofVariables values name).map fun text => (.text name, .text text)

/-- The settings that are given outright, by an environment, and in a file of assignments. What
comes first counts. -/
def gather (given : Fields) (env : Environment) (file : Option String) : Checked Settings :=
  let assigned := match file with
    | some text => Assignment.values env (Assignment.ofText text)
    | none => []
  ofFields (given ++ variableFields (env.map fun entry => (entry.1, some entry.2)) ++
    variableFields assigned)

end Settings

/-! ## Settings that are kept -/

/-- Where settings come from, and those that were gathered first. -/
structure SettingsSource where
  env : Environment
  file : Option String := none
  kept : Option Settings := none

namespace SettingsSource

def fresh (source : SettingsSource) : Checked Settings :=
  Settings.gather [] source.env source.file

/-- `get_settings`: the settings that are kept. Without any, those of now are, unless they are
faulty. -/
def get (source : SettingsSource) : Checked Settings × SettingsSource :=
  match source.kept with
  | some settings => (.ok settings, source)
  | none =>
    match source.fresh with
    | .ok settings => (.ok settings, { source with kept := some settings })
    | .error issues => (.error issues, source)

def forget (source : SettingsSource) : SettingsSource := { source with kept := none }

/-- A variable gets a value. Settings that are kept do not change. -/
def set (name value : String) (source : SettingsSource) : SettingsSource :=
  { source with env := source.env.assign name value }

end SettingsSource

end DesktopPolicy
