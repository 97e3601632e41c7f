import RecordFilter.Text.Utf8

/-!
# `RecordFilter.Config.Location`: where the settings are

A variable of the environment can name the file of the settings itself, or the directory that
holds the settings of all programs; otherwise they are under the home directory. A variable whose
bytes are not UTF-8 does not count, except for the home directory, where U+FFFD stands for what
cannot be read.
-/

set_option autoImplicit false

namespace RecordFilter

/-- The variables of an environment in bytes, and the home directory of the account. -/
structure Environment where
  entries : List (String × List UInt8)
  accountHome : String

namespace Environment

/-- The bytes of a variable. -/
def bytes? (env : Environment) (name : String) : Option (List UInt8) :=
  (env.entries.find? fun v => v.1 == name).map Prod.snd

/-- The text of a variable. -/
def text? (env : Environment) (name : String) : Option String :=
  (env.bytes? name).bind Text.ofUtf8?

/-- The home directory: the variable, unless it is empty, or that of the account. -/
def home (env : Environment) : String :=
  match env.bytes? "HOME" with
  | some (b :: bs) => Text.ofUtf8Lossy (b :: bs)
  | _ => env.accountHome

/-- A name below a directory. A slash comes between unless the directory ends with one or is
empty. -/
def below (directory name : String) : String :=
  if directory.isEmpty || directory.endsWith "/" then directory ++ name
  else directory ++ "/" ++ name

/-- The file of the settings below the directory that holds the settings of all programs. -/
def settingsBelow (directory : String) : String :=
  below (below directory "airsync") "config.toml"

/-- The path of the settings. -/
def configPath (env : Environment) : String :=
  match env.text? "AIRSYNC_CONFIG", env.text? "XDG_CONFIG_HOME" with
  | some path, _ => path
  | none, some directory => settingsBelow directory
  | none, none => settingsBelow (below env.home ".config")

end Environment

end RecordFilter
