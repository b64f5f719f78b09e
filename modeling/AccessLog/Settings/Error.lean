import AccessLog.Text.Quoted

/-!
# Faults in the settings

A variable whose value cannot be read at all, or can be read and is not acceptable.
-/

namespace AccessLog

inductive SettingsError where
  | unreadable (key value detail : String)
  | unacceptable (key detail : String)
  deriving DecidableEq, Repr

namespace SettingsError

def key : SettingsError → String
  | .unreadable key _ _ => key
  | .unacceptable key _ => key

def message : SettingsError → String
  | .unreadable key value detail => "failed to parse " ++ key ++ "='" ++ value ++ "': " ++ detail
  | .unacceptable key detail => "invalid value for " ++ key ++ ": " ++ detail

def debugText : SettingsError → String
  | .unreadable key value detail =>
    "Parse \x7b key: " ++ quoted key ++ ", value: " ++ quoted value ++ ", error: " ++ quoted detail
      ++ " \x7d"
  | .unacceptable key detail =>
    "Invalid \x7b key: " ++ quoted key ++ ", message: " ++ quoted detail ++ " \x7d"

end SettingsError

end AccessLog
