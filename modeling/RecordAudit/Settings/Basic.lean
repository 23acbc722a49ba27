/-!
# Settings

What checks and logs are told from outside.
-/

namespace RecordAudit

structure SolverSettings where
  /-- The bound on the time of one check, in milliseconds. -/
  timeout : Int
  one_le_timeout : 1 ≤ timeout
  /-- Whether a violated constraint is checked once more without the record's values, for values
  that would satisfy it. -/
  witnessOnViolation : Bool

def SolverSettings.standard : SolverSettings := ⟨5000, by decide, false⟩

structure LoggingSettings where
  level : String
  format : String

def LoggingSettings.standard : LoggingSettings := ⟨"INFO", "console"⟩

structure Settings where
  solver : SolverSettings
  logging : LoggingSettings

end RecordAudit
