import ClusterWatch.Failure
import ClusterWatch.Settings.Key

namespace ClusterWatch

structure Exit where
  code : Nat := 0
  output : String := ""
  errors : String := ""
  deriving Repr, DecidableEq

namespace Exit

def versionText : String := "kube-status 1.0.0\n"

def helpText : String :=
  let line (k : Settings.Key) : String :=
    "  --" ++ k.name ++ (if k.isSwitch then "" else " <value>") ++ "  [env: " ++ k.variableName ++ "]\n"
  "Usage: kube-status [settings] [run|api|history|snapshot] [settings]\n\nSettings:\n" ++
    String.join (Settings.Key.all.map line)

def usageText : Settings.Usage → String
  | .unknownArgument => "an argument is not known"
  | .invalidValue => "a value is missing or is none of those that are possible"
  | .valueValidation => "a value is not a number that fits"
  | .argumentConflict => "a setting is given twice"
  | .invalidSubcommand => "a command is not known"
  | .tooManyValues => "a value is given to what takes none"
  | .help | .version => ""

def ofUsage (u : Settings.Usage) : Exit :=
  match u with
  | .help => { output := helpText }
  | .version => { output := versionText }
  | u => { code := 2, errors := "error: " ++ usageText u ++ "\n\nFor more, try --help.\n" }

def ofFailure (f : Failure) : Exit :=
  { code := 1, errors := "error: " ++ f.message ++ "\n" }

def ofMishap : Mishap → Exit
  | .failure f => ofFailure f
  | .crash => { code := 101, errors := "error: the program has crashed\n" }

def ofExcept {α : Type} : Except Mishap α → Exit
  | .ok _ => {}
  | .error m => ofMishap m

end Exit

end ClusterWatch
