import Stepwise.Run.Fault
import Stepwise.Run.Outcome

namespace Stepwise

/-- Why the system does not start a program, with the path that it complains about. -/
inductive StartFault where
  | notFound (path : String)
  | denied (path : String)
  | notDirectory (path : String)
  /-- Any other fault of the system, by the name of its kind. -/
  | other (kind text : String)
deriving DecidableEq

namespace StartFault

def message : StartFault → String
  | notFound path => "FileNotFoundError: [Errno 2] No such file or directory: " ++ Text.quoted path
  | denied path => "PermissionError: [Errno 13] Permission denied: " ++ Text.quoted path
  | notDirectory path => "NotADirectoryError: [Errno 20] Not a directory: " ++ Text.quoted path
  | other kind text => kind ++ ": " ++ text

/-- The exit code that stands for the fault. -/
def code : StartFault → Int
  | notFound _ => 127
  | denied _ | notDirectory _ | other _ _ => 1

end StartFault

/-- What became of a command. -/
inductive Completion where
  | exited (code : Int) (stdout stderr : List UInt8)
  | timedOut
  | notStarted (fault : StartFault)
  /-- There is no word that names a program. -/
  | noProgram
  /-- A word that holds a null character cannot be handed over. -/
  | badWord
deriving DecidableEq

namespace Completion

/-- The exit code of a command that took too long. -/
def timeoutCode : Int := 124

/-- The outcome that a command is reported with. Its output is text in any case, and its line ends
    are line feeds. -/
def outcome (argv : List String) (limit : String) : Completion → Except HostFault Outcome
  | exited code stdout stderr => do
    let out ← (Text.ofBytes stdout).mapError .undecodable
    let err ← (Text.ofBytes stderr).mapError .undecodable
    return ⟨code, some (Text.plainLines out), some (Text.plainLines err)⟩
  | timedOut => .ok ⟨timeoutCode, some "",
      some ("Command timed out after " ++ limit ++ "s: " ++ " ".intercalate argv)⟩
  | notStarted fault => .ok ⟨fault.code, some "", some fault.message⟩
  | noProgram => .error .noSuchItem
  | badWord => .error (.badValue "embedded null byte")

end Completion

end Stepwise
