import Texdown.Text.Quoted

/-!
# Errors

Why an operation gives up. The first constructors are the conversion's own errors; the others say
that a value, a type, an offset, a file or an argument was wrong before a conversion could tell.
`Error.message` is the wording and `Error.exitCode` what the command line answers with.
-/
namespace Texdown

/-- What the file system answers. -/
inductive FileProblem where
  | missing
  | notDirectory
  | isDirectory
  | occupied
  | denied
  /-- A name is longer than names may be. -/
  | nameTooLong
  /-- The stream itself refuses, with a text of its own. -/
  | refused (reason : Text)
  deriving DecidableEq, Repr

namespace FileProblem

/-- The wording, with the path it is about. -/
def message (path : Text) : FileProblem → Text
  | missing => "[Errno 2] No such file or directory: ".toList ++ path.quoted
  | notDirectory => "[Errno 20] Not a directory: ".toList ++ path.quoted
  | isDirectory => "[Errno 21] Is a directory: ".toList ++ path.quoted
  | occupied => "[Errno 17] File exists: ".toList ++ path.quoted
  | denied => "[Errno 13] Permission denied: ".toList ++ path.quoted
  | nameTooLong => "[Errno 36] File name too long: ".toList ++ path.quoted
  | refused reason => reason

end FileProblem

/-- Why an operation gives up. -/
inductive Error where
  | conversion (message : Text)
  | validation (message : Text) (parameter : Option Text)
  | invalidOptions (component message : Text)
  | file (message : Text) (path : Option Text)
  | fileNotFound (path message : Text)
  | fileAccess (path message : Text)
  | parsing (message : Text) (stage : Option Text)
  | rendering (message : Text) (stage : Option Text)
  | outputWrite (path : Option Text) (message : Text)
  | malformedStream (message : Text)
  | inconsistentTable (message : Text) (position : Option Int)
  | compilation (message : Text) (engine log : Option Text)
  | security (message : Text)
  | networkSecurity (message : Text)
  | dependency (feature : Text) (missing : List (Text × Text)) (installCommand message : Text)
  /-- A value is outside its range. -/
  | badValue (message : Text)
  /-- A value has the wrong type. -/
  | wrongType (message : Text)
  /-- A value lacks what is asked of it. -/
  | unsupported (message : Text)
  /-- What callers promise does not hold. -/
  | assertion (message : Text)
  | outOfRange
  | missingKey
  | undecodable
  | badArgument (message : Text)
  /-- A condition on versions that cannot be read. -/
  | badCondition (written : Text)
  | importFailed (message : Text)
  /-- Anything else that a part supplied by the caller reports. -/
  | unexpected (message : Text)
  | system (path : Text) (problem : FileProblem)
  deriving DecidableEq, Repr

namespace Error

/-! ## Usual wordings -/

def fileNotFoundAt (path : Text) : Error := .fileNotFound path ("File not found: ".toList ++ path)

def fileAccessAt (path : Text) : Error := .fileAccess path ("Cannot access file: ".toList ++ path)

/-- Writing failed; a stream has no path. -/
def outputWriteTo : Option Text → Error
  | some path =>
    if path.isEmpty then .outputWrite (some path) "I/O error writing output".toList
    else .outputWrite (some path) ("I/O error writing output: ".toList ++ path)
  | none => .outputWrite none "I/O error writing output".toList

def invalidOptionsFor (component expected received : Text) : Error :=
  .invalidOptions component
    (component ++ " expected options of type '".toList ++ expected ++ "' but received '".toList
      ++ received ++ "'.".toList)

/-- Packages that a feature needs, as a requirement is written. -/
private def requirement (quote : Text) (p : Text × Text) : Text := quote ++ p.1 ++ p.2 ++ quote

def dependencyOn (feature : Text) (missing : List (Text × Text)) (installCommand : Text) : Error :=
  let names := missing.map (requirement ['\''])
  let hint : Text :=
    if !installCommand.isEmpty then "\nInstall with: ".toList ++ installCommand
    else if missing.isEmpty then []
    else
      let packages := missing.map fun p => if p.2.isEmpty then p.1 else requirement ['"'] p
      "\nInstall with: pip install --upgrade ".toList ++ List.intercalate [' '] packages
  .dependency feature missing installCommand
    (feature ++ " requires the following packages: ".toList
      ++ List.intercalate ", ".toList names ++ hint)

/-! ## Wording and exit codes -/

def message : Error → Text
  | conversion m | validation m _ | invalidOptions _ m | file m _ | fileNotFound _ m
  | fileAccess _ m | parsing m _ | rendering m _ | outputWrite _ m | malformedStream m
  | inconsistentTable m _ | compilation m _ _ | security m | networkSecurity m
  | dependency _ _ _ m | badValue m | wrongType m | unsupported m | assertion m | badArgument m
  | importFailed m | unexpected m => m
  | outOfRange => "index out of range".toList
  | missingKey => "missing key".toList
  | undecodable => "not UTF-8".toList
  | badCondition written => "Invalid specifier: ".toList ++ written.quoted
  | system path problem => problem.message path

def exitCode : Error → Nat
  | security _ | networkSecurity _ => 8
  | dependency .. | importFailed _ => 2
  | validation .. | invalidOptions .. | badValue _ | undecodable | badArgument _
  | badCondition _ => 3
  | file .. | fileNotFound .. | fileAccess .. => 4
  | parsing .. => 6
  | rendering .. | outputWrite .. | malformedStream _ | inconsistentTable .. => 7
  | compilation .. => 11
  | _ => 1

end Error
end Texdown
