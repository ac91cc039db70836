import EntityScaffold.Text.Quoted

/-!
What can go wrong with a path, worded with the number that systems give it. A device has reasons of
its own; one that breaks a write off is met behind the path and does not name it.
-/
namespace EntityScaffold

inductive FileProblem where
  | absent
  | exists
  | notDirectory
  | isDirectory
  | nameTooLong
  | zeroCharacter
  | denied (reason : String)
  | brokenOff (reason : String)
  deriving DecidableEq, Repr

def FileProblem.text : FileProblem → String
  | .absent => "[Errno 2] No such file or directory"
  | .exists => "[Errno 17] File exists"
  | .notDirectory => "[Errno 20] Not a directory"
  | .isDirectory => "[Errno 21] Is a directory"
  | .nameTooLong => "[Errno 36] File name too long"
  | .zeroCharacter => "embedded null character"
  | .denied reason | .brokenOff reason => reason

/-- A problem and the path it was met at, which may be a folder above the one asked for. -/
structure FileError where
  problem : FileProblem
  path : String
  deriving DecidableEq, Repr

def FileError.message (e : FileError) : String :=
  match e.problem with
  | .brokenOff reason => reason
  | problem => problem.text ++ ": " ++ Text.quoted e.path

end EntityScaffold
