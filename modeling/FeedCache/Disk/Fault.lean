/-
This file names what can go wrong with files and directories.
-/
namespace FeedCache.Disk

inductive Fault where
  | missing
  | exists
  | notADirectory
  | isADirectory
  | nameTooLong
  | zeroInName
  deriving DecidableEq, Repr

def Fault.message : Fault → String
  | .missing => "No such file or directory (os error 2)"
  | .exists => "File exists (os error 17)"
  | .notADirectory => "Not a directory (os error 20)"
  | .isADirectory => "Is a directory (os error 21)"
  | .nameTooLong => "File name too long (os error 36)"
  | .zeroInName => "file name contained an unexpected NUL byte"

end FeedCache.Disk
