import MapLoom.Text.Basic

set_option autoImplicit false

/-!
# Why a file cannot be used
-/
namespace MapLoom.Files

inductive Failure
  | notFound
  | notDirectory
  | isDirectory
  | tooManyLinks
  | notText
  deriving DecidableEq

def Failure.message : Failure → Text
  | .notFound => "No such file or directory (os error 2)"
  | .notDirectory => "Not a directory (os error 20)"
  | .isDirectory => "Is a directory (os error 21)"
  | .tooManyLinks => "Too many levels of symbolic links (os error 40)"
  | .notText => "stream did not contain valid UTF-8"

end MapLoom.Files
