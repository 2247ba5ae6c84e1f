import MapLoom.Text.Alphanumeric

set_option autoImplicit false

/-!
# Words and case styles

A name is cut into words at every character that is not alphanumeric, after a lower-case letter
before an upper-case one, and before the last of several upper-case letters when a lower-case one
follows. A case style writes the words and joins them.
-/
namespace MapLoom

/-- What the letters read since the last cut were. -/
inductive LetterRun
  | none
  | lower
  | upper
  deriving DecidableEq

namespace LetterRun

def next (run : LetterRun) (c : Char) : LetterRun :=
  if Letter.isLower c then .lower else if Letter.isUpper c then .upper else run

end LetterRun

namespace Text

/-- The words of an alphanumeric piece; `word` holds the characters since the last cut, reversed. -/
def pieceWords (run : LetterRun) (word : Text) : Text → List Text
  | [] => if word = [] then [] else [word.reverse]
  | [c] => [(c :: word).reverse]
  | c :: next :: t =>
    if run.next c = .lower ∧ Letter.isUpper next then
      (c :: word).reverse :: pieceWords .none [] (next :: t)
    else if run = .upper ∧ Letter.isUpper c ∧ Letter.isLower next then
      word.reverse :: pieceWords .none [c] (next :: t)
    else pieceWords (run.next c) (c :: word) (next :: t)

def pieces : Text → List Text
  | [] => [[]]
  | c :: t =>
    match pieces t with
    | [] => [[]]
    | piece :: rest => if Letter.isAlphanumeric c then (c :: piece) :: rest else [] :: piece :: rest

def words (t : Text) : List Text := (pieces t).flatMap (pieceWords .none [])

/-- A word in lower case; a capital sigma that ends it takes the final form. -/
def lowerWord : Text → Text
  | [] => []
  | ['Σ'] => ['ς']
  | c :: t => Letter.lower c ++ lowerWord t

def capitalWord : Text → Text
  | [] => []
  | c :: t => Letter.upper c ++ lowerWord t

def snakeCase (t : Text) : Text := join "_" ((words t).map lowerWord)

def kebabCase (t : Text) : Text := join "-" ((words t).map lowerWord)

def pascalCase (t : Text) : Text := ((words t).map capitalWord).flatten

def camelCase (t : Text) : Text :=
  match words t with
  | [] => []
  | word :: rest => lowerWord word ++ (rest.map capitalWord).flatten

end Text
end MapLoom
