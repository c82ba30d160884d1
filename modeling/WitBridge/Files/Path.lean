import WitBridge.Text.Pieces

/-!
# Paths

A path is text with slashes. The pieces between them are names; an empty piece and a single dot
stay where they are, two dots go up. A slash in front starts at the root.
-/
namespace WitBridge.Files

/-- The pieces of a path that are not empty. -/
def steps (path : String) : List String :=
  ((Text.pieces '/' path.toList).filter (· ≠ [])).map String.ofList

/-- Whether a path starts at the root. -/
def isRooted (path : String) : Bool :=
  path.toList.head? = some '/'

/-- Whether a path ends in a slash. -/
def endsInSlash (path : String) : Bool :=
  path.toList.getLast? = some '/'

/-- What a path keeps in front of its names: the slash of the root, or a dot that it starts
with. -/
def lead : List Char → List Char
  | '/' :: _ => ['/']
  | ['.'] => ['.']
  | '.' :: '/' :: _ => ['.']
  | _ => []

/-- Whether a piece stays where it is. -/
def isIdle (piece : List Char) : Bool :=
  piece = [] || piece = ['.']

/-- A path given by its pieces from the last to the first, and the paths that it runs through,
the nearest first. None of them ends in a piece that stays where it is. -/
def trail : List (List Char) → List (List (List Char))
  | [] => []
  | piece :: rest => if isIdle piece then trail rest else (piece :: rest) :: trail rest

/-- The directories that a path runs through, the nearest first. -/
def directories (path : String) : List String :=
  let front := lead path.toList
  let body := path.toList.drop front.length
  (trail (Text.pieces '/' body).reverse).tail.map fun pieces =>
    String.ofList (front ++ Text.join '/' pieces.reverse)

end WitBridge.Files
