/-! Searching one text for another: occurrences are taken leftmost first and do not overlap. -/

namespace CommonExpr.Text

/-- Whether a text occurs in another; the empty one always does. -/
def occurs (sought : List Char) : List Char → Bool
  | [] => sought.isEmpty
  | c :: rest => sought.isPrefixOf (c :: rest) || occurs sought rest

/-- The pieces between the occurrences of a separator, of which `skip` characters
are still to be passed over; the piece under way is kept in reverse. -/
def piecesFrom (separator : List Char) : Nat → List Char → List Char → List (List Char)
  | _, piece, [] => [piece.reverse]
  | skip + 1, piece, _ :: rest => piecesFrom separator skip piece rest
  | 0, piece, c :: rest =>
    if separator.isPrefixOf (c :: rest) then
      piece.reverse :: piecesFrom separator (separator.length - 1) [] rest
    else piecesFrom separator 0 (c :: piece) rest

def pieces (separator text : List Char) : List (List Char) :=
  piecesFrom separator 0 [] text

def contains (text sought : String) : Bool :=
  occurs sought.toList text.toList

/-- An empty separator cuts between all characters. -/
def split (text separator : String) : List String :=
  if separator.isEmpty then text.toList.map fun c => String.ofList [c]
  else (pieces separator.toList text.toList).map String.ofList

/-- An empty text occurs before every character and at the end. -/
def replace (text old new : String) : String :=
  let between := new.toList
  if old.isEmpty then String.ofList (text.toList.foldr (fun c rest => between ++ c :: rest) between)
  else String.ofList (between.intercalate (pieces old.toList text.toList))

end CommonExpr.Text
