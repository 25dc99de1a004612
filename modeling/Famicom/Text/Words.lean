namespace Famicom.Text

def isBlank (character : Char) : Bool :=
  let code := character.toNat
  (9 ≤ code && code ≤ 13) || code == 0x20 || code == 0x85 || code == 0xa0 || code == 0x1680 ||
    (0x2000 ≤ code && code ≤ 0x200a) || code == 0x2028 || code == 0x2029 || code == 0x202f ||
    code == 0x205f || code == 0x3000

def split (separates : Char → Bool) : List Char → List (List Char)
  | [] => [[]]
  | character :: rest =>
      if separates character then [] :: split separates rest
      else match split separates rest with
        | [] => [[character]]
        | piece :: pieces => (character :: piece) :: pieces

def words (text : String) : List String :=
  ((split isBlank text.toList).filter (fun piece => !piece.isEmpty)).map String.ofList

def trim (text : String) : String :=
  let leading := text.toList.dropWhile isBlank
  String.ofList (leading.reverse.dropWhile isBlank).reverse

/-- A line feed ends a line, together with a carriage return before it. What follows the last line
feed is a line of its own unless it is empty. -/
def lines (text : String) : List String :=
  let pieces := split (· == '\n') text.toList
  let withoutReturn (piece : List Char) : List Char :=
    if piece.getLast? = some '\r' then piece.dropLast else piece
  let ended := pieces.dropLast.map withoutReturn
  let last := pieces.getLast?.toList.filter (fun piece => !piece.isEmpty)
  (ended ++ last).map String.ofList

end Famicom.Text
