import RecordQuery.Like.Pieces

/-!
# Matching from left to right without going back

A text starts with the first piece of a pattern and ends with the last, and the pieces between them
are found one after the other, each where it first occurs behind the one before it. Nothing that
was found is ever given up.
-/

namespace RecordQuery.Like

/-- What is left of a text behind the first occurrence of a piece. -/
def behindFirst? (piece : List Char) (text : List Char) : Option (List Char) :=
  match piece.isPrefixOf? text with
  | some rest => some rest
  | none =>
    match text with
    | [] => none
    | _ :: text => behindFirst? piece text

/-- Whether the pieces follow each other in the text, the last of them at its end. -/
def scanPieces : List (List Char) → List Char → Bool
  | [], _ => true
  | [last], text => last.isSuffixOf text
  | piece :: next :: pieces, text =>
    match behindFirst? piece text with
    | some rest => scanPieces (next :: pieces) rest
    | none => false

/-- Whether the scan of a text for a pattern succeeds; a pattern without wildcards is looked for as
the whole text. -/
def scan (pattern text : List Char) : Bool :=
  match pieces pattern with
  | [] => false
  | [whole] => text == whole
  | first :: next :: pieces =>
    match first.isPrefixOf? text with
    | some rest => scanPieces (next :: pieces) rest
    | none => false

end RecordQuery.Like
