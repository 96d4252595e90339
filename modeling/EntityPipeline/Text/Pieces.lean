-- Texts cut at a separator.

namespace EntityPipeline.Text

/-- The pieces of a text between separators; there is always at least one. -/
def piecesAt (separator : Char) : List Char → List (List Char)
  | [] => [[]]
  | c :: rest =>
    match piecesAt separator rest with
    | [] => [[c]]
    | piece :: others =>
      if c == separator then [] :: piece :: others else (c :: piece) :: others

end EntityPipeline.Text
