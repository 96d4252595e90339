-- Splitting an identifier into words and writing the words in kebab, snake and camel case. A word
-- ends at an underscore, a hyphen or a blank, which are dropped, between a small letter and a
-- capital, between a letter and a digit, and before the last capital of a run that a small letter
-- follows. Words may be empty: two delimiters in a row enclose one.
import EntityPipeline.Text.Cluster

namespace EntityPipeline.Text

/-- Whether a cluster is a delimiter between words. -/
def isDelimiter (cluster : List Char) : Bool :=
  cluster == ['_'] || cluster == ['-'] || cluster == [' ']

/-- Whether a cluster consists of ASCII digits. -/
def isDigitCluster (cluster : List Char) : Bool := cluster.all isAsciiDigit

/-- Whether a cluster has two cases and stands in capitals. -/
def isUpperCluster (cluster : List Char) : Bool :=
  upper cluster != lower cluster && cluster == upper cluster

/-- Whether a cluster has two cases and stands in small letters. -/
def isLowerCluster (cluster : List Char) : Bool :=
  upper cluster != lower cluster && cluster == lower cluster

/-- Whether a word ends between two clusters, given the one that follows them. -/
def endsWord (first second : List Char) (third : Option (List Char)) : Bool :=
  (isLowerCluster first && (isUpperCluster second || isDigitCluster second)) ||
  (isUpperCluster first && isDigitCluster second) ||
  (isDigitCluster first && (isLowerCluster second || isUpperCluster second)) ||
  (isUpperCluster first && isUpperCluster second && third.any isLowerCluster)

/-- The words of the clusters, the first of which goes on from an unfinished word. -/
def wordsFrom (current : List Char) : List (List Char) → List (List Char)
  | [] => [current]
  | first :: rest =>
    if isDelimiter first then current :: wordsFrom [] rest
    else match rest with
      | [] => [current ++ first]
      | second :: others =>
        if endsWord first second others.head? then
          (current ++ first) :: wordsFrom [] rest
        else wordsFrom (current ++ first) rest

/-- The words of an identifier. -/
def words (chars : List Char) : List (List Char) := wordsFrom [] (clusters chars)

/-- A word with a capital first letter and small letters after it. -/
def capitalize : List Char → List Char
  | [] => []
  | c :: rest => upperChar c ++ lower rest

/-- The words in small letters with a sign between them. -/
def joinLower (sign : Char) (chars : List Char) : List Char :=
  [sign].intercalate ((words chars).map lower)

/-- An identifier in kebab case. -/
def kebab (s : String) : String := String.ofList (joinLower '-' s.toList)

/-- An identifier in snake case. -/
def snake (s : String) : String := String.ofList (joinLower '_' s.toList)

/-- An identifier in camel case: the first word small, the others capitalised. -/
def camel (s : String) : String :=
  match words s.toList with
  | [] => ""
  | first :: others => String.ofList (lower first ++ others.flatMap capitalize)

end EntityPipeline.Text
