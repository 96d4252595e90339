-- The user-perceived characters of a text: a base character with the marks after it and the signs
-- before it. Hangul blocks, flags and Indic conjuncts are left apart, because none of their parts
-- has a case and words are never split at them.
import EntityPipeline.Text.ClusterTable
import EntityPipeline.Text.Case

namespace EntityPipeline.Text

/-- Whether a character is a control or a format character. -/
def isControl (c : Char) : Bool :=
  if isAscii c then c.toNat < 32 || c.toNat == 127 else inIntervals ClusterTable.controls c.toNat

/-- Whether a character belongs to the one before it. -/
def isMark (c : Char) : Bool := !isAscii c && inIntervals ClusterTable.marks c.toNat

/-- Whether a character belongs to the one after it. -/
def isHead (c : Char) : Bool := !isAscii c && inIntervals ClusterTable.heads c.toNat

/-- Whether a character is a pictograph. -/
def isPictograph (c : Char) : Bool := !isAscii c && inIntervals ClusterTable.pictographs c.toNat

/-- The character that glues two pictographs. -/
def joiner : Char := Char.ofNat 0x200d

/-- Whether a cluster is a pictograph with marks and ends in a joiner. -/
def endsInJoinedPictograph (cluster : List Char) : Bool :=
  match cluster.reverse with
  | last :: before =>
    last == joiner && (before.dropWhile isMark).head?.any isPictograph
  | [] => false

/-- Whether a character continues a cluster. -/
def joins (cluster : List Char) (c : Char) : Bool :=
  match cluster.getLast? with
  | none => true
  | some last =>
    if last == '\r' && c == '\n' then true
    else if isControl last || isControl c then false
    else isMark c || isHead last || (isPictograph c && endsInJoinedPictograph cluster)

/-- The clusters of a text that goes on from an unfinished cluster. -/
def clustersFrom (current : List Char) : List Char → List (List Char)
  | [] => [current]
  | c :: rest =>
    if joins current c then clustersFrom (current ++ [c]) rest
    else current :: clustersFrom [c] rest

/-- The clusters of a text, in order. -/
def clusters : List Char → List (List Char)
  | [] => []
  | c :: rest => clustersFrom [c] rest

end EntityPipeline.Text
