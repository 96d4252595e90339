-- Laying one JSON value over another. Null and the empty object change nothing; two objects give an
-- object in which the second one's members win; nothing else can be merged.
import EntityPipeline.Failure

namespace EntityPipeline

/-- Whether a value leaves what it is merged with as it is. -/
def Json.isEmptyLayer : Json → Bool
  | .null => true
  | .object [] => true
  | _ => false

/-- The kind of a value as messages name it. -/
def Json.kind : Json → String
  | .null => "null"
  | .bool _ => "a boolean"
  | .number _ => "a number"
  | .string _ => "a string"
  | .array _ => "an array"
  | .object _ => "an object"

/-- The second value laid over the first, member by member and not deeper. -/
def merge (first second : Json) : Except Failure Json :=
  if first.isEmptyLayer then .ok second
  else if second.isEmptyLayer then .ok first
  else match first, second with
    | .object base, .object layer => .ok (.object (Json.overlay base layer))
    | _, _ =>
      .error (.merge ("can only merge objects, got " ++ first.kind ++ " and " ++ second.kind))

/-- Null and the empty object change nothing from below. -/
theorem merge_of_isEmptyLayer {first : Json} (h : first.isEmptyLayer = true) (second : Json) :
    merge first second = .ok second := by simp [merge, h]

/-- Layers laid over a base, the later ones over the earlier. -/
def mergeAll (base : Json) : List Json → Except Failure Json
  | [] => .ok base
  | layer :: rest =>
    match merge base layer with
    | .error e => .error e
    | .ok merged => mergeAll merged rest

end EntityPipeline
