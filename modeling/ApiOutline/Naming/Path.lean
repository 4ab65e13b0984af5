import ApiOutline.Naming.Words

/-!
# Names of request paths

Three names are derived from a request path alone: the group an operation belongs to, the name of
the operation inside the group, and a full name in which every segment counts.

A path is taken as its segments, the stretches between slashes; empty stretches do not count.

* `NamingRules`: what the names depend on.
* `NamingRules.groupName`, `NamingRules.fullName`, `operationName`: the three names.
* `NamingRules.serviceName?`: the name in front of all full names.
-/

namespace ApiOutline

/-- What the names of paths depend on. -/
structure NamingRules where
  /-- The position of the segment that names the group. -/
  tagIndex : Option Nat
  /-- The positions of the segments left out of full names. -/
  cut : List Nat
  /-- The name of the service. -/
  baseName : Option String
  /-- What stands in front of every path. -/
  baseUrl : Option String
  deriving DecidableEq, Repr, Inhabited

namespace Naming

/-! ## Segments -/

/-- The stretches between slashes that are not empty. -/
def segmentsOf : List Char → List (List Char)
  | [] => []
  | c :: rest =>
    if c = '/' then segmentsOf rest
    else if rest.head?.any (· != '/') then extend c (segmentsOf rest)
    else [c] :: segmentsOf rest

/-- The segments of a path. -/
def segments (path : String) : List String :=
  (segmentsOf path.toList).map String.ofList

/-- The name of an operation: the last segment of its path. -/
def operationName (path : String) : String :=
  (segments path).getLast?.getD ""

/-- The name of a service by its address: without slashes, in camel case. -/
def nameOfUrl (url : String) : String :=
  String.ofList (joinCamel (words (url.toList.filter (· != '/'))))

end Naming

namespace NamingRules

open Naming

/-- A text, unless it is empty. -/
def unlessEmpty (s : String) : Option String :=
  if s.isEmpty then none else some s

/-- The name of the service: as given, or after its address. -/
def serviceName? (r : NamingRules) : Option String :=
  (r.baseName.bind unlessEmpty).or (r.baseUrl.bind fun url => unlessEmpty (nameOfUrl url))

/-- The group of a path: the segment chosen by position if the path is long enough, else the last
but one, else the only one. -/
def groupName (r : NamingRules) (path : String) : String :=
  let parts := segments path
  match r.tagIndex.bind (parts[·]?) with
  | some part => part
  | none =>
    match parts.reverse with
    | [] => ""
    | [part] => part
    | _ :: part :: _ => part

/-- The parts of a full name: the segments that are not cut, in camel case, without empty ones. -/
def nameParts (r : NamingRules) (path : String) : List String :=
  (((segments path).zipIdx.filter fun part => !r.cut.contains part.2).map fun part =>
    camelCase part.1).filter fun part => !part.isEmpty

/-- The full name of a path: its parts after the name of the service, joined by underscores. -/
def fullName (r : NamingRules) (path : String) : String :=
  "_".intercalate (r.serviceName?.toList ++ r.nameParts path)

end NamingRules

end ApiOutline
