import ApiOutline.Json.Basic
import ApiOutline.Outline.Basic

/-!
# Listings

A listing is an outline laid out for templates.  Types are shown as texts, with model names in their
namespace, and every entry of a list says whether it is the first and whether it is the last.

* `Marked`, `marked`: the entries of a list with their marks.
* `Listing.ofOutline`: the listing of an outline.
* `Listing.encode`: its written form.
-/

namespace ApiOutline

/-! ## Marks -/

/-- An entry of a list with the marks of its place. -/
structure Marked (α : Type) where
  entry : α
  first : Bool
  last : Bool
  deriving DecidableEq, Repr

/-- The entries after the first one, with their marks. -/
def markedRest {α : Type} : List α → List (Marked α)
  | [] => []
  | a :: rest => ⟨a, false, rest.isEmpty⟩ :: markedRest rest

/-- The entries of a list with their marks. -/
def marked {α : Type} : List α → List (Marked α)
  | [] => []
  | a :: rest => ⟨a, true, rest.isEmpty⟩ :: markedRest rest

/-! ## Listings -/

/-- A property whose type is shown. -/
structure PropertyListing where
  name : String
  description : Option String
  type : String
  required : Bool
  deriving DecidableEq, Repr

/-- A model whose types are shown. -/
structure ModelListing where
  name : String
  className : String
  description : Option String
  properties : List (Marked PropertyListing)
  deriving DecidableEq, Repr

/-- An endpoint whose types are shown. -/
structure EndpointListing where
  /-- The endpoint itself. -/
  endpoint : Endpoint
  paramsType : Option String
  dataType : Option String
  returnType : String
  deriving DecidableEq, Repr

/-- A group with its endpoints. -/
structure GroupListing where
  name : String
  endpoints : List (Marked EndpointListing)
  deriving DecidableEq, Repr

/-- An outline laid out for templates. -/
structure Listing where
  baseName : String
  /-- The names of the groups. -/
  index : List (Marked String)
  groups : List GroupListing
  models : List (Marked ModelListing)
  deriving DecidableEq, Repr

/-- A property with its type shown. -/
def PropertyListing.of (space : Option String) (p : Property) : PropertyListing :=
  ⟨p.name, p.description, p.type.render space, p.required⟩

/-- A model with its types shown. -/
def ModelListing.of (space : Option String) (m : Model) : ModelListing :=
  ⟨m.name, m.className, m.description, marked (m.properties.map (.of space))⟩

/-- An endpoint with its types shown. -/
def EndpointListing.of (space : Option String) (e : Endpoint) : EndpointListing :=
  ⟨e, e.paramsType.map (·.render space), e.dataType.map (·.render space), e.returnType.render space⟩

/-- The listing of an outline, with model names in the namespace `space`. -/
def Listing.ofOutline (space : Option String) (o : Outline) : Listing where
  baseName := o.baseName.getD ""
  index := marked o.groups.names
  groups := o.grouped.map fun g => ⟨g.1, marked (g.2.map (.of space))⟩
  models := marked (o.models.map (.of space))

/-! ## The written form -/

open Json

/-- The written form of marked entries: the members of each entry, then its marks. -/
def encodeMarked {α : Type} (members : α → List (String × Json)) (entries : List (Marked α)) : Json :=
  .arr (entries.map fun m =>
    .obj (members m.entry ++ [("-first", .bool m.first), ("-last", .bool m.last)]))

/-- The members of a property. -/
def PropertyListing.members (p : PropertyListing) : List (String × Json) :=
  field "name" (.str p.name) ++ fieldIfSome "description" str p.description
    ++ field "type" (.str p.type) ++ field "required" (.bool p.required)

/-- The members of a model. -/
def ModelListing.members (m : ModelListing) : List (String × Json) :=
  field "name" (.str m.name) ++ field "className" (.str m.className)
    ++ fieldIfSome "description" str m.description
    ++ field "properties" (encodeMarked PropertyListing.members m.properties)

/-- The members of an endpoint. -/
def EndpointListing.members (e : EndpointListing) : List (String × Json) :=
  field "apiName" (.str e.endpoint.group) ++ field "path" (.str e.endpoint.path)
    ++ field "method" (.str e.endpoint.style.name) ++ field "name" (.str e.endpoint.name)
    ++ field "fullName" (.str e.endpoint.fullName)
    ++ fieldIfSome "summary" str e.endpoint.summary
    ++ fieldIfSome "paramsType" str e.paramsType
    ++ fieldIfSome "paramsRequired" bool e.endpoint.paramsRequired
    ++ fieldIfSome "dataType" str e.dataType
    ++ fieldIfSome "dataRequired" bool e.endpoint.dataRequired
    ++ field "returnType" (.str e.returnType)
    ++ field "hasBody" (.bool e.endpoint.hasBody) ++ field "hasArgs" (.bool e.endpoint.hasArgs)
    ++ field "hasReturn" (.bool e.endpoint.hasReturn)

/-- The members of the name of a group. -/
def groupMembers (name : String) : List (String × Json) :=
  field "name" (.str name)

/-- The written form of a listing. -/
def Listing.encode (l : Listing) : Json :=
  .obj [
    ("index", .obj [("baseName", .str l.baseName), ("apis", encodeMarked groupMembers l.index)]),
    ("apis", .arr (l.groups.map fun g => .obj [
      ("api", .obj (groupMembers g.name)),
      ("operations", encodeMarked EndpointListing.members g.endpoints)])),
    ("models", encodeMarked ModelListing.members l.models)]

end ApiOutline
