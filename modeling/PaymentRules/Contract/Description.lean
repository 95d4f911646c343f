import PaymentRules.Json.Carried
import PaymentRules.Json.Decode

/-!
# Descriptions and links

What a client is shown is a list of descriptions. Only the parts that rules touch are known here,
and the members of a page are carried along. A redirect may come with a link that holds the
parameters for the way back.
-/

namespace PaymentRules

/-- A page of a description. -/
structure Page where
  name : String
  members : List Carried

/-- A description: what identifies it, and its pages. -/
structure Description where
  identity : TextMap
  pages : List Page

/-- A link to a service, with the parameters for the way back. -/
structure ServiceLink where
  baseUrl : String
  parameters : TextMap

namespace TextMap

/-- The document of a map. -/
def toJson (map : TextMap) : Json :=
  .object (map.pairs.map fun pair => (pair.1, .string pair.2))

end TextMap

namespace Page

/-- The document of a page. -/
def toJson (page : Page) : Json :=
  .object [("displayName", .string page.name), ("members", .array (page.members.map (·.value)))]

/-- The page that a document is. -/
def ofJson? (json : Json) : Option Page := do
  match ← json.record? ["displayName", "members"] with
  | [name, members] =>
    return {
      name := ← Json.required Json.text? name
      members := ← Json.orDefault [] (Json.list? Carried.ofJson?) members }
  | _ => none

end Page

namespace Description

/-- The document of a description. -/
def toJson (description : Description) : Json :=
  .object [("identity", description.identity.toJson),
    ("displayPages", .array (description.pages.map Page.toJson))]

/-- The description that a document is. -/
def ofJson? (json : Json) : Option Description := do
  match ← json.record? ["identity", "displayPages"] with
  | [identity, pages] =>
    return {
      identity := ← Json.required Json.textMap? identity
      pages := ← Json.orDefault [] (Json.list? Page.ofJson?) pages }
  | _ => none

/-- The document of several descriptions. -/
def listToJson (descriptions : List Description) : Json :=
  .array (descriptions.map toJson)

/-- The descriptions that a document is. -/
def listOfJson? : Json → Option (List Description) :=
  Json.list? ofJson?

end Description

namespace ServiceLink

/-- The document of a link. -/
def toJson (link : ServiceLink) : Json :=
  .object [("baseUrl", .string link.baseUrl), ("ruParameters", link.parameters.toJson)]

/-- The link that a document is. -/
def ofJson? (json : Json) : Option ServiceLink := do
  match ← json.record? ["baseUrl", "ruParameters"] with
  | [baseUrl, parameters] =>
    return {
      baseUrl := ← Json.required Json.text? baseUrl
      parameters := ← Json.required Json.textMap? parameters }
  | _ => none

end ServiceLink

end PaymentRules
