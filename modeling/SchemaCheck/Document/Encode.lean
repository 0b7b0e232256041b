import SchemaCheck.Document.Keyword
/-! A document as data: empty parts are left out, the two lengths are always there, and a section entry
without a schema is null. -/
namespace SchemaCheck

namespace Document

def member (k : Keyword) (v : Option Value) : List (String × Value) :=
  (v.map fun v => (k.text, v)).toList

def ofText (s : String) : Option Value := if s.isEmpty then none else some (.string s)

def ofTexts (ss : List String) : Option Value :=
  if ss.isEmpty then none else some (.array (ss.map .string))

def ofEntries (members : List (String × Value)) : Option Value :=
  if members.isEmpty then none else some (.object members)

def ofItems (items : List Value) : Option Value :=
  if items.isEmpty then none else some (.array items)

mutual

def toValue : Document → Value
  | d@{ definitions, properties, items, links, .. } => .object (Entries.ofList (
    member .id (ofText d.id) ++
    member .dialect (ofText d.dialect) ++
    member .declaration (d.declaration.map Declaration.toValue) ++
    member .description (ofText d.description) ++
    member .reference (ofText d.reference) ++
    member .sample d.sample ++
    member .pattern (ofText d.pattern) ++
    member .required (ofTexts d.required) ++
    member .min (d.min.map Value.ofNumber) ++
    member .minValue (d.minValue.map Value.ofNumber) ++
    member .max (d.max.map Value.ofNumber) ++
    member .maxValue (d.maxValue.map Value.ofNumber) ++
    member .minLength (some (.int d.minLength)) ++
    member .maxLength (some (.int d.maxLength)) ++
    member .definitions (ofEntries (entryValues definitions)) ++
    member .properties (ofEntries (entryValues properties)) ++
    member .items (optionalValue? items) ++
    member .choices (ofTexts d.choices) ++
    member .links (ofItems (linkValues links))))

def optionalValue? : Option Document → Option Value
  | none => none
  | some d => some (toValue d)

def entryValues : List (String × Option Document) → List (String × Value)
  | [] => []
  | (k, none) :: rest => (k, .null) :: entryValues rest
  | (k, some d) :: rest => (k, toValue d) :: entryValues rest

def linkValues : List (Link Document) → List Value
  | [] => []
  | { title, href, method, rel, description, schema } :: rest =>
    let part (k : LinkKeyword) (v : Option Value) : List (String × Value) :=
      (v.map fun v => (k.text, v)).toList
    .object (Entries.ofList (
      part .title (ofText title) ++ part .href (ofText href) ++ part .method (ofText method) ++
      part .rel (ofText rel) ++ part .description (ofText description) ++
      part .schema (optionalValue? schema))) :: linkValues rest

end

end Document
end SchemaCheck
