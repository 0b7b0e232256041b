import SchemaCheck.Document.Check
import SchemaCheck.Identifier
/-! What a document comes to under an identifier, apart from any registry: its normalized schema, and
its nodes with their identifiers, each after those inside it. -/
namespace SchemaCheck.Document

mutual

def normalize (id : String) : Document → Schema
  | d@{ definitions, properties, items, links, .. } =>
    d.schemaWith id (normalizeEntries (definitionId id) definitions)
      (normalizeEntries (propertyId id) properties) (normalizeOptional (itemsId id) items)
      (normalizeLinks (linkId id) 0 links)

def normalizeOptional (id : String) : Option Document → Option Schema
  | none => none
  | some d => some (normalize id d)

def normalizeEntries (idOf : String → String) :
    List (String × Option Document) → List (String × Schema)
  | [] => []
  | (_, none) :: rest => normalizeEntries idOf rest
  | (name, some d) :: rest => (name, normalize (idOf name) d) :: normalizeEntries idOf rest

def normalizeLinks (idOf : Nat → String) (index : Nat) : List (Link Document) → List (Link Schema)
  | [] => []
  | { title, href, method, rel, description, schema } :: rest =>
    { title, href, method, rel, description, schema := normalizeOptional (idOf index) schema } ::
      normalizeLinks idOf (index + 1) rest

end

mutual

def nodes (id : String) : Document → List (String × Document)
  | d@{ definitions, properties, items, links, .. } =>
    nodesOfEntries (definitionId id) definitions ++ nodesOfEntries (propertyId id) properties ++
    nodesOfLinks (linkId id) 0 links ++ nodesOfOptional (itemsId id) items ++ [(id, d)]

def nodesOfOptional (id : String) : Option Document → List (String × Document)
  | none => []
  | some d => nodes id d

def nodesOfEntries (idOf : String → String) :
    List (String × Option Document) → List (String × Document)
  | [] => []
  | (_, none) :: rest => nodesOfEntries idOf rest
  | (name, some d) :: rest => nodes (idOf name) d ++ nodesOfEntries idOf rest

def nodesOfLinks (idOf : Nat → String) (index : Nat) : List (Link Document) → List (String × Document)
  | [] => []
  | { schema, .. } :: rest =>
    nodesOfOptional (idOf index) schema ++ nodesOfLinks idOf (index + 1) rest

end

end SchemaCheck.Document
