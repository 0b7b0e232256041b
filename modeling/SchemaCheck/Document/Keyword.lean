import SchemaCheck.Document
/-! The member names of a document and of a link, in the order in which a positional record lists them. -/
namespace SchemaCheck

inductive Keyword where
  | id | dialect | declaration | description | reference | sample | pattern | required
  | min | minValue | max | maxValue | minLength | maxLength
  | definitions | properties | items | choices | links
  deriving DecidableEq, Repr

namespace Keyword

def all : List Keyword :=
  [id, dialect, declaration, description, reference, sample, pattern, required,
   min, minValue, max, maxValue, minLength, maxLength,
   definitions, properties, items, choices, links]

def text : Keyword → String
  | id => "id" | dialect => "$schema" | declaration => "type" | description => "description"
  | reference => "$ref" | sample => "example" | pattern => "pattern" | required => "required"
  | min => "min" | minValue => "minValue" | max => "max" | maxValue => "maxValue"
  | minLength => "minLength" | maxLength => "maxLength"
  | definitions => "definitions" | properties => "properties" | items => "items"
  | choices => "enum" | links => "links"

def ofText? (s : String) : Option Keyword := all.find? (·.text == s)

theorem memberAll (k : Keyword) : k ∈ all := by cases k <;> decide

theorem parsedText (k : Keyword) : ofText? k.text = some k := by cases k <;> decide

theorem textOfParsed {s : String} {k : Keyword} (h : ofText? s = some k) : k.text = s := by
  simpa using List.find?_some h

end Keyword

inductive LinkKeyword where
  | title | href | method | rel | description | schema
  deriving DecidableEq, Repr

namespace LinkKeyword

def all : List LinkKeyword := [title, href, method, rel, description, schema]

def text : LinkKeyword → String
  | title => "title" | href => "href" | method => "method" | rel => "rel"
  | description => "description" | schema => "schema"

def ofText? (s : String) : Option LinkKeyword := all.find? (·.text == s)

theorem memberAll (k : LinkKeyword) : k ∈ all := by cases k <;> decide

theorem parsedText (k : LinkKeyword) : ofText? k.text = some k := by cases k <;> decide

theorem textOfParsed {s : String} {k : LinkKeyword} (h : ofText? s = some k) : k.text = s := by
  simpa using List.find?_some h

end LinkKeyword
end SchemaCheck
