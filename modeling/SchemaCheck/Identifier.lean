/-! Identifiers: those of the schemas inside a node are the owner's, extended by where they stand in it. -/
namespace SchemaCheck

def definitionId (owner name : String) : String := owner ++ "/definitions/" ++ name

def propertyId (owner name : String) : String := owner ++ "/properties/" ++ name

def itemsId (owner : String) : String := owner ++ "/items"

def linkId (owner : String) (index : Nat) : String := owner ++ "/links/" ++ toString index

def lastSegment (id : String) : String :=
  String.ofList (id.toList.reverse.takeWhile (· ≠ '/')).reverse

end SchemaCheck
