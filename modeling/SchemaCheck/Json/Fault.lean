import SchemaCheck.Document.Reader
import SchemaCheck.Value.Dump
/-! Why a JSON text gives no document: the text ends too soon, is badly formed, or holds something else
than is asked for. -/
namespace SchemaCheck.Json

inductive Unfinished where
  | value | string | list | object
  deriving DecidableEq, Repr

inductive Malformed where
  | ident | value | colon | listEnd | objectEnd | number | escape | codePoint | loneSurrogate
  | hexEscapeEnd | controlCharacter | key | trailingComma | trailingCharacters | outOfRange | tooDeep
  deriving DecidableEq, Repr

inductive Found where
  | null | bool (b : Bool) | int (n : Int) | float (x : Binary64) | string (s : String)
  | sequence | map
  deriving DecidableEq, Repr

inductive Fault where
  | eof (u : Unfinished)
  | malformed (m : Malformed)
  | wrongType (found : Found) (wanted : Wanted)
  | wrongValue (found : Found) (wanted : Wanted)
  | repeated (name : String)
  deriving DecidableEq, Repr

inductive Category where
  | malformed | data | eof
  deriving DecidableEq, Repr

def Unfinished.message : Unfinished → String
  | value => "EOF while parsing a value"
  | string => "EOF while parsing a string"
  | list => "EOF while parsing a list"
  | object => "EOF while parsing an object"

def Malformed.message : Malformed → String
  | ident => "expected ident"
  | value => "expected value"
  | colon => "expected \x60:\x60"
  | listEnd => "expected \x60,\x60 or \x60]\x60"
  | objectEnd => "expected \x60,\x60 or \x60\x7d\x60"
  | number => "invalid number"
  | escape => "invalid escape"
  | codePoint => "invalid unicode code point"
  | loneSurrogate => "lone leading surrogate in hex escape"
  | hexEscapeEnd => "unexpected end of hex escape"
  | controlCharacter => "control character (\\u0000-\\u001F) found while parsing a string"
  | key => "key must be a string"
  | trailingComma => "trailing comma"
  | trailingCharacters => "trailing characters"
  | outOfRange => "number out of range"
  | tooDeep => "recursion limit exceeded"

def ticked (s : String) : String := "\x60" ++ s ++ "\x60"

def Found.describe : Found → String
  | null => "null"
  | bool b => "boolean " ++ ticked (if b then "true" else "false")
  | int n => "integer " ++ ticked (toString n)
  | float x => "floating point " ++ ticked x.text
  | string s => "string " ++ Text.quoted s
  | sequence => "sequence"
  | map => "map"

end SchemaCheck.Json

namespace SchemaCheck

def Wanted.describe : Wanted → String
  | text => "a string"
  | number => "f64"
  | length => "i64"
  | sequence => "a sequence"
  | map => "a map"
  | document => "struct RawSchema"
  | link => "struct RawLink"

namespace Json.Fault

def category : Fault → Category
  | eof _ => .eof
  | malformed _ => .malformed
  | wrongType .. | wrongValue .. | repeated _ => .data

def message : Fault → String
  | eof u => u.message
  | malformed m => m.message
  | wrongType found wanted => "invalid type: " ++ found.describe ++ ", expected " ++ wanted.describe
  | wrongValue found wanted => "invalid value: " ++ found.describe ++ ", expected " ++ wanted.describe
  | repeated name => "duplicate field " ++ ticked name

end SchemaCheck.Json.Fault
