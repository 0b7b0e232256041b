/-! What is logged on the way. How a record is written, and whether it is, is up to who reads the log. -/
namespace SchemaCheck

inductive Level where
  | debug | info | warn
  deriving DecidableEq, Repr

structure LogRecord where
  level : Level
  message : String
  fields : List (String × String)
  deriving DecidableEq, Repr

end SchemaCheck
