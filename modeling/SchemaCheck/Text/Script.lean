import SchemaCheck.Text.Script.AToK
import SchemaCheck.Text.Script.LToZ
/-! The scripts that have characters of their own. -/
namespace SchemaCheck.Text.Script

def all : List Script := aToK ++ lToZ

end SchemaCheck.Text.Script
