import SchemaCheck.Text.Category.Letters
import SchemaCheck.Text.Category.Marks
import SchemaCheck.Text.Category.Numbers
import SchemaCheck.Text.Category.Signs
import SchemaCheck.Text.Category.Others
/-! General categories of characters. Every character is in one; those in none of the tables are
unassigned. -/
namespace SchemaCheck.Text

inductive Category where
  | upperLetter | lowerLetter | titleLetter | modifierLetter | otherLetter
  | nonspacingMark | spacingMark | enclosingMark
  | decimalDigit | letterNumber | otherNumber
  | connector | dash | opening | closing | initialQuote | finalQuote | otherPunctuation
  | mathSign | currencySign | modifierSign | otherSign
  | space | lineSeparator | paragraphSeparator
  | control | format | privateUse
  deriving DecidableEq, Repr

namespace Category

def ranges : Category → Ranges
  | upperLetter => upperLetters
  | lowerLetter => lowerLetters
  | titleLetter => titleLetters
  | modifierLetter => modifierLetters
  | otherLetter => otherLetters
  | nonspacingMark => nonspacingMarks
  | spacingMark => spacingMarks
  | enclosingMark => enclosingMarks
  | decimalDigit => decimalDigits
  | letterNumber => letterNumbers
  | otherNumber => otherNumbers
  | connector => connectors
  | dash => dashes
  | opening => openings
  | closing => closings
  | initialQuote => initialQuotes
  | finalQuote => finalQuotes
  | otherPunctuation => otherPunctuations
  | mathSign => mathSigns
  | currencySign => currencySigns
  | modifierSign => modifierSigns
  | otherSign => otherSigns
  | space => spaces
  | lineSeparator => lineSeparators
  | paragraphSeparator => paragraphSeparators
  | control => controls
  | format => formats
  | privateUse => privateCharacters

def casedLetters : List Category := [upperLetter, lowerLetter, titleLetter]

def letters : List Category := casedLetters ++ [modifierLetter, otherLetter]

def marks : List Category := [nonspacingMark, spacingMark, enclosingMark]

def numbers : List Category := [decimalDigit, letterNumber, otherNumber]

def punctuation : List Category :=
  [connector, dash, opening, closing, initialQuote, finalQuote, otherPunctuation]

def signs : List Category := [mathSign, currencySign, modifierSign, otherSign]

def separators : List Category := [space, lineSeparator, paragraphSeparator]

def hidden : List Category := [control, format, privateUse]

def all : List Category := letters ++ marks ++ numbers ++ punctuation ++ signs ++ separators ++ hidden

def except (kinds : List Category) : List Category := all.filter fun g => !kinds.contains g

end Category
end SchemaCheck.Text
