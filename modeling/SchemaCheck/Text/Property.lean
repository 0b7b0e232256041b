import SchemaCheck.Text.Blank
import SchemaCheck.Text.CharSet
import SchemaCheck.Text.Property.Table
import SchemaCheck.Text.Script
/-! Properties of characters, and the names that properties, categories and scripts go by. -/
namespace SchemaCheck.Text.Property
open Category (decimalDigits letterNumbers connectors)

def assigned : CharSet := .ofCategories Category.all

def marks : CharSet := .ofCategories Category.marks

def alphabetic : CharSet :=
  .union (.ranges (letterNumbers ++ enclosedLetters))
    (.union (.ofCategories Category.letters)
      (.diff (.ofCategories [.nonspacingMark, .spacingMark]) (.ranges silentMarks)))

def lowercase : CharSet := .union (.ofCategories [.lowerLetter]) (.ranges smallSigns)

def uppercase : CharSet := .union (.ofCategories [.upperLetter]) (.ranges capitalSigns)

def cased : CharSet := .union (.ofCategories [.titleLetter]) (.union lowercase uppercase)

def graphemeExtend : CharSet :=
  .union (.ofCategories [.nonspacingMark, .enclosingMark]) (.ranges graphemeTails)

def identifierStart : CharSet :=
  .diff (.union (.ofCategories (Category.letters ++ [.letterNumber])) (.ranges moreStarts))
    (.ranges [(0x2e2f, 0x2e2f)])

def identifierContinue : CharSet :=
  .union identifierStart
    (.union (.ofCategories [.nonspacingMark, .spacingMark, .decimalDigit, .connector])
      (.ranges moreContinues))

def joiners : Ranges := [(0x200c, 0x200d)]

def word : CharSet :=
  .ranges ((Category.letters ++ Category.marks).flatMap Category.ranges ++
    decimalDigits ++ letterNumbers ++ connectors ++ enclosedLetters ++ joiners)

def asciiHex : Ranges := [(0x30, 0x39), (0x41, 0x46), (0x61, 0x66)]

def wideHex : Ranges := [(0xff10, 0xff19), (0xff21, 0xff26), (0xff41, 0xff46)]

abbrev Names := List (List String × CharSet)

def properties : Names := [
  (["Alphabetic", "Alpha"], alphabetic),
  (["ASCII_Hex_Digit", "AHex"], .ranges asciiHex),
  (["Cased"], cased),
  (["Dash"], .ranges (Category.dashes ++ moreDashes)),
  (["Default_Ignorable_Code_Point", "DI"], .ranges ignorables),
  (["Emoji"], .ranges emoji),
  (["Emoji_Component", "EComp"], .ranges emojiParts),
  (["Emoji_Modifier", "EMod"], .ranges [(0x1f3fb, 0x1f3ff)]),
  (["Emoji_Modifier_Base", "EBase"], .ranges emojiBases),
  (["Emoji_Presentation", "EPres"], .ranges emojiPictures),
  (["Extended_Pictographic", "ExtPict"], .ranges pictures),
  (["Grapheme_Extend", "Gr_Ext"], graphemeExtend),
  (["Hex_Digit", "Hex"], .ranges (asciiHex ++ wideHex)),
  (["ID_Continue", "IDC"], identifierContinue),
  (["ID_Start", "IDS"], identifierStart),
  (["Ideographic", "Ideo"], .ranges ideographs),
  (["Join_Control", "Join_C"], .ranges joiners),
  (["Lowercase", "Lower"], lowercase),
  (["Math"], .ranges (Category.mathSigns ++ moreMath)),
  (["Noncharacter_Code_Point", "NChar"], .ranges nonCharacters),
  (["Pattern_Syntax", "Pat_Syn"], .ranges patternSyntax),
  (["Pattern_White_Space", "Pat_WS"], .ranges patternBlanks),
  (["Quotation_Mark", "QMark"], .ranges quotationMarks),
  (["Radical"], .ranges radicals),
  (["Regional_Indicator", "RI"], .ranges [(0x1f1e6, 0x1f1ff)]),
  (["Unified_Ideograph", "UIdeo"], .ranges unifiedIdeographs),
  (["Uppercase", "Upper"], uppercase),
  (["Variation_Selector", "VS"], .ranges variationSelectors),
  (["White_Space", "WSpace", "space"], .ranges whiteSpace),
  (["XID_Continue", "XIDC"], .diff identifierContinue (.ranges unstableContinues)),
  (["XID_Start", "XIDS"], .diff identifierStart (.ranges unstableStarts))]

def categories : Names := [
  (["Any"], .full),
  (["Assigned"], assigned),
  (["ASCII"], .ranges [(0, 0x7f)]),
  (["Other", "C"], .compl (.ofCategories (Category.except Category.hidden))),
  (["Control", "Cc", "cntrl"], .ofCategories [.control]),
  (["Format", "Cf"], .ofCategories [.format]),
  (["Unassigned", "Cn"], .compl assigned),
  (["Private_Use", "Co"], .ofCategories [.privateUse]),
  (["Letter", "L"], .ofCategories Category.letters),
  (["Cased_Letter", "LC"], .ofCategories Category.casedLetters),
  (["Lowercase_Letter", "Ll"], .ofCategories [.lowerLetter]),
  (["Modifier_Letter", "Lm"], .ofCategories [.modifierLetter]),
  (["Other_Letter", "Lo"], .ofCategories [.otherLetter]),
  (["Titlecase_Letter", "Lt"], .ofCategories [.titleLetter]),
  (["Uppercase_Letter", "Lu"], .ofCategories [.upperLetter]),
  (["Mark", "M", "Combining_Mark"], marks),
  (["Spacing_Mark", "Mc"], .ofCategories [.spacingMark]),
  (["Enclosing_Mark", "Me"], .ofCategories [.enclosingMark]),
  (["Nonspacing_Mark", "Mn"], .ofCategories [.nonspacingMark]),
  (["Number", "N"], .ofCategories Category.numbers),
  (["Decimal_Number", "Nd", "digit"], .ofCategories [.decimalDigit]),
  (["Letter_Number", "Nl"], .ofCategories [.letterNumber]),
  (["Other_Number", "No"], .ofCategories [.otherNumber]),
  (["Punctuation", "P", "punct"], .ofCategories Category.punctuation),
  (["Connector_Punctuation", "Pc"], .ofCategories [.connector]),
  (["Dash_Punctuation", "Pd"], .ofCategories [.dash]),
  (["Close_Punctuation", "Pe"], .ofCategories [.closing]),
  (["Final_Punctuation", "Pf"], .ofCategories [.finalQuote]),
  (["Initial_Punctuation", "Pi"], .ofCategories [.initialQuote]),
  (["Other_Punctuation", "Po"], .ofCategories [.otherPunctuation]),
  (["Open_Punctuation", "Ps"], .ofCategories [.opening]),
  (["Symbol", "S"], .ofCategories Category.signs),
  (["Currency_Symbol", "Sc"], .ofCategories [.currencySign]),
  (["Modifier_Symbol", "Sk"], .ofCategories [.modifierSign]),
  (["Math_Symbol", "Sm"], .ofCategories [.mathSign]),
  (["Other_Symbol", "So"], .ofCategories [.otherSign]),
  (["Separator", "Z"], .ofCategories Category.separators),
  (["Line_Separator", "Zl"], .ofCategories [.lineSeparator]),
  (["Paragraph_Separator", "Zp"], .ofCategories [.paragraphSeparator]),
  (["Space_Separator", "Zs"], .ofCategories [.space])]

def scripts : Names := Script.all.map fun s => (s.names, .ranges s.ranges)

def plainLetters (cs : List Char) : List Char :=
  (cs.filter fun c => c.toNat < 0x80 && c != ' ' && c != '_' && c != '-').map Char.toLower

def looseName (cs : List Char) : List Char :=
  if (cs.take 2).map Char.toLower == ['i', 's'] then
    let rest := plainLetters (cs.drop 2)
    if rest == ['c'] then ['i', 's', 'c'] else rest
  else plainLetters cs

def lookup (names : Names) (name : List Char) : Option CharSet :=
  (names.find? fun e => e.1.any fun s => looseName s.toList == looseName name).map (·.2)

def named? (name : List Char) : Option CharSet :=
  (lookup properties name).orElse fun _ => (lookup categories name).orElse fun _ => lookup scripts name

def valued? (kind name : List Char) : Option CharSet :=
  let kind := String.ofList (looseName kind)
  if kind == "gc" || kind == "generalcategory" then lookup categories name
  else if kind == "sc" || kind == "script" then lookup scripts name
  else none

end SchemaCheck.Text.Property
