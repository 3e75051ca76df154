/-
  Gleaner/Url/Template.lean
  =========================
  **Addresses of search and explore pages.**  A template has places for the
  keyword, in percent encoding, and for the number of the page.
-/
import Gleaner.Url.Parts
import Gleaner.Url.Percent

namespace Gleaner.Url

def keyPlace : List Char := "\x7bkey\x7d".toList

def keywordPlace : List Char := "\x7bkeyword\x7d".toList

def pagePlace : List Char := "\x7bpage\x7d".toList

/-- The number of a page, at least one.  It is written out at any length, also with more than
    `Text.maxDigits` digits, of which no number is read. -/
def pageText (page : Int) : List Char := (toString (max page 1)).toList

def fillKeyword (keyword : Option String) (template : List Char) : List Char :=
  match keyword with
  | none => template
  | some k =>
      let encoded := percentEncode isUnreserved k.toList
      Text.replaceAll keywordPlace encoded (Text.replaceAll keyPlace encoded template)

def fillTemplate (template : String) (keyword : Option String) (page : Int) : String :=
  String.ofList (Text.replaceAll pagePlace (pageText page) (fillKeyword keyword template.toList))

def searchUrl (base template keyword : String) (page : Int) : Except Fault String :=
  full base (fillTemplate (Text.trim template) (some keyword) page)

def exploreUrl (base template : String) (page : Int) : Except Fault String :=
  full base (fillTemplate (Text.trim template) none page)

end Gleaner.Url
