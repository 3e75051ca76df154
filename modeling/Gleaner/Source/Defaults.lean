/-
  Gleaner/Source/Defaults.lean
  ============================
  **Rules for sources that have none.**  A rule group that a source leaves out
  altogether is replaced by one for the markup of a plain site of books.
-/
import Gleaner.Source.Basic

namespace Gleaner

def defaultSearchUrl : String := "/search?key=\x7bkey\x7d"

def defaultSearchRules : SearchRules where
  bookList := some "class.book-item@tag.li"
  name := some "text"
  author := some "class.author@text"
  intro := some "class.intro@text"
  bookUrl := some "tag.a@href"

def defaultDetailRules : DetailRules where
  name := some "text"
  author := some "class.author@text"
  intro := some "class.intro@text"
  kind := some "class.category@text"
  tocUrl := some "class.chapter@href"
  coverUrl := some "class.cover@src"

def defaultTocRules : TocRules where
  chapterList := some "class.chapter@tag.a"
  chapterName := some "text"
  chapterUrl := some "href"

def defaultContentRules : ContentRules where
  content := some "id.content@textNodes"
  title := some "class.chapter-title@text"

namespace Source

def searchRulesInUse (s : Source) : SearchRules := s.searchRules.getD defaultSearchRules

/-- The rule group for explore pages: that for explore pages, else that for search
    results. -/
def exploreGroupInUse (s : Source) : ListRules ⊕ SearchRules :=
  match s.exploreRules with
  | some r => .inl r
  | none => .inr s.searchRulesInUse

def exploreRulesInUse (s : Source) : ListRules :=
  match s.exploreGroupInUse with
  | .inl r => r
  | .inr r => r.toListRules

def detailRulesInUse (s : Source) : DetailRules := s.detailRules.getD defaultDetailRules

def tocRulesInUse (s : Source) : TocRules := s.tocRules.getD defaultTocRules

def contentRulesInUse (s : Source) : ContentRules := s.contentRules.getD defaultContentRules

def sample (lastUpdateTime : Int) : Source where
  url := "https://www.example.com"
  name := "演示书源"
  group := some "演示"
  lastUpdateTime := lastUpdateTime
  searchUrl := some defaultSearchUrl
  searchRules := some { defaultSearchRules with intro := none }
  detailRules := some defaultDetailRules
  tocRules := some defaultTocRules
  contentRules := some defaultContentRules

end Source

end Gleaner
