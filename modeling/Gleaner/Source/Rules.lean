/-
  Gleaner/Source/Rules.lean
  =========================
  **The rule groups of a source.**  A group has one rule per field that can be
  read from a page of its kind; a rule that is not there leaves its field empty.
  In a source file a group is an object with one member per rule, and only
  strings count as rules.
-/
import Gleaner.Json.Basic

namespace Gleaner

/-- A rule of a group: the name it is asked for by, its name in source files, and
    the rule itself. -/
structure RuleField (α : Type) where
  name : String
  key : String
  get : α → Option String

namespace RuleField

def read (ms : Json.Members) (key : String) : Option String :=
  match Json.find? key ms with
  | some (.str s) => some s
  | _ => none

def write : Option String → Json
  | none => .null
  | some s => .str s

def members {α : Type} (fields : List (RuleField α)) (g : α) : Json.Members :=
  fields.map fun f => (f.key, write (f.get g))

def lookup {α : Type} (fields : List (RuleField α)) (g : α) (name : String) : Option String :=
  (fields.find? (·.name == name)).bind (·.get g)

end RuleField

/-! ### ListRules -/

structure ListRules where
  bookList : Option String := none
  name : Option String := none
  author : Option String := none
  intro : Option String := none
  kind : Option String := none
  lastChapter : Option String := none
  updateTime : Option String := none
  bookUrl : Option String := none
  coverUrl : Option String := none
  wordCount : Option String := none
deriving DecidableEq, Repr, Inhabited

namespace ListRules

def fields : List (RuleField ListRules) :=
  [⟨"book_list", "bookList", (·.bookList)⟩, ⟨"name", "name", (·.name)⟩,
   ⟨"author", "author", (·.author)⟩, ⟨"intro", "intro", (·.intro)⟩, ⟨"kind", "kind", (·.kind)⟩,
   ⟨"last_chapter", "lastChapter", (·.lastChapter)⟩,
   ⟨"update_time", "updateTime", (·.updateTime)⟩, ⟨"book_url", "bookUrl", (·.bookUrl)⟩,
   ⟨"cover_url", "coverUrl", (·.coverUrl)⟩, ⟨"word_count", "wordCount", (·.wordCount)⟩]

def ofMembers (ms : Json.Members) : ListRules where
  bookList := RuleField.read ms "bookList"
  name := RuleField.read ms "name"
  author := RuleField.read ms "author"
  intro := RuleField.read ms "intro"
  kind := RuleField.read ms "kind"
  lastChapter := RuleField.read ms "lastChapter"
  updateTime := RuleField.read ms "updateTime"
  bookUrl := RuleField.read ms "bookUrl"
  coverUrl := RuleField.read ms "coverUrl"
  wordCount := RuleField.read ms "wordCount"

def members (g : ListRules) : Json.Members := RuleField.members fields g

def lookup (g : ListRules) (name : String) : Option String := RuleField.lookup fields g name

end ListRules

/-! ### SearchRules -/

structure SearchRules extends ListRules where
  checkKeyWord : Option String := none
deriving DecidableEq, Repr, Inhabited

namespace SearchRules

def fields : List (RuleField SearchRules) :=
  ListRules.fields.map (fun f => ⟨f.name, f.key, fun g => f.get g.toListRules⟩)
    ++ [⟨"check_key_word", "checkKeyWord", (·.checkKeyWord)⟩]

def ofMembers (ms : Json.Members) : SearchRules where
  toListRules := ListRules.ofMembers ms
  checkKeyWord := RuleField.read ms "checkKeyWord"

def members (g : SearchRules) : Json.Members := RuleField.members fields g

def lookup (g : SearchRules) (name : String) : Option String := RuleField.lookup fields g name

end SearchRules

/-! ### DetailRules -/

structure DetailRules where
  init : Option String := none
  name : Option String := none
  author : Option String := none
  intro : Option String := none
  kind : Option String := none
  lastChapter : Option String := none
  updateTime : Option String := none
  coverUrl : Option String := none
  tocUrl : Option String := none
  wordCount : Option String := none
  canRename : Option String := none
  downloadUrls : Option String := none
deriving DecidableEq, Repr, Inhabited

namespace DetailRules

def fields : List (RuleField DetailRules) :=
  [⟨"init", "init", (·.init)⟩, ⟨"name", "name", (·.name)⟩, ⟨"author", "author", (·.author)⟩,
   ⟨"intro", "intro", (·.intro)⟩, ⟨"kind", "kind", (·.kind)⟩,
   ⟨"last_chapter", "lastChapter", (·.lastChapter)⟩,
   ⟨"update_time", "updateTime", (·.updateTime)⟩, ⟨"cover_url", "coverUrl", (·.coverUrl)⟩,
   ⟨"toc_url", "tocUrl", (·.tocUrl)⟩, ⟨"word_count", "wordCount", (·.wordCount)⟩,
   ⟨"can_rename", "canReName", (·.canRename)⟩,
   ⟨"download_urls", "downloadUrls", (·.downloadUrls)⟩]

def ofMembers (ms : Json.Members) : DetailRules where
  init := RuleField.read ms "init"
  name := RuleField.read ms "name"
  author := RuleField.read ms "author"
  intro := RuleField.read ms "intro"
  kind := RuleField.read ms "kind"
  lastChapter := RuleField.read ms "lastChapter"
  updateTime := RuleField.read ms "updateTime"
  coverUrl := RuleField.read ms "coverUrl"
  tocUrl := RuleField.read ms "tocUrl"
  wordCount := RuleField.read ms "wordCount"
  canRename := RuleField.read ms "canReName"
  downloadUrls := RuleField.read ms "downloadUrls"

def members (g : DetailRules) : Json.Members := RuleField.members fields g

def lookup (g : DetailRules) (name : String) : Option String := RuleField.lookup fields g name

end DetailRules

/-! ### TocRules -/

structure TocRules where
  preUpdateJs : Option String := none
  chapterList : Option String := none
  chapterName : Option String := none
  chapterUrl : Option String := none
  formatJs : Option String := none
  isVolume : Option String := none
  isVip : Option String := none
  isPay : Option String := none
  updateTime : Option String := none
  nextTocUrl : Option String := none
deriving DecidableEq, Repr, Inhabited

namespace TocRules

def fields : List (RuleField TocRules) :=
  [⟨"pre_update_js", "preUpdateJs", (·.preUpdateJs)⟩,
   ⟨"chapter_list", "chapterList", (·.chapterList)⟩,
   ⟨"chapter_name", "chapterName", (·.chapterName)⟩,
   ⟨"chapter_url", "chapterUrl", (·.chapterUrl)⟩, ⟨"format_js", "formatJs", (·.formatJs)⟩,
   ⟨"is_volume", "isVolume", (·.isVolume)⟩, ⟨"is_vip", "isVip", (·.isVip)⟩,
   ⟨"is_pay", "isPay", (·.isPay)⟩, ⟨"update_time", "updateTime", (·.updateTime)⟩,
   ⟨"next_toc_url", "nextTocUrl", (·.nextTocUrl)⟩]

def ofMembers (ms : Json.Members) : TocRules where
  preUpdateJs := RuleField.read ms "preUpdateJs"
  chapterList := RuleField.read ms "chapterList"
  chapterName := RuleField.read ms "chapterName"
  chapterUrl := RuleField.read ms "chapterUrl"
  formatJs := RuleField.read ms "formatJs"
  isVolume := RuleField.read ms "isVolume"
  isVip := RuleField.read ms "isVip"
  isPay := RuleField.read ms "isPay"
  updateTime := RuleField.read ms "updateTime"
  nextTocUrl := RuleField.read ms "nextTocUrl"

def members (g : TocRules) : Json.Members := RuleField.members fields g

def lookup (g : TocRules) (name : String) : Option String := RuleField.lookup fields g name

end TocRules

/-! ### ContentRules -/

structure ContentRules where
  content : Option String := none
  title : Option String := none
  nextContentUrl : Option String := none
  webJs : Option String := none
  sourceRegex : Option String := none
  replaceRegex : Option String := none
  imageStyle : Option String := none
  imageDecode : Option String := none
  payAction : Option String := none
deriving DecidableEq, Repr, Inhabited

namespace ContentRules

def fields : List (RuleField ContentRules) :=
  [⟨"content", "content", (·.content)⟩, ⟨"title", "title", (·.title)⟩,
   ⟨"next_content_url", "nextContentUrl", (·.nextContentUrl)⟩, ⟨"web_js", "webJs", (·.webJs)⟩,
   ⟨"source_regex", "sourceRegex", (·.sourceRegex)⟩,
   ⟨"replace_regex", "replaceRegex", (·.replaceRegex)⟩,
   ⟨"image_style", "imageStyle", (·.imageStyle)⟩,
   ⟨"image_decode", "imageDecode", (·.imageDecode)⟩, ⟨"pay_action", "payAction", (·.payAction)⟩]

def ofMembers (ms : Json.Members) : ContentRules where
  content := RuleField.read ms "content"
  title := RuleField.read ms "title"
  nextContentUrl := RuleField.read ms "nextContentUrl"
  webJs := RuleField.read ms "webJs"
  sourceRegex := RuleField.read ms "sourceRegex"
  replaceRegex := RuleField.read ms "replaceRegex"
  imageStyle := RuleField.read ms "imageStyle"
  imageDecode := RuleField.read ms "imageDecode"
  payAction := RuleField.read ms "payAction"

def members (g : ContentRules) : Json.Members := RuleField.members fields g

def lookup (g : ContentRules) (name : String) : Option String := RuleField.lookup fields g name

end ContentRules

end Gleaner
