/-
  Gleaner/Source/Basic.lean
  =========================
  **Book sources.**  A source is a base address, addresses of search and explore
  pages, request headers, and one rule group per kind of page.  Sources are read
  leniently: a member that is missing or of the wrong kind counts as absent, and
  members that are not known are passed over.
-/
import Gleaner.Source.Rules
import Gleaner.Fault
import Gleaner.Json.Reader
import Gleaner.Json.Shown

namespace Gleaner

structure Source where
  url : String
  name : String := "未命名书源"
  group : Option String := none
  kind : Int := 0
  bookUrlPattern : Option String := none
  customOrder : Int := 0
  enabled : Bool := true
  enabledExplore : Bool := true
  comment : Option String := none
  jsLib : Option String := none
  enabledCookieJar : Option Bool := some true
  concurrentRate : Option String := none
  header : Option String := none
  loginUrl : Option String := none
  loginUi : Option String := none
  loginCheckJs : Option String := none
  coverDecodeJs : Option String := none
  variableComment : Option String := none
  lastUpdateTime : Int := 0
  respondTime : Int := 180000
  weight : Int := 0
  exploreUrl : Option String := none
  exploreScreen : Option String := none
  searchUrl : Option String := none
  searchRules : Option SearchRules := none
  exploreRules : Option ListRules := none
  detailRules : Option DetailRules := none
  tocRules : Option TocRules := none
  contentRules : Option ContentRules := none
deriving DecidableEq, Repr, Inhabited

namespace Source

/-! ### Reading -/

def unnamed : String := "未命名书源"

/-- The whole number that a member holds: a number, or a string that writes one, whatever
    blanks are around it. -/
def readInt (ms : Json.Members) (key : String) (otherwise : Int) : Int :=
  match Json.find? key ms with
  | some (.int n) => n
  | some (.str s) => (Text.parseInt? (Text.trim s)).getD otherwise
  | _ => otherwise

def readBool? (ms : Json.Members) (key : String) : Option Bool :=
  match Json.find? key ms with
  | some (.bool b) => some b
  | _ => none

def readGroup? {α : Type} (ofMembers : Json.Members → α) (ms : Json.Members) (key : String) :
    Option α :=
  match Json.find? key ms with
  | some (.obj g) => some (ofMembers g)
  | _ => none

def readName (ms : Json.Members) (key : String) : String :=
  match RuleField.read ms key with
  | some "" => unnamed
  | some s => s
  | none => unnamed

def ofMembers (ms : Json.Members) : Source where
  url := (RuleField.read ms "bookSourceUrl").getD ""
  name := readName ms "bookSourceName"
  group := RuleField.read ms "bookSourceGroup"
  kind := readInt ms "bookSourceType" 0
  bookUrlPattern := RuleField.read ms "bookUrlPattern"
  customOrder := readInt ms "customOrder" 0
  enabled := (readBool? ms "enabled").getD true
  enabledExplore := (readBool? ms "enabledExplore").getD true
  comment := RuleField.read ms "bookSourceComment"
  jsLib := RuleField.read ms "jsLib"
  enabledCookieJar := readBool? ms "enabledCookieJar"
  concurrentRate := RuleField.read ms "concurrentRate"
  header := RuleField.read ms "header"
  loginUrl := RuleField.read ms "loginUrl"
  loginUi := RuleField.read ms "loginUi"
  loginCheckJs := RuleField.read ms "loginCheckJs"
  coverDecodeJs := RuleField.read ms "coverDecodeJs"
  variableComment := RuleField.read ms "variableComment"
  lastUpdateTime := readInt ms "lastUpdateTime" 0
  respondTime := readInt ms "respondTime" 180000
  weight := readInt ms "weight" 0
  exploreUrl := RuleField.read ms "exploreUrl"
  exploreScreen := RuleField.read ms "exploreScreen"
  searchUrl := RuleField.read ms "searchUrl"
  searchRules := readGroup? SearchRules.ofMembers ms "ruleSearch"
  exploreRules := readGroup? ListRules.ofMembers ms "ruleExplore"
  detailRules := readGroup? DetailRules.ofMembers ms "ruleBookInfo"
  tocRules := readGroup? TocRules.ofMembers ms "ruleToc"
  contentRules := readGroup? ContentRules.ofMembers ms "ruleContent"

/-- The source that a value describes, which has to be an object. -/
def ofJson : Json → Except Fault Source
  | .obj ms => .ok (ofMembers ms)
  | v => .error (.noOperation ("'" ++ v.kindName ++ "' object has no attribute 'get'"))

def parseJson (text : String) : Except Fault Json :=
  match Json.parse text.toList with
  | .ok v => .ok v
  | .error f =>
      match f.problem with
      | .tooManyDigits n => .error (.badValue (Text.digitLimitText n))
      | _ => .error (.notJson (f.message text.toList))

def parse (text : String) : Except Fault Source := do
  ofJson (← parseJson text)

/-- The sources of a list of values; those that are no objects are passed over. -/
def ofItems : List Json → List Source
  | [] => []
  | .obj ms :: vs => ofMembers ms :: ofItems vs
  | _ :: vs => ofItems vs

def parseFile (text : String) : Except Fault (List Source) := do
  match ← parseJson text with
  | .obj ms => .ok [ofMembers ms]
  | .arr items => .ok (ofItems items)
  | _ => .error (.badValue "Source file must contain a JSON object or array")

/-! ### Writing -/

def textOrNull (s : Option String) : Json := RuleField.write s

def groupOrNull {α : Type} (members : α → Json.Members) : Option α → Json
  | none => .null
  | some g => .obj (members g)

def members (s : Source) : Json.Members :=
  [("bookSourceUrl", .str s.url),
   ("bookSourceName", .str s.name),
   ("bookSourceGroup", textOrNull s.group),
   ("bookSourceType", .int s.kind),
   ("bookUrlPattern", textOrNull s.bookUrlPattern),
   ("customOrder", .int s.customOrder),
   ("enabled", .bool s.enabled),
   ("enabledExplore", .bool s.enabledExplore),
   ("bookSourceComment", textOrNull s.comment),
   ("jsLib", textOrNull s.jsLib),
   ("enabledCookieJar", (s.enabledCookieJar.map Json.bool).getD .null),
   ("concurrentRate", textOrNull s.concurrentRate),
   ("header", textOrNull s.header),
   ("loginUrl", textOrNull s.loginUrl),
   ("loginUi", textOrNull s.loginUi),
   ("loginCheckJs", textOrNull s.loginCheckJs),
   ("coverDecodeJs", textOrNull s.coverDecodeJs),
   ("variableComment", textOrNull s.variableComment),
   ("lastUpdateTime", .int s.lastUpdateTime),
   ("respondTime", .int s.respondTime),
   ("weight", .int s.weight),
   ("exploreUrl", textOrNull s.exploreUrl),
   ("exploreScreen", textOrNull s.exploreScreen),
   ("searchUrl", textOrNull s.searchUrl),
   ("ruleSearch", groupOrNull SearchRules.members s.searchRules),
   ("ruleExplore", groupOrNull ListRules.members s.exploreRules),
   ("ruleBookInfo", groupOrNull DetailRules.members s.detailRules),
   ("ruleToc", groupOrNull TocRules.members s.tocRules),
   ("ruleContent", groupOrNull ContentRules.members s.contentRules)]

def toJson (s : Source) : Json := .obj s.members

def text (s : Source) : String := s.toJson.indented

/-- Writing and reading gives the same source. -/
def readsBack (s : Source) : Bool :=
  match parse s.text with
  | .ok t => decide (t = s)
  | .error _ => false

/-- Two descriptions of one source: those with the same base address. -/
def isSame (s t : Source) : Bool := s.url == t.url

/-! ### Headers -/

/-- The headers for requests: the header text is an object, whose members that are
    not null are headers; any other Json gives none. -/
def requestHeaders (s : Source) : Except Fault (List (String × String)) :=
  match s.header with
  | none => .ok []
  | some text =>
      if text = "" then .ok []
      else
        match parseJson text with
        | .ok (.obj ms) =>
            .ok ((ms.filter fun (_, v) => !v.isNull).map fun (k, v) => (k, v.shown))
        | .ok _ => .ok []
        | .error (.notJson _) => .ok []
        | .error f => .error f

end Source

end Gleaner
