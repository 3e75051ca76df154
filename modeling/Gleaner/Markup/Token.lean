/-
  Gleaner/Markup/Token.lean
  =========================
  **The pieces of a document.**  A document is read as a sequence of tokens, from
  which `Markup.Node` builds a tree.
-/

namespace Gleaner.Markup

inductive Token where
  /-- The tag at which an element starts; `closed` when it also ends there. -/
  | startTag (name : String) (attributes : List (String × String)) (closed : Bool)
  | endTag (name : String)
  | text (content : List Char)
  | comment (content : List Char)
  | doctype (content : List Char)
  | marked (content : List Char)
  | instruction (content : List Char)
deriving DecidableEq, Repr

end Gleaner.Markup
