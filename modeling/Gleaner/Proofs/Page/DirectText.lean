/-
  Gleaner/Proofs/Page/DirectText.lean
  ===================================
  **The text directly in an element.**  Text and marked pieces of text follow each other
  in an element.  Read as a page, such a body is a document with this element in it; of
  the element one rule reads the text directly inside it and leaves the marked pieces
  out, another reads all of its text (`direct_text_is_isolated`).
-/
import Gleaner.Page.Basic
import Gleaner.Proofs.Markup.Written

namespace Gleaner

open Markup

/-! ### Written documents as pages -/

/-- A document that is written plainly and starts with an element is read as it is. -/
theorem Page.read_written {n : Node} {ns : List Node} (h : Plain (n :: ns))
    (hfront : n.isElement = true) :
    Page.read (.text (String.ofList (written (n :: ns))))
      = .ok (.document (.ofDocument (.element documentName [] (n :: ns)))) := by
  have hmarkup : (Body.text (String.ofList (written (n :: ns)))).looksLikeJson = false := by
    cases h with
    | text => exact absurd hfront (by simp [Node.isElement])
    | element =>
        simp [Body.looksLikeJson, written, Body.mark, show Text.isBlank '<' = false by decide]
  simp [Page.read, hmarkup, readMarkup, tokens_written h, ofTokens_tokensOf h]

/-! ### Text between marked pieces -/

/-- Text that a document can hold as it is: no character of it starts markup, and it is
    empty or more than the blanks of markup.  A text with any character that is not blank
    is more than those. -/
structure Fits (t : String) : Prop where
  noMarkup : ∀ c ∈ t.toList, c ≠ '<' ∧ c ≠ '&'
  solid : t = "" ∨ ∃ c ∈ t.toList, Text.isMarkupBlank c = false

instance (t : String) : Decidable (Fits t) :=
  decidable_of_iff ((t.toList.all fun c => c != '<' && c != '&') = true
      ∧ (t = "" ∨ (t.toList.any fun c => !Text.isMarkupBlank c) = true))
    ⟨fun h => ⟨by simpa using h.1, by simpa using h.2⟩,
      fun h => ⟨by simpa using h.noMarkup, by simpa using h.solid⟩⟩

def chunk (t : String) : List Node := if t = "" then [] else [.text .plain t]

/-- A text, and then marked pieces each with a text after it. -/
def mixed (t : String) : List (String × String) → List Node
  | [] => chunk t
  | (x, u) :: parts => chunk t ++ .element "span" [("class", "ad")] (chunk x) :: mixed u parts

section
variable {t : String}

theorem plain_chunk (h : Fits t) (ns : List Node) (hnext : ∀ n ∈ ns.head?, n.isElement = true)
    (hrest : Plain ns) : Plain (chunk t ++ ns) := by
  unfold chunk
  split
  · exact hrest
  · next hne => exact .text ⟨h.noMarkup, h.solid.resolve_left hne⟩ hnext hrest

theorem written_chunk (t : String) (ns : List Node) :
    written (chunk t ++ ns) = t.toList ++ written ns := by
  unfold chunk
  split
  · next h => simp [h]
  · simp [written]

theorem plainTag_span : PlainTag "span" [("class", "ad")] :=
  plainTag_single (by decide) (by decide) (by decide) (by decide) ⟨by decide, by simp, by decide⟩

theorem plainTag_div : PlainTag "div" [("id", "content")] :=
  plainTag_single (by decide) (by decide) (by decide) (by decide) ⟨by decide, by simp, by decide⟩

theorem plain_mixed {parts : List (String × String)} (ht : Fits t)
    (hparts : ∀ p ∈ parts, Fits p.1 ∧ Fits p.2) : Plain (mixed t parts) := by
  induction parts generalizing t with
  | nil => simpa [mixed] using plain_chunk ht [] (by simp) .nil
  | cons p parts ih =>
    obtain ⟨hx, hu⟩ := hparts p List.mem_cons_self
    have hinside : Plain (chunk p.1) := by simpa using plain_chunk hx [] (by simp) .nil
    have hmore := ih hu fun q hq => hparts q (List.mem_cons_of_mem p hq)
    exact plain_chunk ht _ (by simp [Node.isElement]) (.element plainTag_span hinside hmore)

def markedText (parts : List (String × String)) : String :=
  String.join (parts.map fun (x, u) => "<span class=\"ad\">" ++ x ++ "</span>" ++ u)

theorem written_mixed (t : String) (parts : List (String × String)) :
    written (mixed t parts) = (t ++ markedText parts).toList := by
  induction parts generalizing t with
  | nil => simpa [mixed, markedText, written] using written_chunk t []
  | cons p parts ih =>
    have hinside : written (chunk p.1) = p.1.toList := by simpa [written] using written_chunk p.1 []
    simp [mixed, written_chunk, written, hinside, ih, markedText, spelledAttributes,
      String.join_cons]

/-! ### What is read from the element -/

def ownPiece? : Node → Option String
  | .text kind content => if kind.isMarked then none else some content
  | .element .. => none

theorem ownText_eq (n : Node) : n.ownText = String.join (n.children.filterMap ownPiece?) := by
  rw [Node.ownText]
  congr 2

/-- The text directly in an element leaves the marked pieces out. -/
theorem ownPieces_mixed (t : String) (parts : List (String × String)) :
    String.join ((mixed t parts).filterMap ownPiece?) = t ++ String.join (parts.map (·.2)) := by
  have hchunk (t : String) : String.join ((chunk t).filterMap ownPiece?) = t := by
    unfold chunk
    split
    · next h => simp [h]
    · simp [ownPiece?, TextKind.isMarked]
  induction parts generalizing t with
  | nil => simp [mixed, hchunk]
  | cons p parts ih =>
    simp [mixed, hchunk, ih, List.filterMap_cons, ownPiece?, String.join_cons]

theorem piecesOfAll_append (p : TextKind → Bool) (ns ms : List Node) :
    Node.piecesOfAll p (ns ++ ms) = Node.piecesOfAll p ns ++ Node.piecesOfAll p ms := by
  induction ns with
  | nil => simp [Node.piecesOfAll]
  | cons n ns ih => simp [Node.piecesOfAll, ih]

/-- All text of an element has the marked pieces in it. -/
theorem pieces_mixed {p : TextKind → Bool} (hplain : p .plain = true) (t : String)
    (parts : List (String × String)) :
    String.join (Node.piecesOfAll p (mixed t parts))
      = t ++ String.join (parts.map fun (x, u) => x ++ u) := by
  have hchunk (t : String) : String.join (Node.piecesOfAll p (chunk t)) = t := by
    unfold chunk
    split
    · next h => simp [h, Node.piecesOfAll]
    · simp [Node.piecesOfAll, Node.pieces, hplain]
  induction parts generalizing t with
  | nil => simp [mixed, hchunk]
  | cons q parts ih =>
    simp [mixed, piecesOfAll_append, Node.piecesOfAll, Node.pieces, hchunk, ih, String.join_cons,
      String.append_assoc]

end

/-! ### The element found by its identity -/

def contentPage (children : List Node) : Place :=
  .ofDocument (.element documentName [] [.element "div" [("id", "content")] children])

theorem selectorOf?_content :
    selectorOf? "#content" = .ok (some (.any [.all [.hasId "content"]])) := by
  rfl

/-- The element with the identity is the first that the selector finds. -/
theorem head?_select_content (children : List Node) :
    (Selector.select (.any [.all [.hasId "content"]]) (contentPage children)).head?.map (·.node)
      = some (.element "div" [("id", "content")] children) := by
  have hholds : ∀ v p, p.node = .element "div" [("id", "content")] children →
      Selector.holds v false (.any [.all [.hasId "content"]]) p = true := by
    intro v p hp
    simp [Selector.holds, Selector.anyHolds, Selector.allHold, hp, Selector.attributeValue?,
      Node.attributes, show Text.asciiLower "id" = "id" by decide]
  obtain ⟨d, more, hinside, hd⟩ : ∃ d more, (contentPage children).descendants = d :: more
      ∧ d.node = .element "div" [("id", "content")] children := by
    simp only [contentPage, Place.descendants, Place.ofDocument, Place.node, Node.children,
      Place.elementsFrom]
    exact ⟨_, _, rfl, rfl⟩
  rw [Selector.select, hinside, List.filter_cons_of_pos (hholds _ d hd), List.head?_cons,
    Option.map_some, hd]

/-- A rule that starts from the identity reads the element that has it. -/
theorem text_contentPage (reading : String) (children : List Node) {rule : String}
    (htrimmed : Page.trimmed (some rule) = rule) (hsome : Text.allBlank rule = false)
    (hcompiled : Rule.compile (some rule) = ⟨["#content"], some reading⟩) :
    (Page.document (contentPage children)).text (some rule) none
      = .ok (readNode (some reading) (.element "div" [("id", "content")] children)) := by
  have hfirst : firstNode? (contentPage children) ⟨["#content"], some reading⟩
      = .ok (some (.element "div" [("id", "content")] children)) := by
    simp [firstNode?, selectElements, Rule.css, selectorOf?_content, Except.map,
      head?_select_content]
  simp [Page.text, Page.read?, htrimmed, hsome, Page.scopeIn, Page.given, selectText,
    hcompiled, hfirst, Except.map]

/-- Read from its body, the page tells the text directly in the element from all of its
    text: however the texts and the marked pieces follow each other, one rule gives the
    texts alone and the other gives texts and pieces in their order. -/
theorem direct_text_is_isolated (t : String) (parts : List (String × String)) (ht : Fits t)
    (hparts : ∀ p ∈ parts, Fits p.1 ∧ Fits p.2) :
    ∃ root,
      Page.read (.text ("<div id=\"content\">" ++ t
        ++ String.join (parts.map fun (x, u) => "<span class=\"ad\">" ++ x ++ "</span>" ++ u)
          ++ "</div>")) = .ok (.document root)
      ∧ (Page.document root).text (some "id.content@textNodes") none
          = .ok (Text.trim (t ++ String.join (parts.map (·.2))))
      ∧ (Page.document root).text (some "id.content@text") none
          = .ok (Text.trim (t ++ String.join (parts.map fun (x, u) => x ++ u))) := by
  refine ⟨contentPage (mixed t parts), ?_, ?_, ?_⟩
  · have hplain : Plain [.element "div" [("id", "content")] (mixed t parts)] :=
      .element plainTag_div (plain_mixed ht hparts) .nil
    have hbody : "<div id=\"content\">" ++ t ++ markedText parts ++ "</div>"
        = String.ofList (written [.element "div" [("id", "content")] (mixed t parts)]) := by
      rw [← String.toList_inj, String.toList_ofList]
      simp [written, written_mixed, spelledAttributes]
    have hread := Page.read_written hplain rfl
    rw [← hbody] at hread
    exact hread
  · rw [text_contentPage "textNodes" (mixed t parts) (by rfl) (by rfl) (by rfl)]
    simp [readNode, ownText_eq, Node.children, ownPieces_mixed]
  · rw [text_contentPage "text" (mixed t parts) (by rfl) (by rfl) (by rfl)]
    simp [readNode, Node.fullText, Node.name, Node.pieces,
      pieces_mixed (p := TextKind.countsIn "div") (by decide)]

/-- Two pieces between texts, one of which is empty. -/
theorem pieces_around_text :
    ∃ root,
      Page.read (.text ("<div id=\"content\">One <span class=\"ad\">buy</span>"
        ++ "<span class=\"ad\"> now </span> two\n</div>")) = .ok (.document root)
      ∧ (Page.document root).text (some "id.content@textNodes") none = .ok "One  two"
      ∧ (Page.document root).text (some "id.content@text") none = .ok "One buy now  two" := by
  obtain ⟨root, hread, hown, hall⟩ :=
    direct_text_is_isolated "One " [("buy", ""), (" now ", " two\n")] (by decide) (by decide)
  exact ⟨root, hread, hown, hall⟩

end Gleaner
