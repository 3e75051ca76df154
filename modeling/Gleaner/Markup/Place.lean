/-
  Gleaner/Markup/Place.lean
  =========================
  **Places in a document.**  A node knows what is inside it.  A place adds what is
  around it: the neighbours on both sides and, outward, the elements it is in with
  their neighbours.  Two nodes may look alike, places are told apart by their path
  from the document.
-/
import Gleaner.Markup.Node

namespace Gleaner.Markup

/-- A node among its neighbours, those before it nearest first. -/
structure Spot where
  before : List Node
  node : Node
  after : List Node
deriving Inhabited

/-- A node in a document: its spot and the spots of what it is in, innermost first. -/
structure Place where
  spot : Spot
  above : List Spot
deriving Inhabited

namespace Place

def node (p : Place) : Node := p.spot.node

def ofDocument (n : Node) : Place := ⟨⟨[], n, []⟩, []⟩

def parent? (p : Place) : Option Place :=
  match p.above with
  | [] => none
  | s :: up => some ⟨s, up⟩

def ofSpots : List Spot → List Place
  | [] => []
  | s :: up => ⟨s, up⟩ :: ofSpots up

/-- The places of all elements around a place, innermost first; the last one is the
    document. -/
def ancestors (p : Place) : List Place := ofSpots p.above

def document (p : Place) : Place := (p.ancestors.getLast?).getD p

/-- How many nodes come before, at every level from the place outward. -/
def path (p : Place) : List Nat := (p.spot :: p.above).map (·.before.length)

def same (p q : Place) : Bool := p.path == q.path

/-- The places of the nodes `ns`, which stand after `before` in what `up` describes. -/
def nodesFrom (up : List Spot) : List Node → List Node → List Place
  | _, [] => []
  | before, n :: ns => ⟨⟨before, n, ns⟩, up⟩ :: nodesFrom up (n :: before) ns

def inner (p : Place) : List Place := nodesFrom (p.spot :: p.above) [] p.node.children

def children (p : Place) : List Place := p.inner.filter (·.node.isElement)

/-- The places after `p` under the same parent, nearest first. -/
def following (p : Place) : List Place :=
  nodesFrom p.above (p.node :: p.spot.before) p.spot.after

def nodesBack (up : List Spot) : List Node → List Node → List Place
  | [], _ => []
  | n :: before, after => ⟨⟨before, n, after⟩, up⟩ :: nodesBack up before (n :: after)

def preceding (p : Place) : List Place :=
  nodesBack p.above p.spot.before (p.node :: p.spot.after)

def siblings (p : Place) : List Place := p.preceding.reverse ++ p :: p.following

/-- All elements among the nodes that stand after `before` in what `up` describes,
    and inside them, in the order of the document. -/
def elementsFrom (up : List Spot) (before : List Node) : List Node → List Place
  | [] => []
  | .text kind s :: ns => elementsFrom up (.text kind s :: before) ns
  | .element name attributes cs :: ns =>
      let here : Spot := ⟨before, .element name attributes cs, ns⟩
      ⟨here, up⟩ :: (elementsFrom (here :: up) [] cs
        ++ elementsFrom up (.element name attributes cs :: before) ns)

def descendants (p : Place) : List Place := elementsFrom (p.spot :: p.above) [] p.node.children

end Place

end Gleaner.Markup
