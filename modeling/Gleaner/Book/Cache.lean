/-
  Gleaner/Book/Cache.lean
  =======================
  **Cached chapters.**  A bounded store of chapter texts by name.  The entries stand
  in the order of their last use, the one used longest ago first; a new text is put
  at the end, and the front gives way when there are too many.
-/
import Gleaner.Book.Basic

namespace Gleaner

/-- Chapter texts in the order of their last use. -/
structure ChapterCache where
  capacity : Int
  entries : List (String × ChapterText)
deriving DecidableEq, Repr, Inhabited

namespace ChapterCache

def empty (capacity : Int) : ChapterCache := ⟨capacity, []⟩

def usualCapacity : Int := 200

/-- The names held, the one used longest ago first. -/
def keys (c : ChapterCache) : List String := c.entries.map (·.1)

def size (c : ChapterCache) : Nat := c.entries.length

def contains (c : ChapterCache) (key : String) : Bool := c.keys.contains key

def find? (c : ChapterCache) (key : String) : Option ChapterText :=
  (c.entries.find? (·.1 == key)).map (·.2)

def others (c : ChapterCache) (key : String) : List (String × ChapterText) :=
  c.entries.filter (·.1 != key)

/-- The text held under a name, which is then the one used last. -/
def get (c : ChapterCache) (key : String) : Option ChapterText × ChapterCache :=
  match c.find? key with
  | none => (none, c)
  | some t => (some t, { c with entries := c.others key ++ [(key, t)] })

def keepLast (capacity : Int) (entries : List (String × ChapterText)) :
    List (String × ChapterText) :=
  entries.drop (entries.length - capacity.toNat)

/-- Hold a text under a name; the entries used longest ago give way. -/
def put (c : ChapterCache) (key : String) (text : ChapterText) : ChapterCache :=
  { c with entries := keepLast c.capacity (c.others key ++ [(key, text)]) }

/-- Hold a text under a name.  Where there is not even room for none, the entries give
    way and then there is nothing left to give. -/
def store (c : ChapterCache) (key : String) (text : ChapterText) :
    Except Fault Unit × ChapterCache :=
  (if c.capacity < 0 then .error (.noKey "dictionary is empty") else .ok (), c.put key text)

end ChapterCache

end Gleaner
