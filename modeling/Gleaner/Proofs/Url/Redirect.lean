/-
  Gleaner/Proofs/Url/Redirect.lean
  ================================
  **Relative redirects.**  A location without a scheme leads from an address of the web to
  another one: joining them never fails where each alone can be taken apart, and the parts of
  the result can be told from those of the two (`redirectTarget_of_relative`).  Along any chain
  of such locations the scheme stays, the authority and the query stay until a location names
  its own, and nothing is left of fragments (`redirects_keep_parts`).
-/
import Gleaner.Proofs.Url.Split

namespace Gleaner.Url

/-! ### Characters of a joined path -/

section Paths

variable {sep d : Char} {s base path p : List Char} {segs done : List (List Char)}

theorem mem_splitChar (hp : p ∈ Text.splitChar sep s) (hd : d ∈ p) : d ∈ s := by
  induction s generalizing p with
  | nil =>
    rw [Text.splitChar, List.mem_singleton] at hp
    rwa [hp] at hd
  | cons c s ih =>
    rw [Text.splitChar] at hp
    split at hp
    · rcases List.mem_cons.mp hp with rfl | hp
      · cases hd
      · exact List.mem_cons_of_mem c (ih hp hd)
    · cases hparts : Text.splitChar sep s with
      | nil => exact absurd hparts (Text.splitChar_ne_nil sep s)
      | cons q qs =>
        rw [hparts] at hp ih
        rcases List.mem_cons.mp hp with rfl | hp
        · rcases List.mem_cons.mp hd with rfl | hd
          · exact List.mem_cons_self
          · exact List.mem_cons_of_mem c (ih List.mem_cons_self hd)
        · exact List.mem_cons_of_mem c (ih (List.mem_cons_of_mem q hp) hd)

/-- Resolving segments keeps segments and makes no new ones. -/
theorem mem_resolveSegments (h : p ∈ resolveSegments done segs) : p ∈ done ∨ p ∈ segs := by
  induction segs generalizing done with
  | nil => exact .inl (by simpa [resolveSegments] using h)
  | cons seg segs ih =>
    rw [resolveSegments] at h
    split at h
    · rcases ih h with h | h
      · exact .inl (List.mem_of_mem_drop h)
      · exact .inr (List.mem_cons_of_mem seg h)
    · split at h
      · exact (ih h).imp_right (List.mem_cons_of_mem seg)
      · rcases ih h with h | h
        · rcases List.mem_cons.mp h with rfl | h
          · exact .inr List.mem_cons_self
          · exact .inl h
        · exact .inr (List.mem_cons_of_mem seg h)

theorem mem_dropInnerEmpty (h : p ∈ dropInnerEmpty segs) : p ∈ segs := by
  cases segs with
  | nil => exact h
  | cons first more =>
    rw [dropInnerEmpty] at h
    split at h
    · rw [List.mem_singleton.mp h]
      exact List.mem_cons_self
    · next last hlast =>
      rcases List.mem_cons.mp h with rfl | h
      · exact List.mem_cons_self
      apply List.mem_cons_of_mem
      rcases List.mem_append.mp h with h | h
      · exact List.dropLast_subset _ (List.mem_filter.mp h).1
      · rw [List.mem_singleton.mp h]
        exact List.mem_of_getLast? hlast

theorem mem_baseSegments (h : p ∈ baseSegments path) : p ∈ Text.splitChar '/' path := by
  unfold baseSegments at h
  dsimp only at h
  split at h
  · exact h
  · exact List.dropLast_subset _ h

/-- A character of a joined path comes from one of the two, or is a slash. -/
theorem mem_joinPath (h : d ∈ joinPath base path) : d = '/' ∨ d ∈ base ∨ d ∈ path := by
  have hsegs : ∀ p ∈ (if path.head? = some '/' then Text.splitChar '/' path
      else dropInnerEmpty (baseSegments base ++ Text.splitChar '/' path)), d ∈ p →
        d ∈ base ∨ d ∈ path := by
    intro p hp hd
    split at hp
    · exact .inr (mem_splitChar hp hd)
    · rcases List.mem_append.mp (mem_dropInnerEmpty hp) with hp | hp
      · exact .inl (mem_splitChar (mem_baseSegments hp) hd)
      · exact .inr (mem_splitChar hp hd)
  unfold joinPath at h
  dsimp only at h
  generalize (if path.head? = some '/' then Text.splitChar '/' path
      else dropInnerEmpty (baseSegments base ++ Text.splitChar '/' path)) = segs at h hsegs
  -- an empty segment may be added at the end
  obtain ⟨done, hdone, hmem⟩ : ∃ done, (∀ p ∈ done, p ∈ resolveSegments [] segs ∨ p = [])
      ∧ d ∈ if (Text.joinChar '/' done).isEmpty then ['/'] else Text.joinChar '/' done := by
    refine ⟨_, ?_, h⟩
    intro p hp
    split at hp
    · split at hp
      · simpa using hp
      · exact .inl hp
    · exact .inl hp
  split at hmem
  · exact .inl (List.mem_singleton.mp hmem)
  rcases Text.mem_joinChar hmem with hslash | ⟨p, hp, hd⟩
  · exact .inl hslash
  right
  rcases hdone p hp with hp | rfl
  · rcases mem_resolveSegments hp with hp | hp
    · cases hp
    · exact hsegs p hp hd
  · cases hd

theorem mem_splitLastSlash :
    (d ∈ (splitLastSlash s).1 → d ∈ s) ∧ (d ∈ (splitLastSlash s).2 → d ∈ s) := by
  unfold splitLastSlash
  constructor
  · exact fun h => List.mem_of_mem_take h
  · intro h
    have hmem := (List.takeWhile_sublist _).mem (List.mem_reverse.mp h)
    exact List.mem_reverse.mp hmem

theorem mem_splitParameters {scheme : List Char} :
    (d ∈ (splitParameters scheme path).1 → d ∈ path) ∧
    (d ∈ (splitParameters scheme path).2 → d ∈ path) := by
  unfold splitParameters
  dsimp only
  split
  · split
    · constructor
      · intro h
        rcases List.mem_append.mp h with h | h
        · exact mem_splitLastSlash.1 h
        · exact mem_splitLastSlash.2 (mem_splitAt_fst h).1
      · intro h
        exact mem_splitLastSlash.2 (mem_splitAt_snd h)
    · exact ⟨id, fun h => nomatch h⟩
  · exact ⟨id, fun h => nomatch h⟩

theorem mem_withParameters {parameters : List Char} (h : d ∈ withParameters path parameters) :
    d ∈ path ∨ d = ';' ∨ d ∈ parameters := by
  unfold withParameters at h
  split at h
  · exact .inl h
  · simpa using h

end Paths

/-! ### Joined parts -/

/-- The authority of a location, or that of the address it stands on. -/
def eitherAuthority (c l : Parts) : List Char :=
  if l.authority = [] then c.authority else l.authority

def eitherQuery (c l : Parts) : List Char := if l.query = [] then c.query else l.query

def hasNoPath (r : Parts) : Bool :=
  (splitParameters r.scheme r.path).1.isEmpty && (splitParameters r.scheme r.path).2.isEmpty

/-- The path of a reference that is resolved, if its scheme is one with an authority. -/
def joinedPath (b r : Parts) : List Char :=
  let (bpath, bparams) := splitParameters b.scheme b.path
  let (path, params) := splitParameters r.scheme r.path
  if r.authority ≠ [] then withParameters path params
  else if hasNoPath r then withParameters bpath bparams
  else withParameters (joinPath bpath path) params

/-- The query of a reference that is resolved: that of the base if the reference has neither
    authority nor path nor query. -/
def joinedQuery (b r : Parts) : List Char :=
  if r.authority = [] ∧ hasNoPath r = true ∧ r.query = [] then b.query else r.query

section Join

variable {b r : Parts}

theorem eitherAuthority_or (b r : Parts) :
    eitherAuthority b r = b.authority ∨ eitherAuthority b r = r.authority := ite_eq_or_eq _ _ _

theorem eitherAuthority_ne_nil (h : b.authority ≠ []) : eitherAuthority b r ≠ [] := by
  unfold eitherAuthority
  split
  · exact h
  · assumption

theorem eitherQuery_or (b r : Parts) : eitherQuery b r = b.query ∨ eitherQuery b r = r.query :=
  ite_eq_or_eq _ _ _

theorem IsWeb.authorities {scheme : List Char} (h : IsWeb scheme) :
    schemeIn scheme authoritySchemes = true := by
  rcases h with rfl | rfl <;> decide

theorem mem_reparameterized {scheme path : List Char} {c : Char}
    (h : c ∈ withParameters (splitParameters scheme path).1 (splitParameters scheme path).2) :
    c ∈ path ∨ c = ';' := by
  rcases mem_withParameters h with h | h | h
  · exact .inl (mem_splitParameters.1 h)
  · exact .inr h
  · exact .inl (mem_splitParameters.2 h)

/-- A character of the path of a resolved reference comes from one of the two paths or
    separates their parts. -/
theorem mem_joinedPath {c : Char} (h : c ∈ joinedPath b r) :
    c ∈ b.path ∨ c ∈ r.path ∨ c = '/' ∨ c = ';' := by
  unfold joinedPath at h
  dsimp only at h
  split at h
  · rcases mem_reparameterized h with h | h
    · exact .inr (.inl h)
    · exact .inr (.inr (.inr h))
  split at h
  · rcases mem_reparameterized h with h | h
    · exact .inl h
    · exact .inr (.inr (.inr h))
  · rcases mem_withParameters h with h | h | h
    · rcases mem_joinPath h with h | h | h
      · exact .inr (.inr (.inl h))
      · exact .inl (mem_splitParameters.1 h)
      · exact .inr (.inl (mem_splitParameters.1 h))
    · exact .inr (.inr (.inr h))
    · exact .inr (.inl (mem_splitParameters.2 h))

theorem joinedQuery_or (b r : Parts) :
    joinedQuery b r = r.query ∨ r.query = [] ∧ joinedQuery b r = b.query := by
  unfold joinedQuery
  split
  · next h => exact .inr ⟨h.2.2, rfl⟩
  · exact .inl rfl

theorem joinedQuery_of_ne_nil (h : r.query ≠ []) : joinedQuery b r = r.query :=
  if_neg fun hnone => h hnone.2.2

/-- What a reference comes to against a base with the same scheme of the web. -/
theorem joinParts_web (b : Parts) (hweb : IsWeb r.scheme) : joinParts b r
    = Parts.text ⟨r.scheme, eitherAuthority b r, joinedPath b r, joinedQuery b r, r.fragment⟩ := by
  unfold joinParts eitherAuthority joinedPath joinedQuery
  dsimp only
  rw [hweb.authorities, Bool.true_and, ← hasNoPath]
  by_cases hauthority : r.authority = []
  · by_cases hpath : hasNoPath r = true
    · simp [hauthority, hpath]
    · simp [hauthority, hpath]
  · simp [hauthority]

end Join

/-! ### One redirect -/

/-- From an address a location leads to the next one, which can be taken apart.  The path is
    that of the two joined, authority and query are those of the location unless it has none,
    and there is no fragment. -/
structure LeadsOn (current location next : String) (c l : Parts) : Prop where
  taken : split (Text.trimChars location.toList) = .ok l
  joined : ∃ joined t, join current.toList (Text.trimChars location.toList) = .ok joined
    ∧ split joined = .ok t
    ∧ split next.toList = .ok ⟨c.scheme, eitherAuthority c l, t.path, eitherQuery c l, []⟩

section Step

variable {current location : List Char} {c l t : Parts}

/-- An address with the authority of one of two that were taken apart is taken apart as it
    was put together. -/
theorem split_either {path query fragment : List Char} (hc : split current = .ok c)
    (hl : split location = .ok l) (hweb : IsWeb c.scheme) (hauthority : c.authority ≠ [])
    (hpath : ∀ d ∈ path, IsPathChar d) (hquery : ∀ d ∈ query, d ≠ '#' ∧ isLineNoise d = false)
    (hfragment : ∀ d ∈ fragment, isLineNoise d = false) :
    split (Parts.text ⟨c.scheme, eitherAuthority c l, path, query, fragment⟩)
      = .ok ⟨c.scheme, eitherAuthority c l, rooted path, query, fragment⟩ := by
  obtain ⟨hclean, hproper⟩ :
      (∀ d ∈ eitherAuthority c l, endsAuthority d = false ∧ isLineNoise d = false)
        ∧ IsProper (eitherAuthority c l) := by
    rcases eitherAuthority_or c l with h | h
    · rw [h]
      exact ⟨(split_clean hc).authority, split_proper hc⟩
    · rw [h]
      exact ⟨(split_clean hl).authority, split_proper hl⟩
  exact split_text (p := ⟨c.scheme, eitherAuthority c l, path, query, fragment⟩) hweb
    (eitherAuthority_ne_nil hauthority) ⟨hclean, hpath, hquery, hfragment⟩ hproper

theorem ne_nil_of_split (hc : split current = .ok c) (hweb : IsWeb c.scheme) : current ≠ [] := by
  rintro rfl
  cases hc
  exact hweb.ne_nil rfl

/-- A reference with the scheme of an address of the web is joined to it; any other is itself. -/
theorem join_web {r : Parts} (hc : split current = .ok c) (hweb : IsWeb c.scheme)
    (hne : location ≠ []) (hr : splitWith c.scheme location = .ok r) :
    join current location = .ok (if r.scheme = c.scheme then joinParts c r else location) := by
  unfold join
  rw [if_neg (by simpa using ne_nil_of_split hc hweb), if_neg (by simpa using hne), hc]
  dsimp only
  rw [hr]
  dsimp only
  by_cases hscheme : r.scheme = c.scheme
  · rw [if_neg (by simp [hscheme, hweb.relative]), if_pos hscheme]
  · rw [if_pos (.inl hscheme), if_neg hscheme]

/-- Where a reference is joined to an address of the web, the result can be taken apart. -/
theorem split_joined {r : Parts} (hc : split current = .ok c) (hweb : IsWeb c.scheme)
    (hauthority : c.authority ≠ []) (hr : splitWith c.scheme location = .ok r)
    (hscheme : r.scheme = c.scheme) : split (joinParts c r)
      = .ok ⟨c.scheme, eitherAuthority c r, rooted (joinedPath c r), joinedQuery c r,
        r.fragment⟩ := by
  obtain ⟨hproper, hparts⟩ := splitWith_eq_ok.mp hr
  have hclean : r.Clean := hparts ▸ partsOf_clean c.scheme location
  have hsame : eitherAuthority c r = eitherAuthority c (partsOf [] location) := by
    rw [hparts, partsOf_scheme c.scheme []]
    rfl
  rw [joinParts_web c (hscheme ▸ hweb), hscheme, hsame]
  apply split_either hc (split_eq_ok.mpr ⟨hproper, rfl⟩) hweb hauthority
  · intro d hd
    rcases mem_joinedPath hd with hd | hd | rfl | rfl
    · exact (split_clean hc).path d hd
    · exact hclean.path d hd
    · simp [IsPathChar, isLineNoise]
    · simp [IsPathChar, isLineNoise]
  · rcases joinedQuery_or c r with hquery | ⟨-, hquery⟩
    · rw [hquery]
      exact hclean.query
    · rw [hquery]
      exact (split_clean hc).query
  · exact hclean.fragment

/-- Two addresses that can be taken apart are joined to one that can. -/
theorem join_of_relative (hc : split current = .ok c) (hweb : IsWeb c.scheme)
    (hauthority : c.authority ≠ []) (hl : split location = .ok l) (hrelative : l.scheme = []) :
    ∃ joined path query fragment,
      join current location = .ok joined
      ∧ split joined = .ok ⟨c.scheme, eitherAuthority c l, path, query, fragment⟩
      ∧ rooted path = path ∧ (query = l.query ∨ l.query = [] ∧ query = c.query) := by
  by_cases hempty : location = []
  · -- an empty location is the address itself
    subst hempty
    cases hl
    exact ⟨current, c.path, c.query, c.fragment, by cases current <;> rfl, hc,
      split_rooted hc hauthority, .inr ⟨rfl, rfl⟩⟩
  have hr := splitWith_of_relative hl hrelative c.scheme
  exact ⟨_, _, _, _, (join_web hc hweb hempty hr).trans (congrArg Except.ok (if_pos rfl)),
    split_joined hc hweb hauthority hr rfl, rooted_rooted _,
      joinedQuery_or c { l with scheme := c.scheme }⟩

/-- A location without a scheme leads on from an address of the web. -/
theorem redirectTarget_of_relative {current location : String} (hc : split current.toList = .ok c)
    (hweb : IsWeb c.scheme) (hauthority : c.authority ≠ [])
    (hl : split (Text.trimChars location.toList) = .ok l) (hrelative : l.scheme = []) :
    ∃ next, redirectTarget current location = .ok next ∧ LeadsOn current location next c l := by
  obtain ⟨joined, path, query, fragment, hjoin, ht, hroot, hquery⟩ :=
    join_of_relative hc hweb hauthority hl hrelative
  have hsame : (if query.isEmpty then c.query else query) = eitherQuery c l := by
    unfold eitherQuery
    rcases hquery with rfl | ⟨hnone, rfl⟩
    · cases l.query <;> simp
    · cases hcquery : c.query <;> simp [hnone]
  have hclean : ∀ d ∈ eitherQuery c l, d ≠ '#' ∧ isLineNoise d = false := by
    rcases eitherQuery_or c l with h | h
    · rw [h]
      exact (split_clean hc).query
    · rw [h]
      exact (split_clean hl).query
  have hnone : ∀ d ∈ ([] : List Char), isLineNoise d = false := by simp
  have hread := split_either hc hl hweb hauthority (split_clean ht).path hclean hnone
  have htarget : redirectChars current.toList location.toList
      = .ok (Parts.text ⟨c.scheme, eitherAuthority c l, path, eitherQuery c l, []⟩) := by
    unfold redirectChars
    simp only [hl, hc, hjoin, ht, hrelative, hsame, bind, Except.bind, pure, Except.pure,
      List.isEmpty_nil, Bool.not_true, Bool.false_eq_true, if_false]
  refine ⟨_, by rw [redirectTarget, htarget]; rfl, hl, joined, _, hjoin, ht, ?_⟩
  rw [String.toList_ofList, hread, hroot]

end Step

/-! ### Chains of redirects -/

def redirects : String → List String → Except Fault (List String)
  | _, [] => .ok []
  | current, location :: more => do
      let next ← redirectTarget current location
      let rest ← redirects next more
      return next :: rest

/-- A location that can be taken apart and names no scheme. -/
def IsRelativeLocation (location : String) : Prop :=
  ∃ l, split (Text.trimChars location.toList) = .ok l ∧ l.scheme = []

section Chain

variable {start : String} {locations : List String} {c : Parts}

/-- Every location leads on from the address before it to the one after it, and the scheme
    stays. -/
def LeadAlong (scheme : List Char) (start : String) (locations addresses : List String) : Prop :=
  addresses.length = locations.length
    ∧ ∀ (i : Nat) (current location next : String), (start :: addresses)[i]? = some current →
      locations[i]? = some location → addresses[i]? = some next →
      ∃ c l, split current.toList = .ok c ∧ c.scheme = scheme ∧ LeadsOn current location next c l

theorem LeadAlong.cons {location next : String} {addresses : List String} {l : Parts}
    (hc : split start.toList = .ok c) (hleads : LeadsOn start location next c l)
    (h : LeadAlong c.scheme next locations addresses) :
    LeadAlong c.scheme start (location :: locations) (next :: addresses) := by
  obtain ⟨hlength, hsteps⟩ := h
  constructor
  · exact congrArg Nat.succ hlength
  · intro i current location' next' hcurrent hlocation hnext
    cases i with
    | zero =>
      cases hcurrent
      cases hlocation
      cases hnext
      exact ⟨c, l, hc, rfl, hleads⟩
    | succ i => exact hsteps i current location' next' hcurrent hlocation hnext

/-- From an address of the web with a host, every chain of locations that name no scheme leads
    on, from one address to the next.  The scheme is always that of the first address,
    authority and query are those of the location or else of the address before it, the path
    is that of the two joined, and there is no fragment.  If no location has a query, the last
    address has that of the first. -/
theorem redirects_keep_parts (hc : split start.toList = .ok c) (hweb : IsWeb c.scheme)
    (hauthority : c.authority ≠ []) (hlocations : ∀ l ∈ locations, IsRelativeLocation l) :
    ∃ addresses : List String, redirects start locations = .ok addresses
      ∧ LeadAlong c.scheme start locations addresses
      ∧ ∃ last, split ((addresses.getLast?.getD start).toList) = .ok last ∧ last.scheme = c.scheme
        ∧ ((∀ location ∈ locations, ∀ l, split (Text.trimChars location.toList) = .ok l →
          l.query = []) → last.query = c.query) := by
  -- the parts of the next address have the same scheme and an authority, so they can start the rest
  induction locations generalizing start c with
  | nil =>
    refine ⟨[], rfl, ⟨rfl, fun i current location next _ hlocation => nomatch hlocation⟩,
      c, hc, rfl, ?_⟩
    exact fun _ => rfl
  | cons location more ih =>
    obtain ⟨l, hl, hrelative⟩ := hlocations location List.mem_cons_self
    obtain ⟨next, hnext, hleads⟩ := redirectTarget_of_relative hc hweb hauthority hl hrelative
    obtain ⟨joined, t, -, -, hsplit⟩ := hleads.joined
    obtain ⟨addresses, hrest, halong, last, hlast, hscheme, hquery⟩ := ih hsplit hweb
      (eitherAuthority_ne_nil hauthority) fun l' hl' =>
        hlocations l' (List.mem_cons_of_mem location hl')
    refine ⟨next :: addresses, ?_, halong.cons hc hleads, last, ?_, hscheme, ?_⟩
    · rw [redirects, hnext]
      change (redirects next more).bind _ = _
      rw [hrest]
      rfl
    · rwa [List.getLast?_cons]
    · intro hnone
      rw [hquery fun l' hl' => hnone l' (List.mem_cons_of_mem location hl')]
      exact if_pos (hnone location List.mem_cons_self l hl)

/-- A path, another host, a fragment and a path with dots, one after another. -/
theorem winding_keeps_query : (∀ l ∈ ["d;e", "//f", "#g", "..//h"], IsRelativeLocation l)
    ∧ redirects "http://a/b/c?k=1#x" ["d;e", "//f", "#g", "..//h"]
      = .ok ["http://a/b/d;e?k=1", "http://f?k=1", "http://f?k=1", "http://f/h?k=1"]
    ∧ ∃ last, split "http://f/h?k=1".toList = .ok last ∧ last.query = "k=1".toList := by
  have hlocations : ∀ l ∈ ["d;e", "//f", "#g", "..//h"], IsRelativeLocation l := by
    intro l hl
    simp only [List.mem_cons, List.not_mem_nil, or_false] at hl
    rcases hl with rfl | rfl | rfl | rfl <;> exact ⟨_, rfl, rfl⟩
  have haddresses : redirects "http://a/b/c?k=1#x" ["d;e", "//f", "#g", "..//h"]
      = .ok ["http://a/b/d;e?k=1", "http://f?k=1", "http://f?k=1", "http://f/h?k=1"] := by rfl
  have hstart : split "http://a/b/c?k=1#x".toList
      = .ok ⟨"http".toList, ['a'], "/b/c".toList, "k=1".toList, ['x']⟩ := by rfl
  obtain ⟨addresses, hrun, -, last, hlast, -, hquery⟩ :=
    redirects_keep_parts hstart (.inl rfl) (by simp) hlocations
  rw [haddresses] at hrun
  cases hrun
  refine ⟨hlocations, haddresses, last, hlast, hquery ?_⟩
  intro location hlocation l hl
  simp only [List.mem_cons, List.not_mem_nil, or_false] at hlocation
  rcases hlocation with rfl | rfl | rfl | rfl <;> cases hl <;> rfl

end Chain

end Gleaner.Url
