/-
  Gleaner/Proofs/Fetch/Headers.lean
  =================================
  **Whose headers are sent.**  Every request of a fetch, repetitions and redirects included,
  has the same headers: those of the source, and the agent of the policy if the source gives
  none.  Names of headers are the same whatever their case, but they are compared letter by
  letter where the agent is looked for, so that an agent which the source spells in another
  way stands beside the one of the policy (`source_headers_override`).
-/
import Gleaner.Fetch.Wire
import Gleaner.Proofs.Fetch.Redirect
import Gleaner.Proofs.Source.Embedded
import Mathlib.Data.List.Nodup

namespace Gleaner

variable {σ : Type}

/-! ### Headers by name -/

/-- The values that headers have for a name; `fold` takes the case of names away. -/
def valuesOf (fold : String → String) (headers : List (String × String)) (name : String) :
    List String :=
  (headers.filter fun h => fold h.1 == fold name).map (·.2)

section
variable {fold : String → String} {headers : List (String × String)} {name k v : String}

theorem valuesOf_cons (h : String × String) (headers : List (String × String)) (name : String) :
    valuesOf fold (h :: headers) name
      = if fold h.1 = fold name then h.2 :: valuesOf fold headers name
      else valuesOf fold headers name := by
  by_cases hname : fold h.1 = fold name <;> simp [valuesOf, hname]

theorem valuesOf_none (h : ∀ k v, (k, v) ∈ headers → fold k ≠ fold name) :
    valuesOf fold headers name = [] := by
  rw [valuesOf, List.map_eq_nil_iff, List.filter_eq_nil_iff]
  rintro ⟨k, v⟩ hmem
  simpa using h k v hmem

/-- A name that comes once has one value. -/
theorem valuesOf_eq (hnames : (headers.map fun h => fold h.1).Nodup) (hmem : (k, v) ∈ headers)
    (hname : fold k = fold name) : valuesOf fold headers name = [v] := by
  induction headers with
  | nil => cases hmem
  | cons h headers ih =>
    rw [List.map_cons, List.nodup_cons] at hnames
    obtain ⟨hnew, hnames⟩ := hnames
    rcases List.mem_cons.mp hmem with rfl | hmem
    · have hrest : valuesOf fold headers name = [] := valuesOf_none fun k' v' hmem' heq =>
        hnew (List.mem_map.mpr ⟨(k', v'), hmem', heq.trans hname.symm⟩)
      rw [valuesOf_cons, if_pos hname, hrest]
    · have hother : fold h.1 ≠ fold name := fun heq =>
        hnew (List.mem_map.mpr ⟨(k, v), hmem, hname.trans heq.symm⟩)
      rw [valuesOf_cons, if_neg hother, ih hnames hmem]

end

/-! ### The headers of a policy -/

namespace FetchPolicy

section
variable {p : FetchPolicy} {headers extra front back : List (String × String)} {v : String}

/-- Headers with new names are put at the end. -/
theorem setHeader_new (hnames : ((headers ++ extra).map (·.1)).Nodup) :
    extra.foldl (fun hs (name, value) => setHeader hs name value) headers = headers ++ extra := by
  induction extra generalizing headers with
  | nil => simp
  | cons h extra ih =>
    obtain ⟨name, value⟩ := h
    have hnew : setHeader headers name value = headers ++ [(name, value)] := by
      rw [List.map_append, List.nodup_append] at hnames
      have hnone : headers.any (·.1 == name) = false := by
        rw [List.any_eq_false]
        intro h hmem hname
        exact hnames.2.2 _ (List.mem_map_of_mem hmem) name (by simp) (by simpa using hname)
      rw [setHeader, hnone, if_neg (by simp)]
    rw [List.foldl_cons]
    dsimp only
    rw [hnew, ih (by simpa using hnames), List.append_assoc]
    rfl

theorem headers_without_agent (hnames : (extra.map (·.1)).Nodup)
    (hagent : "User-Agent" ∉ extra.map (·.1)) :
    p.headers extra = ("User-Agent", p.userAgent) :: extra :=
  setHeader_new (List.nodup_cons.mpr ⟨hagent, hnames⟩)

/-- The agent of the source takes the place of the other. -/
theorem headers_with_agent (hnames : ((front ++ ("User-Agent", v) :: back).map (·.1)).Nodup) :
    p.headers (front ++ ("User-Agent", v) :: back) = ("User-Agent", v) :: (front ++ back) := by
  have hmoved : ((("User-Agent", v) :: (front ++ back)).map (·.1)).Nodup :=
    (List.Perm.map Prod.fst List.perm_middle).nodup_iff.mp hnames
  have hfront : ((("User-Agent", p.userAgent) :: front).map (·.1)).Nodup := by
    rw [← List.cons_append, List.map_append] at hmoved
    exact (List.nodup_append.mp hmoved).1
  have hother : ∀ h ∈ front, h.1 ≠ "User-Agent" := fun h hmem hname =>
    (List.nodup_cons.mp hfront).1 (List.mem_map.mpr ⟨h, hmem, hname⟩)
  have hset : setHeader (("User-Agent", p.userAgent) :: front) "User-Agent" v
      = ("User-Agent", v) :: front := by
    have hsame : (front.map fun h => if h.1 == "User-Agent" then ("User-Agent", v) else h)
        = front := by
      rw [List.map_congr_left (g := id) fun h hmem => by simp [hother h hmem], List.map_id]
    rw [setHeader, if_pos (by simp), List.map_cons, hsame]
    rfl
  have hbefore :
      front.foldl (fun hs (name, value) => setHeader hs name value) [("User-Agent", p.userAgent)]
        = [("User-Agent", p.userAgent)] ++ front := setHeader_new hfront
  rw [headers, List.foldl_append, hbefore, List.foldl_cons]
  dsimp only
  rw [List.singleton_append, hset]
  exact setHeader_new hmoved

end

end FetchPolicy

/-! ### The requests of a fetch -/

namespace Fetching

/-- A fetch asks with the headers of the policy, and for a blank address it does not ask. -/
theorem fetch_headers (net : Network σ) (p : FetchPolicy) (url : String)
    (extra : List (String × String)) (s : Session σ) :
    ∃ requests, (fetch net p url extra s).2.requests = s.requests ++ requests
      ∧ ∀ r ∈ requests, r.headers = p.headers extra := by
  have hretrieve : ∃ urls, Requested p (p.headers extra) urls s (retrieve net p url extra s).2 := by
    unfold retrieve
    split
    · exact ⟨[], .none p _ s⟩
    · obtain ⟨visited, last, s', asked, hleads, hends⟩ :=
        follow_leads net p (p.headers extra) (Text.trim url) (p.maxRedirects + 1).toNat
          (Text.trim url) s
      exact ⟨_, hleads.requested hends⟩
  rcases hrun : retrieve net p url extra s with ⟨result, t⟩
  rw [hrun] at hretrieve
  obtain ⟨urls, requests, hrequests, hasks⟩ := hretrieve
  refine ⟨requests, ?_, fun r hr => ?_⟩
  · unfold fetch noted
    rw [hrun]
    dsimp only
    rw [Session.requests_note, hrequests]
    exact List.append_nil _
  · obtain ⟨address, -, rfl⟩ := hasks.mem r hr
    rfl

end Fetching

/-! ### The headers of a source -/

namespace Source

section
variable (fold : String → String) (ms : Json.Members)

/-- A member gives a header of this name, whatever their case; a null gives none. -/
def Defines (name : String) (v : Json) : Prop :=
  ∃ k, (k, v) ∈ ms ∧ v.isNull = false ∧ fold k = fold name

/-- A member gives the agent, but not as it is spelled here. -/
def Misspells (v : Json) : Prop :=
  ∃ k, (k, v) ∈ ms ∧ v.isNull = false ∧ fold k = fold "User-Agent" ∧ k ≠ "User-Agent"

/-- The one value for a name is that of the source, and if the source gives none there is no
    value, or the fallback for the agent. -/
structure Overrides (fallback name : String) (values : List String) : Prop where
  own : ∀ v, Defines fold ms name v → values = [v.shown]
  agent : fold name = fold "User-Agent" → (∀ v, ¬ Defines fold ms name v) → values = [fallback]
  other : fold name ≠ fold "User-Agent" → (∀ v, ¬ Defines fold ms name v) → values = []

end

section
variable {fold : String → String} {ms : Json.Members} {p : FetchPolicy}
  {name k w : String} {v : Json}

theorem mem_headersOf :
    (k, w) ∈ headersOf ms ↔ ∃ v, (k, v) ∈ ms ∧ v.isNull = false ∧ w = v.shown := by
  simp only [headersOf, List.mem_map, List.mem_filter, Prod.exists, Prod.mk.injEq,
    Bool.not_eq_true']
  constructor
  · rintro ⟨_, v, ⟨hmem, hnull⟩, rfl, rfl⟩
    exact ⟨v, hmem, hnull, rfl⟩
  · rintro ⟨v, hmem, hnull, rfl⟩
    exact ⟨k, v, ⟨hmem, hnull⟩, rfl, rfl⟩

/-- Headers with the names of the source, each once, have the values of the source. -/
theorem overrides_of_perm {headers : List (String × String)} (hperm : headers.Perm (headersOf ms))
    (hnames : ((headersOf ms).map fun h => fold h.1).Nodup) (name : String) :
    (∀ v, Defines fold ms name v → valuesOf fold headers name = [v.shown])
      ∧ ((∀ v, ¬ Defines fold ms name v) → valuesOf fold headers name = []) := by
  have hnodup : (headers.map fun h => fold h.1).Nodup := (hperm.map _).nodup_iff.mpr hnames
  constructor
  · rintro v ⟨k, hmem, hnull, hname⟩
    exact valuesOf_eq hnodup (hperm.mem_iff.mpr (mem_headersOf.mpr ⟨v, hmem, hnull, rfl⟩)) hname
  · intro hnone
    refine valuesOf_none fun k w hmem hname => ?_
    obtain ⟨v, hv, hnull, -⟩ := mem_headersOf.mp (hperm.mem_iff.mp hmem)
    exact hnone v ⟨k, hv, hnull, hname⟩

theorem exact_names (hnames : ((headersOf ms).map fun h => fold h.1).Nodup) :
    ((headersOf ms).map (·.1)).Nodup := by
  refine List.Nodup.of_map fold ?_
  rwa [List.map_map]

/-- The agent of the policy is sent if the source does not give one under the same letters. -/
theorem headers_own_agent (hnames : ((headersOf ms).map fun h => fold h.1).Nodup)
    (hagent : "User-Agent" ∉ (headersOf ms).map (·.1)) (name : String) :
    valuesOf fold (p.headers (headersOf ms)) name = if fold "User-Agent" = fold name
      then p.userAgent :: valuesOf fold (headersOf ms) name
      else valuesOf fold (headersOf ms) name := by
  rw [FetchPolicy.headers_without_agent (exact_names hnames) hagent, valuesOf_cons]

/-- A source that misspells the agent gives none under the same letters. -/
theorem Misspells.no_agent (hnames : ((headersOf ms).map fun h => fold h.1).Nodup)
    (h : Misspells fold ms v) :
    "User-Agent" ∉ (headersOf ms).map (·.1) := by
  obtain ⟨k, hmem, hnull, hname, hk⟩ := h
  intro hagent
  obtain ⟨⟨_, w⟩, hmem', rfl⟩ := List.mem_map.mp hagent
  have hheader : (k, v.shown) ∈ headersOf ms := mem_headersOf.mpr ⟨v, hmem, hnull, rfl⟩
  exact hk (Prod.ext_iff.mp (List.inj_on_of_nodup_map hnames hheader hmem' hname)).1

/-- The headers of a source override those of a client, unless a name is written twice or
    the agent is misspelled. -/
theorem headers_override (hnames : ((headersOf ms).map fun h => fold h.1).Nodup)
    (hspelled : fold name = fold "User-Agent" → ∀ v, ¬ Misspells fold ms v) :
    Overrides fold ms p.userAgent name (valuesOf fold (p.headers (headersOf ms)) name) := by
  by_cases hagent : "User-Agent" ∈ (headersOf ms).map (·.1)
  · -- the agent is replaced in its place, and nothing else is added
    obtain ⟨⟨_, w⟩, hmem, rfl⟩ := List.mem_map.mp hagent
    obtain ⟨front, back, hsplit⟩ := List.append_of_mem hmem
    have hperm : (p.headers (headersOf ms)).Perm (headersOf ms) := by
      have hexact := exact_names hnames
      rw [hsplit] at hexact ⊢
      rw [FetchPolicy.headers_with_agent hexact]
      exact List.perm_middle.symm
    obtain ⟨hown, hnone⟩ := overrides_of_perm hperm hnames name
    refine ⟨hown, fun hname hfree => ?_, fun _ => hnone⟩
    obtain ⟨v, hv, hnull, -⟩ := mem_headersOf.mp hmem
    exact absurd ⟨_, hv, hnull, hname.symm⟩ (hfree v)
  · obtain ⟨hown, hnone⟩ := overrides_of_perm (.refl _) hnames name
    rw [headers_own_agent hnames hagent]
    by_cases hname : fold "User-Agent" = fold name
    · have hfree : ∀ v, ¬ Defines fold ms name v := by
        rintro v ⟨k, hmem, hnull, hk⟩
        refine hspelled hname.symm v ⟨k, hmem, hnull, hk.trans hname.symm, ?_⟩
        rintro rfl
        exact hagent (List.mem_map.mpr ⟨_, mem_headersOf.mpr ⟨v, hmem, hnull, rfl⟩, rfl⟩)
      rw [if_pos hname, hnone hfree]
      exact ⟨fun v hv => absurd hv (hfree v), fun _ _ => rfl,
        fun hother => absurd hname.symm hother⟩
    · rw [if_neg hname]
      exact ⟨hown, fun heq => absurd heq.symm hname, fun _ => hnone⟩

/-- A misspelled agent is sent beside the agent of the policy. -/
theorem headers_misspelled (hnames : ((headersOf ms).map fun h => fold h.1).Nodup)
    (h : Misspells fold ms v) :
    valuesOf fold (p.headers (headersOf ms)) "User-Agent" = [p.userAgent, v.shown] := by
  rw [headers_own_agent hnames (h.no_agent hnames), if_pos rfl]
  obtain ⟨k, hmem, hnull, hname, -⟩ := h
  rw [(overrides_of_perm (.refl _) hnames _).1 v ⟨k, hmem, hnull, hname⟩]

end

/-- Every request of a fetch has for each name, whatever its case, the one value that the source
    gives, or the agent of the policy if the source gives none; only for an agent that the source
    misspells it has two. -/
theorem source_headers_override (fold : String → String) {s : Source} {text : String}
    {ms : Json.Members} (hheader : s.header = some text) (hread : parseJson text = .ok (.obj ms))
    (hnames : ((ms.filter fun m => !m.2.isNull).map fun m => fold m.1).Nodup) :
    ∃ extra, s.requestHeaders = .ok extra
      ∧ ∀ (net : Network σ) (p : FetchPolicy) (url : String) (session : Session σ),
      ∃ requests, (Fetching.fetch net p url extra session).2.requests = session.requests ++ requests
        ∧ ∀ r ∈ requests,
          (∀ name, (fold name = fold "User-Agent" → ∀ v, ¬ Misspells fold ms v) →
            Overrides fold ms p.userAgent name (valuesOf fold r.headers name))
          ∧ ∀ v, Misspells fold ms v →
            valuesOf fold r.headers "User-Agent" = [p.userAgent, v.shown] := by
  have hnames' : ((headersOf ms).map fun h => fold h.1).Nodup := by
    rw [headersOf, List.map_map]
    exact hnames
  refine ⟨headersOf ms, requestHeaders_object hheader hread, fun net p url session => ?_⟩
  obtain ⟨requests, hrequests, hheaders⟩ := Fetching.fetch_headers net p url (headersOf ms) session
  refine ⟨requests, hrequests, fun r hr => ?_⟩
  rw [hheaders r hr]
  exact ⟨fun name => headers_override hnames', fun v => headers_misspelled hnames'⟩

def withHeader (text : String) : Source := { ofMembers [] with header := some text }

def twice : FetchPolicy := ⟨0, .whole 0, .whole 1, 1, "gleaner"⟩

/-- Along a redirect the agent of the source is sent, and what it gives null is not. -/
theorem agent_of_source_sent : ∃ extra requests,
    requestHeaders (withHeader "\x7b\"User-Agent\":\"X\",\"x-a\":null,\"X-A\":1\x7d") = .ok extra
      ∧ (Fetching.fetch Fetching.detour twice "http://a" extra (.start ())).2.requests = requests
      ∧ requests.length = 2
      ∧ ∀ r ∈ requests, valuesOf Text.asciiLower r.headers "user-agent" = ["X"]
        ∧ valuesOf Text.asciiLower r.headers "x-a" = ["1"] := by
  let ms : Json.Members := [("User-Agent", .str "X"), ("x-a", .null), ("X-A", .int 1)]
  have hread : parseJson "\x7b\"User-Agent\":\"X\",\"x-a\":null,\"X-A\":1\x7d" = .ok (.obj ms) := by
    cbv
  have hspelled : ∀ v, ¬ Misspells Text.asciiLower ms v := by
    rintro v ⟨k, hmem, hnull, hname, hk⟩
    simp only [ms, List.mem_cons, Prod.mk.injEq, List.not_mem_nil, or_false] at hmem
    rcases hmem with ⟨rfl, rfl⟩ | ⟨rfl, rfl⟩ | ⟨rfl, rfl⟩
    · exact hk rfl
    · cases hnull
    · exact absurd hname (by decide)
  obtain ⟨extra, hextra, hfetch⟩ := source_headers_override (σ := Unit) Text.asciiLower
    (s := withHeader _) rfl hread (by decide)
  obtain ⟨requests, hrequests, hall⟩ := hfetch Fetching.detour twice "http://a" (.start ())
  refine ⟨extra, requests, hextra, hrequests, ?_, fun r hr => ?_⟩
  · have hsent : [("User-Agent", "X"), ("X-A", "1")] = extra := by
      rw [requestHeaders_object rfl hread] at hextra
      exact Except.ok.inj hextra
    have hboth :
        (Fetching.fetch Fetching.detour twice "http://a" [("User-Agent", "X"), ("X-A", "1")]
        (.start ())).2.requests.length = 2 := by rfl
    rwa [hsent, hrequests] at hboth
  · obtain ⟨hnames, -⟩ := hall r hr
    refine ⟨(hnames "user-agent" fun _ => hspelled).own (.str "X") ⟨"User-Agent", ?_⟩,
      (hnames "x-a" fun _ => hspelled).own (.int 1) ⟨"X-A", ?_⟩⟩
    · exact ⟨by simp [ms], rfl, by decide⟩
    · exact ⟨by simp [ms], rfl, by decide⟩

/-- An agent in small letters is sent beside the one of the policy, and both are one header on
    the wire. -/
theorem small_agent_sent_twice :
    (¬ ∀ (s : Source) (text : String) (ms : Json.Members), s.header = some text →
      parseJson text = .ok (.obj ms) →
      ((ms.filter fun m => !m.2.isNull).map fun m => Text.asciiLower m.1).Nodup →
      ∀ extra, s.requestHeaders = .ok extra →
        ∀ (net : Network Unit) (p : FetchPolicy) (url : String),
        ∀ r ∈ (Fetching.fetch net p url extra (.start ())).2.requests, ∀ name,
          Overrides Text.asciiLower ms p.userAgent name (valuesOf Text.asciiLower r.headers name))
      ∧ Wire.mergeHeaders [("User-Agent", "gleaner"), ("user-agent", "X")]
        = [("user-agent", "gleaner, X")] := by
  refine ⟨fun h => ?_, by decide⟩
  have hread :
      parseJson "\x7b\"user-agent\":\"X\"\x7d" = .ok (.obj [("user-agent", .str "X")]) := by cbv
  have hsent :
      (Fetching.fetch Fetching.detour twice "http://a/b" (headersOf [("user-agent", .str "X")])
      (.start ())).2.requests
        = [⟨"http://a/b", [("User-Agent", "gleaner"), ("user-agent", "X")], .whole 1⟩] := by rfl
  have hlaw := h (withHeader _) _ _ rfl hread (by decide) _ (requestHeaders_object rfl hread)
    Fetching.detour twice "http://a/b" _ (hsent ▸ List.mem_singleton.mpr rfl) "user-agent"
  have hvalues := hlaw.own (.str "X") ⟨"user-agent", by simp, rfl, rfl⟩
  exact absurd hvalues (by decide)

end Source

end Gleaner
