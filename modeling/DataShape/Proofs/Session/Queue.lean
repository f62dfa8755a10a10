-- SUMMARY: The cache of a session as a bounded queue: what a load does to it, and what it holds after any run.
import Mathlib.Data.List.DropRight
import Mathlib.Data.List.Nodup
import DataShape.Proofs.Session.Run

/-!
# The cache as a queue

A load that makes a shape appends one entry and drops as many of the oldest as
the maximum size asks for; nothing else changes the cache but clearing it. The
invariant ties the entries to the misses since the cache was last cleared.
-/

namespace DataShape.Cache

theorem find?_eq_none_iff {c : Cache} {key : CacheKey} : c.find? key = none ↔ key ∉ c.keys := by
  simp only [find?, keys, Option.map_eq_none_iff, List.find?_eq_none, List.mem_map, not_exists,
    not_and, decide_eq_true_eq]

/-- With distinct keys, each entry is what is found under its key. -/
theorem find?_of_mem {c : Cache} (hc : c.keys.Nodup) {key : CacheKey} {loaded : Loaded}
    (h : (key, loaded) ∈ c.entries) : c.find? key = some loaded := by
  cases hfind : c.find? key with
  | none =>
    have hkey : key ∈ c.keys := List.mem_map_of_mem (f := (·.1)) h
    exact absurd hkey (find?_eq_none_iff.1 hfind)
  | some other =>
    have heq := List.inj_on_of_nodup_map hc h (mem_of_find? hfind) rfl
    rw [(Prod.mk.injEq ..).mp heq |>.2]

/-- The loop that makes room leaves the newest entries, one less than the bound. -/
theorem evict_eq_rtake {bound : Int} (h : 0 < bound) (c : Cache) :
    evict bound c.entries = some (c.entries.rtake (bound - 1).toNat) := by
  rw [evict_eq_drop h, List.rtake]
  congr 2
  omega

theorem store_entries {c : Cache} {bound : Int} (h : 0 < bound) {key : CacheKey}
    (hkey : key ∉ c.keys) (loaded : Loaded) :
    (c.store bound h key loaded).entries =
      c.entries.rtake (bound - 1).toNat ++ [(key, loaded)] := by
  have hroom : (c.makeRoom bound h).entries = c.entries.rtake (bound - 1).toNat := by
    simp only [makeRoom, evict_eq_rtake h, Option.get_some]
  have hnew : key ∉ (c.entries.rtake (bound - 1).toNat).map (·.1) := by
    rw [List.rtake, List.map_drop]
    exact fun hmem => hkey (List.mem_of_mem_drop hmem)
  simp only [store, hroom, assign_of_not_mem hnew]

end DataShape.Cache

namespace DataShape.Session

/-! ## One load -/

/-- What loading a text does to the cache, in the three cases of a hit, of a load that stores
nothing, and of a miss that is stored. -/
structure LoadsAsQueue (s : Session) (t : Text) : Prop where
  /-- A hit gives what was stored under the key, and changes nothing. -/
  hit : ∀ loaded, s.config.cacheEnabled = true → (s.keyOf t, loaded) ∈ s.cache.entries →
    s.load t = ⟨s, [.cacheHit], .ok loaded⟩
  kept : (∃ f, (s.load t).result = .error f) ∨ s.config.cacheEnabled = false ∨
      s.config.maxCacheSize ≤ 0 →
    (s.load t).session.cache = s.cache
  /-- The loop that makes room ends with the newest entries, and the new one goes behind them. -/
  stored : ∀ loaded, s.config.cacheEnabled = true → 0 < s.config.maxCacheSize →
    s.keyOf t ∉ s.cache.keys → (s.load t).result = .ok loaded →
    let newest := s.cache.entries.rtake (min s.cache.size (s.config.maxCacheSize - 1).toNat)
    Cache.evict s.config.maxCacheSize s.cache.entries = some newest ∧
      (s.load t).session.cache.entries = newest ++ [(s.keyOf t, loaded)]

theorem rtake_min_length {α : Type} (l : List α) (n : Nat) :
    l.rtake (min l.length n) = l.rtake n := by
  rw [List.rtake, List.rtake]
  congr 1
  omega

theorem lookup_eq_none_iff {s : Session} {t : Text} (h : s.config.cacheEnabled = true) :
    s.lookup t = none ↔ s.keyOf t ∉ s.cache.keys := by
  rw [lookup, if_pos h, Cache.find?_eq_none_iff]

theorem cacheWith_entries {s : Session} {t : Text} (henabled : s.config.cacheEnabled = true)
    (hsize : 0 < s.config.maxCacheSize) (hlookup : s.lookup t = none) (loaded : Loaded) :
    (s.cacheWith t loaded).entries =
      s.cache.entries.rtake (s.config.maxCacheSize - 1).toNat ++ [(s.keyOf t, loaded)] := by
  rw [cacheWith, dif_pos ⟨henabled, hsize⟩]
  exact Cache.store_entries hsize ((lookup_eq_none_iff henabled).1 hlookup) loaded

theorem loadsAsQueue {s : Session} (hs : s.cache.keys.Nodup) (t : Text) : s.LoadsAsQueue t where
  hit loaded henabled hmem := by
    have hlookup : s.lookup t = some loaded := by
      rw [lookup, if_pos henabled, Cache.find?_of_mem hs hmem]
    simp only [load, hlookup]
  kept h := by
    obtain ⟨loaded, -, hload⟩ | ⟨f, -, -, hload⟩ | ⟨loaded, -, -, hload⟩ := load_cases s t
    · rw [hload]
    · rw [hload]
    · rw [hload] at h ⊢
      refine dif_neg ?_
      rintro ⟨henabled, hsize⟩
      obtain ⟨f, hf⟩ | hdisabled | hempty := h
      · cases hf
      · rw [hdisabled] at henabled; cases henabled
      · omega
  stored loaded henabled hsize hkey hresult := by
    have hlookup : s.lookup t = none := (lookup_eq_none_iff henabled).2 hkey
    simp only [Cache.size, rtake_min_length]
    refine ⟨Cache.evict_eq_rtake hsize s.cache, ?_⟩
    obtain ⟨_, hsome, -⟩ | ⟨f, -, -, hload⟩ | ⟨made, -, -, hload⟩ := load_cases s t
    · rw [hlookup] at hsome; cases hsome
    · rw [hload] at hresult; cases hresult
    · rw [hload] at hresult ⊢
      obtain rfl : made = loaded := Except.ok.inj hresult
      exact cacheWith_entries henabled hsize hlookup made

/-! ## Misses -/

/-- A load that found nothing in the cache and made a shape, under some configuration. -/
structure Miss where
  key : CacheKey
  config : Config

def Miss.isStored (m : Miss) : Bool := m.config.cacheEnabled && 0 < m.config.maxCacheSize

def miss? (s : Session) (op : Operation) : Option Miss :=
  match op.text? s.host with
  | some t =>
    match s.lookup t, Definition.read s.host s.config.definitionDepthLimit t with
    | none, .ok _ => some ⟨s.keyOf t, s.config⟩
    | _, _ => none
  | none => none

/-- A session with the misses since its cache was last cleared, oldest first. -/
structure History where
  session : Session
  misses : List Miss

def History.perform (h : History) (op : Operation) : History where
  session := h.session.perform op
  misses :=
    match op with
    | .clearCache => []
    | op => h.misses ++ (h.session.miss? op).toList

/-- The misses of a run since the cache was last cleared. -/
def missesSinceClear (s : Session) (ops : List Operation) : List Miss :=
  (ops.foldl History.perform ⟨s, []⟩).misses

/-- The largest maximum size under which a miss was stored; zero if none was. -/
def largestSize (misses : List Miss) : Int :=
  ((misses.filter Miss.isStored).map fun m => m.config.maxCacheSize).foldr max 0

/-! ## The invariant -/

/-- An operation clears the cache, or leaves it with no miss, or adds a miss and stores it as far
as the configuration allows. -/
theorem History.perform_cases (h : History) (op : Operation) :
    ((h.perform op).session.cache = .empty ∧ (h.perform op).misses = []) ∨
    ((h.perform op).session.cache = h.session.cache ∧ (h.perform op).misses = h.misses) ∨
    (∃ t loaded, h.session.lookup t = none ∧
      (h.perform op).session.cache = h.session.cacheWith t loaded ∧
      (h.perform op).misses = h.misses ++ [⟨h.session.keyOf t, h.session.config⟩]) := by
  by_cases hclear : op = .clearCache
  · subst hclear; exact .inl ⟨rfl, rfl⟩
  have hmisses : (h.perform op).misses = h.misses ++ (h.session.miss? op).toList := by
    cases op with
    | clearCache => exact absurd rfl hclear
    | _ => rfl
  refine .inr ?_
  cases htext : op.text? h.session.host with
  | none =>
    refine .inl ⟨cache_perform_of_no_text htext hclear, ?_⟩
    simp [hmisses, miss?, htext]
  | some t =>
    have hsession : (h.perform op).session = (h.session.load t).session :=
      perform_of_text htext
    obtain ⟨loaded, hlookup, hload⟩ | ⟨f, hlookup, hread, hload⟩ |
      ⟨loaded, hlookup, hread, hload⟩ := load_cases h.session t
    · refine .inl ⟨by rw [hsession, hload], ?_⟩
      simp [hmisses, miss?, htext, hlookup]
    · refine .inl ⟨by rw [hsession, hload], ?_⟩
      simp [hmisses, miss?, htext, hlookup, hread]
    · refine .inr ⟨t, loaded, hlookup, by rw [hsession, hload], ?_⟩
      simp [hmisses, miss?, htext, hlookup, hread]

structure History.IsQueue (h : History) : Prop where
  nodup : h.session.cache.keys.Nodup
  /-- Under one positive size, the keys are those of the latest misses. -/
  latest : ∀ size : Int, 0 < size →
    (∀ m ∈ h.misses, m.config.cacheEnabled = true ∧ m.config.maxCacheSize = size) →
    h.session.cache.keys = (h.misses.map Miss.key).rtake size.toNat
  bounded : (h.session.cache.size : Int) ≤ largestSize h.misses

@[simp] theorem largestSize_append_single (misses : List Miss) (m : Miss) :
    largestSize (misses ++ [m]) =
      if m.isStored then max (largestSize misses) m.config.maxCacheSize
      else largestSize misses := by
  have hmax : ∀ (sizes : List Int) (n : Int),
      (sizes ++ [n]).foldr max 0 = max (sizes.foldr max 0) n ∨ n ≤ 0 := by
    intro sizes n
    induction sizes with
    | nil => simp only [List.nil_append, List.foldr_cons, List.foldr_nil]; omega
    | cons k sizes ih => simp only [List.cons_append, List.foldr_cons]; omega
  unfold largestSize
  by_cases hstored : m.isStored = true
  · have hpos : 0 < m.config.maxCacheSize := by simp [Miss.isStored] at hstored; exact hstored.2
    rw [List.filter_append, List.map_append, if_pos hstored]
    simp only [List.filter_cons, hstored, if_true, List.filter_nil, List.map_cons, List.map_nil]
    exact (hmax _ _).resolve_right (by omega)
  · rw [List.filter_append, if_neg hstored]
    simp [hstored]

theorem rtake_concat {α : Type} (l : List α) (a : α) {n : Nat} (h : 0 < n) :
    (l ++ [a]).rtake n = l.rtake (n - 1) ++ [a] := by
  obtain ⟨k, rfl⟩ : ∃ k, n = k + 1 := ⟨n - 1, by omega⟩
  rw [List.rtake_concat_succ]
  rfl

theorem rtake_rtake {α : Type} (l : List α) {m n : Nat} (h : n ≤ m) :
    (l.rtake m).rtake n = l.rtake n := by
  simp only [List.rtake, List.length_drop, List.drop_drop]
  congr 1
  omega

/-- A miss that is stored keeps the queue. -/
theorem History.IsQueue.store {h : History} (hq : h.IsQueue) {t : Text} (loaded : Loaded)
    (henabled : h.session.config.cacheEnabled = true)
    (hsize : 0 < h.session.config.maxCacheSize) (hlookup : h.session.lookup t = none)
    {h' : History} (hcache : h'.session.cache = h.session.cacheWith t loaded)
    (hmisses : h'.misses = h.misses ++ [⟨h.session.keyOf t, h.session.config⟩]) :
    h'.IsQueue := by
  have hentries := cacheWith_entries henabled hsize hlookup loaded
  have hkeys : h'.session.cache.keys =
      h.session.cache.keys.rtake (h.session.config.maxCacheSize - 1).toNat
        ++ [h.session.keyOf t] := by
    rw [hcache, Cache.keys, hentries, Cache.keys]
    simp [List.rtake, List.map_drop]
  refine ⟨?_, ?_, ?_⟩
  · have hold : (h.session.cache.keys.rtake (h.session.config.maxCacheSize - 1).toNat).Nodup :=
      hq.nodup.sublist (List.drop_sublist ..)
    have hnew : h.session.keyOf t ∉
        h.session.cache.keys.rtake (h.session.config.maxCacheSize - 1).toNat := fun hmem =>
      (lookup_eq_none_iff henabled).1 hlookup (List.mem_of_mem_drop hmem)
    rw [hkeys]
    exact List.nodup_append.2 ⟨hold, List.nodup_singleton _, by
      rintro a ha b hb rfl; exact hnew (List.mem_singleton.1 hb ▸ ha)⟩
  · intro size hpos hall
    rw [hmisses] at hall ⊢
    have hthis : h.session.config.maxCacheSize = size :=
      (hall ⟨h.session.keyOf t, h.session.config⟩ (by simp)).2
    rw [hkeys, hq.latest size hpos fun m hm => hall m (List.mem_append_left _ hm), hthis,
      List.map_append, List.map_singleton, rtake_concat _ _ (by omega), rtake_rtake _ (by omega)]
    congr 2
    omega
  · have hstored : Miss.isStored ⟨h.session.keyOf t, h.session.config⟩ = true := by
      simp [Miss.isStored, henabled, hsize]
    rw [hmisses, largestSize_append_single, if_pos hstored, hcache, Cache.size, hentries]
    simp only [List.rtake, List.length_append, List.length_drop, List.length_singleton]
    omega

/-- A miss that is not stored keeps the queue. -/
theorem History.IsQueue.skip {h : History} (hq : h.IsQueue) {t : Text} (loaded : Loaded)
    (hskip : ¬ (h.session.config.cacheEnabled ∧ 0 < h.session.config.maxCacheSize))
    {h' : History} (hcache : h'.session.cache = h.session.cacheWith t loaded)
    (hmisses : h'.misses = h.misses ++ [⟨h.session.keyOf t, h.session.config⟩]) :
    h'.IsQueue := by
  rw [cacheWith, dif_neg hskip] at hcache
  refine ⟨hcache ▸ hq.nodup, ?_, ?_⟩
  · intro size hpos hall
    have hthis := hall ⟨h.session.keyOf t, h.session.config⟩ (by simp [hmisses])
    exact absurd ⟨hthis.1, hthis.2 ▸ hpos⟩ hskip
  · have hstored : Miss.isStored ⟨h.session.keyOf t, h.session.config⟩ = false := by
      simpa [Miss.isStored] using hskip
    rw [hmisses, largestSize_append_single, hstored, hcache]
    exact hq.bounded

theorem History.IsQueue.perform {h : History} (hq : h.IsQueue) (op : Operation) :
    (h.perform op).IsQueue := by
  obtain ⟨hcache, hmisses⟩ | ⟨hcache, hmisses⟩ | ⟨t, loaded, hlookup, hcache, hmisses⟩ :=
    h.perform_cases op
  · exact ⟨by simp [hcache, Cache.keys, Cache.empty],
      by simp [hcache, hmisses, Cache.keys, Cache.empty],
      by simp [hcache, hmisses, Cache.size, Cache.empty, largestSize]⟩
  · exact ⟨hcache ▸ hq.nodup, hcache ▸ hmisses ▸ hq.latest, hcache ▸ hmisses ▸ hq.bounded⟩
  · by_cases hstored :
      h.session.config.cacheEnabled = true ∧ 0 < h.session.config.maxCacheSize
    · exact hq.store loaded hstored.1 hstored.2 hlookup hcache hmisses
    · exact hq.skip loaded hstored hcache hmisses

theorem History.isQueue_foldl {h : History} (hq : h.IsQueue) (ops : List Operation) :
    (ops.foldl History.perform h).IsQueue := by
  induction ops generalizing h with
  | nil => exact hq
  | cons op ops ih => exact ih (hq.perform op)

theorem History.session_foldl (h : History) (ops : List Operation) :
    (ops.foldl History.perform h).session = h.session.run ops := by
  induction ops generalizing h with
  | nil => rfl
  | cons op ops ih => exact ih (h.perform op)

/-- After any run from an empty cache, the cache is a bounded queue with distinct keys: each load
treats it as one, under one positive size it holds the keys of the latest misses, and it is never
longer than the largest size under which one of its misses was stored. -/
theorem cache_run_isQueue {s : Session} (h : s.cache = .empty) (ops : List Operation) :
    (s.run ops).cache.keys.Nodup ∧
    (∀ t, (s.run ops).LoadsAsQueue t) ∧
    (∀ size : Int, 0 < size →
      (∀ m ∈ s.missesSinceClear ops,
        m.config.cacheEnabled = true ∧ m.config.maxCacheSize = size) →
      (s.run ops).cache.keys = ((s.missesSinceClear ops).map Miss.key).rtake
        (min (s.missesSinceClear ops).length size.toNat)) ∧
    ((s.run ops).cache.size : Int) ≤ largestSize (s.missesSinceClear ops) := by
  have hstart : History.IsQueue ⟨s, []⟩ :=
    ⟨by simp [h, Cache.keys, Cache.empty], by simp [h, Cache.keys, Cache.empty],
      by simp [h, Cache.size, Cache.empty, largestSize]⟩
  have hq := History.isQueue_foldl hstart ops
  have hsession := History.session_foldl ⟨s, []⟩ ops
  refine ⟨hsession ▸ hq.nodup, fun t => loadsAsQueue (hsession ▸ hq.nodup) t, ?_,
    hsession ▸ hq.bounded⟩
  intro size hpos hall
  rw [← List.length_map (f := Miss.key), rtake_min_length, ← hsession]
  exact hq.latest size hpos hall

/-- Under a maximum size of two, the third of three shapes that are made displaces the first. -/
theorem cache_run_isQueue_three_loads :
    let fresh := start .shallow
    fresh.cache = .empty ∧
    (fresh.run [.setConfig { maxCacheSize := 2 }, .load "null", .load "string", .load "string",
      .load "number"]).cache.keys = [⟨"string", 64⟩, ⟨"number", 64⟩] := by
  intro fresh
  refine ⟨rfl, ?_⟩
  obtain ⟨-, -, hlatest, -⟩ := cache_run_isQueue (s := fresh) rfl
    [.setConfig { maxCacheSize := 2 }, .load "null", .load "string", .load "string",
      .load "number"]
  rw [hlatest 2 (by decide) (by decide +kernel)]
  decide +kernel

end DataShape.Session
