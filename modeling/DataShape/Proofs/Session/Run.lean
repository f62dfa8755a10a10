-- SUMMARY: Runs of a session: its operations, what each does to the cache, and loads that answer as without a cache.
import DataShape.Session

/-!
# Runs of a session

A run is any sequence of operations. Of these only a load can store an entry
in the cache, and what it stores is what reading the text of its key at the
limit of its key gives. So whatever happened before, a load answers as it would
with nothing cached.
-/

namespace DataShape.Cache

/-- Each entry holds what reading the text of its key at the limit of its key gives. -/
def Faithful (host : Host) (c : Cache) : Prop :=
  ∀ e ∈ c.entries, Definition.read host e.1.limit e.1.text = .ok e.2.shape

theorem mem_of_find? {c : Cache} {key : CacheKey} {loaded : Loaded}
    (h : c.find? key = some loaded) : (key, loaded) ∈ c.entries := by
  obtain ⟨e, he, rfl⟩ := Option.map_eq_some_iff.1 h
  have hkey : e.1 = key := by simpa using List.find?_some he
  have hmem : e ∈ c.entries := List.mem_of_find?_eq_some he
  rwa [← hkey]

theorem mem_assign {key : CacheKey} {loaded : Loaded} {entries : List (CacheKey × Loaded)}
    {e : CacheKey × Loaded} (h : e ∈ assign key loaded entries) :
    e ∈ entries ∨ e = (key, loaded) := by
  induction entries with
  | nil => exact .inr (by simpa [assign] using h)
  | cons d rest ih =>
    simp only [assign] at h
    split at h
    · rcases List.mem_cons.1 h with he | he
      · exact .inr he
      · exact .inl (List.mem_cons_of_mem _ he)
    · rcases List.mem_cons.1 h with he | he
      · exact .inl (by rw [he]; exact List.mem_cons_self)
      · exact (ih he).imp_left (List.mem_cons_of_mem _)

theorem Faithful.store {host : Host} {c : Cache} (hc : c.Faithful host) {bound : Int}
    (h : 0 < bound) {key : CacheKey} {loaded : Loaded}
    (hread : Definition.read host key.limit key.text = .ok loaded.shape) :
    (c.store bound h key loaded).Faithful host := by
  intro e he
  rcases mem_assign he with hold | rfl
  · rw [makeRoom_entries] at hold
    exact hc e (List.mem_of_mem_drop hold)
  · exact hread

end DataShape.Cache

namespace DataShape.Session

/-! ## Operations -/

inductive Operation where
  | load (t : Text)
  /-- Writes a shape and loads the text. -/
  | roundTrip (shape : Shape)
  | clearCache
  | setConfig (config : Config)
  | setLogging (level : Text)

/-- The text that an operation loads. A shape that cannot be written gives none. -/
def Operation.text? (host : Host) : Operation → Option Text
  | .load t => some t
  | .roundTrip shape => (Definition.write host shape).toOption
  | _ => none

def perform (s : Session) : Operation → Session
  | .load t => (s.load t).session
  | .roundTrip shape => (s.roundTrip shape).session
  | .clearCache => s.clearCache
  | .setConfig config => s.setConfig config
  | .setLogging level =>
    match s.setLogging level with
    | .ok (_, s) => s
    | .error _ => s

def run (s : Session) (ops : List Operation) : Session := ops.foldl perform s

/-! ## What an operation does -/

/-- A load finds an entry, or fails to read the text, or makes a shape. -/
theorem load_cases (s : Session) (t : Text) :
    (∃ loaded, s.lookup t = some loaded ∧ s.load t = ⟨s, [.cacheHit], .ok loaded⟩) ∨
    (∃ f, s.lookup t = none ∧ Definition.read s.host s.config.definitionDepthLimit t = .error f ∧
      s.load t = ⟨s, [], .error f⟩) ∨
    (∃ loaded, s.lookup t = none ∧
      Definition.read s.host s.config.definitionDepthLimit t = .ok loaded.shape ∧
      s.load t = ⟨{ s with cache := s.cacheWith t loaded, nextSerial := s.nextSerial + 1 }, [],
        .ok loaded⟩) := by
  cases hlookup : s.lookup t with
  | some loaded => exact .inl ⟨loaded, rfl, by simp only [load, hlookup]⟩
  | none =>
    cases hread : Definition.read s.host s.config.definitionDepthLimit t with
    | error f => exact .inr (.inl ⟨f, rfl, rfl, by simp only [load, hlookup, hread]⟩)
    | ok shape =>
      exact .inr (.inr ⟨⟨s.nextSerial, shape⟩, rfl, rfl, by simp only [load, hlookup, hread]⟩)

theorem perform_of_text {op : Operation} {t : Text} {s : Session} (h : op.text? s.host = some t) :
    s.perform op = (s.load t).session := by
  cases op with
  | load t' =>
    obtain rfl : t' = t := Option.some.inj h
    rfl
  | roundTrip shape =>
    cases hwrite : Definition.write s.host shape with
    | error f => simp [Operation.text?, hwrite, Except.toOption] at h
    | ok text =>
      obtain rfl : text = t := by simpa [Operation.text?, hwrite, Except.toOption] using h
      simp only [perform, roundTrip, hwrite]
  | clearCache => cases h
  | setConfig config => cases h
  | setLogging level => cases h

theorem cache_perform_of_no_text {op : Operation} {s : Session} (h : op.text? s.host = none)
    (hclear : op ≠ .clearCache) : (s.perform op).cache = s.cache := by
  cases op with
  | load t => cases h
  | roundTrip shape =>
    cases hwrite : Definition.write s.host shape with
    | error f => simp only [perform, roundTrip, hwrite]
    | ok text => simp [Operation.text?, hwrite, Except.toOption] at h
  | clearCache => exact absurd rfl hclear
  | setConfig config => rfl
  | setLogging level =>
    cases hlevel : LogLevel.ofName level <;>
      simp only [perform, setLogging, hlevel, Except.map]

theorem host_load (s : Session) (t : Text) : (s.load t).session.host = s.host := by
  obtain ⟨loaded, -, hload⟩ | ⟨f, -, -, hload⟩ | ⟨loaded, -, -, hload⟩ := load_cases s t
  all_goals rw [hload]

theorem host_perform (s : Session) (op : Operation) : (s.perform op).host = s.host := by
  cases op with
  | load t => exact host_load s t
  | roundTrip shape =>
    simp only [perform, roundTrip]
    split
    · rfl
    · exact host_load s _
  | clearCache => rfl
  | setConfig config => rfl
  | setLogging level =>
    cases hlevel : LogLevel.ofName level <;> simp only [perform, setLogging, hlevel, Except.map]

/-- The host of a session stays the same. -/
@[simp] theorem host_run (s : Session) (ops : List Operation) : (s.run ops).host = s.host := by
  induction ops generalizing s with
  | nil => rfl
  | cons op ops ih => exact (ih (s.perform op)).trans (host_perform s op)

/-- What holds of the empty cache and is kept by storing holds of the cache after any run. -/
theorem cache_run_induction {host : Host} {P : Cache → Prop} (hempty : P .empty)
    (hstore : ∀ (s : Session) (t : Text) (loaded : Loaded), P s.cache → s.lookup t = none →
      Definition.read host s.config.definitionDepthLimit t = .ok loaded.shape →
      P (s.cacheWith t loaded))
    {s : Session} (hhost : s.host = host) (hs : P s.cache) (ops : List Operation) :
    P (s.run ops).cache := by
  induction ops generalizing s with
  | nil => exact hs
  | cons op ops ih =>
    refine ih ((host_perform s op).trans hhost) ?_
    cases htext : op.text? s.host with
    | some t =>
      rw [perform_of_text htext]
      obtain ⟨loaded, -, hload⟩ | ⟨f, -, -, hload⟩ | ⟨loaded, hlookup, hread, hload⟩ :=
        load_cases s t
      · rw [hload]; exact hs
      · rw [hload]; exact hs
      · rw [hload]; exact hstore s t loaded hs hlookup (hhost ▸ hread)
    | none =>
      by_cases hclear : op = .clearCache
      · subst hclear; exact hempty
      · rw [cache_perform_of_no_text htext hclear]; exact hs

/-! ## Loads without a cache -/

/-- The same session with nothing cached and the cache switched off. -/
def uncached (s : Session) : Session :=
  { s with cache := .empty, config := { s.config with cacheEnabled := false } }

theorem load_uncached_shape (s : Session) (t : Text) :
    (s.uncached.load t).result.map Loaded.shape =
      Definition.read s.host s.config.definitionDepthLimit t := by
  have hlookup : s.uncached.lookup t = none := rfl
  obtain ⟨loaded, hsome, -⟩ | ⟨f, -, hread, hload⟩ | ⟨loaded, -, hread, hload⟩ :=
    load_cases s.uncached t
  · rw [hlookup] at hsome; cases hsome
  · rw [hload]; exact hread.symm
  · rw [hload]; exact hread.symm

theorem cache_run_faithful {s : Session} (h : s.cache = .empty) (ops : List Operation) :
    (s.run ops).cache.Faithful s.host := by
  have hempty : Cache.empty.Faithful s.host := by intro e he; cases he
  refine cache_run_induction hempty ?_ rfl (h ▸ hempty) ops
  intro s' t loaded hs _ hread
  unfold cacheWith
  split
  · exact hs.store _ hread
  · exact hs

/-- Over a faithful cache, a load gives what reading the text gives. -/
theorem load_shape_of_faithful {s : Session} (hs : s.cache.Faithful s.host) (t : Text) :
    (s.load t).result.map Loaded.shape =
      Definition.read s.host s.config.definitionDepthLimit t := by
  rcases load_cases s t with ⟨loaded, hlookup, hload⟩ | ⟨f, -, hread, hload⟩ |
    ⟨loaded, -, hread, hload⟩
  · unfold lookup at hlookup
    split at hlookup
    · rw [hload]
      exact (hs _ (Cache.mem_of_find? hlookup)).symm
    · cases hlookup
  · rw [hload, hread]
    rfl
  · rw [hload, hread]
    rfl

/-- After any run from an empty cache, a load gives what reading the text gives. -/
theorem load_run_shape_eq_read {s : Session} (h : s.cache = .empty) (ops : List Operation)
    (t : Text) : ((s.run ops).load t).result.map Loaded.shape =
      Definition.read s.host (s.run ops).config.definitionDepthLimit t := by
  have hfaithful : (s.run ops).cache.Faithful (s.run ops).host := by
    rw [host_run]
    exact cache_run_faithful h ops
  rw [load_shape_of_faithful hfaithful, host_run]

/-- After any run from an empty cache, a load gives the shape or the fault that it gives with
nothing cached. -/
theorem load_run_shape {s : Session} (h : s.cache = .empty) (ops : List Operation) (t : Text) :
    ((s.run ops).load t).result.map Loaded.shape =
      ((s.run ops).uncached.load t).result.map Loaded.shape := by
  rw [load_uncached_shape, load_run_shape_eq_read h, host_run]

/-- A shape that was stored at a higher limit does not get past a lower one. -/
theorem load_run_shape_lowered_limit :
    let fresh := start .shallow
    let lowered := fresh.run [.load "array: string", .setConfig { definitionDepthLimit := 1 }]
    fresh.cache = .empty ∧ (fresh.load "array: string").result.toBool = true ∧
      (lowered.load "array: string").result.map Loaded.shape =
        (lowered.uncached.load "array: string").result.map Loaded.shape ∧
      (lowered.uncached.load "array: string").result.toBool = false :=
  ⟨rfl, by decide +kernel, load_run_shape rfl _ _, by decide +kernel⟩

end DataShape.Session
