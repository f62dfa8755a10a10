-- SUMMARY: Loading a portable JSON text gives what building from its value gives, whatever is cached.
import DataShape.Proofs.Definition.Readers
import DataShape.Proofs.Session.Run

/-!
# Loading JSON text

There are two ways from a JSON text to a shape: to load it, or to decode it and
to build from the value. For a portable text both come to the same shape, or to
the same fault.
-/

namespace DataShape.Session

/-- Whatever a run has left in the cache, a portable text can be decoded, and loading it has the
outcome of building from what it decodes to. -/
theorem load_run_portable {s : Session} (hs : s.cache = .empty) (ops : List Operation) {t : Text}
    (h : Json.IsPortable s.host t) :
    ∃ d, Json.decode s.host.decoding (.str t) = .ok (.ok d) ∧
      ((s.run ops).load t).result.map Loaded.shape =
        (Definition.toShape s.host (s.run ops).config.definitionDepthLimit d).mapError .raised := by
  have hreads := Definition.readsAsJson_of_isPortable (s.run ops).config.definitionDepthLimit h
  obtain ⟨p, rfl, hdecoding, -⟩ := h
  have hread := Json.readUnmarked_chars p hdecoding
  have hdecode : Json.decode s.host.decoding (.str (Text.ofChars p.chars)) = .ok (.ok p.value) := by
    rw [Json.decode, hread]
    rfl
  exact ⟨p.value, hdecode, (load_run_shape_eq_read hs ops _).trans (hreads _ hread)⟩

/-- Escapes, blanks and a number with all its parts, in a text that is loaded for the second time. -/
theorem load_run_portable_cached_union :
    let text : Text :=
      "\x7b \"union\" :\n[\"null\", \x7b\"literal\": [-2.50E+1, \"\\u00e9\\n\"]\x7d] \x7d"
    let x : Binary64 := .finite true 1027 2533274790395904
    let fresh := start .shallow
    let ops : List Operation := [.setConfig { definitionDepthLimit := 2 }, .load text]
    Json.IsPortable fresh.host text ∧ (fresh.run ops).cache.entries.length = 1 ∧
      ∃ loaded, ((fresh.run ops).load text).result = .ok loaded ∧
        loaded.shape = .sealed (.union [.null, .literal (.list [.float x, .str "é\n"])]) := by
  intro text x fresh ops
  let nullWord : Json.StringSpelling :=
    ⟨[.char 'n' rfl, .char 'u' rfl, .char 'l' rfl, .char 'l' rfl], rfl⟩
  let unionWord : Json.StringSpelling :=
    ⟨[.char 'u' rfl, .char 'n' rfl, .char 'i' rfl, .char 'o' rfl, .char 'n' rfl], rfl⟩
  let literalWord : Json.StringSpelling :=
    ⟨[.char 'l' rfl, .char 'i' rfl, .char 't' rfl, .char 'e' rfl, .char 'r' rfl, .char 'a' rfl,
      .char 'l' rfl], rfl⟩
  let accented : Json.StringSpelling :=
    ⟨[.unicode ⟨['0', '0', 'e', '9'], rfl, rfl⟩, .escape .lineFeed], rfl⟩
  let number : Json.NumberSpelling :=
    ⟨true, ⟨2, []⟩, some ⟨⟨5, [0]⟩, some ⟨true, false, ⟨1, []⟩⟩⟩, nofun, nofun⟩
  let literal : Json.Spelling := .object [.space] [] [(⟨[], literalWord, 0, by decide⟩,
    .array [.space] [] [.atom [] (.number number) [], .atom [.space] (.string accented) []] [])] []
  let p : Json.Spelling := .object [] [.space] [(⟨[], unionWord, 1, by decide⟩,
    .array [.lineFeed] [] [.atom [] (.string nullWord) [], literal] [.space])] []
  have hportable : Json.IsPortable fresh.host text :=
    ⟨p, by decide +kernel, by decide +kernel, by decide +kernel, by decide +kernel⟩
  have hstart : fresh.cache = .empty := rfl
  have hlimit : (fresh.run ops).config.definitionDepthLimit = 2 := by decide +kernel
  have hcached : (fresh.run ops).cache.entries.length = 1 := by decide +kernel
  obtain ⟨d, hdecode, hload⟩ := load_run_portable hstart ops hportable
  have hread : Json.readUnmarked fresh.host.decoding text = .ok (Definition.tagged .union
      (.list [.str "null", Definition.tagged .literal (.list [.float x, .str "é\n"])])) := by
    decide +kernel
  rw [Json.decode, hread] at hdecode
  obtain rfl := Except.ok.inj (Except.ok.inj hdecode)
  have hbuild : ∀ x s, Definition.toShape fresh.host 2 (Definition.tagged .union
      (.list [.str "null", Definition.tagged .literal (.list [.float x, .str s])])) =
      .ok (.sealed (.union [.null, .literal (.list [.float x, .str s])])) := fun _ _ => rfl
  rw [hlimit, hbuild] at hload
  exact ⟨hportable, hcached, Except.map_eq_ok.1 hload⟩

end DataShape.Session
