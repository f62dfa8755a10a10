-- SUMMARY: Portable spellings, as YAML reads them: their characters are allowed, and a document has the value that it spells.
import DataShape.Proofs.Yaml.Composing
import DataShape.Proofs.Yaml.Splitting
import DataShape.Proofs.Yaml.TreeContent
import DataShape.Yaml.Document

/-!
# Reading portable spellings as YAML

A document may hold every character of a spelling. Its tokens are those of a
tree, the tree is composed into a graph, and the graph has the value that the
spelling spells.
-/

namespace DataShape

/-! ## Characters -/

namespace Json

/-- Whether a document may hold all these characters. -/
def AllAllowed (cs : List Char) : Prop := ∀ c ∈ cs, Yaml.isAllowed (CodePoint.ofChar c) = true

instance (cs : List Char) : Decidable (AllAllowed cs) :=
  inferInstanceAs (Decidable (∀ c ∈ cs, Yaml.isAllowed (CodePoint.ofChar c) = true))

theorem AllAllowed.append {cs ds : List Char} (h : AllAllowed cs) (h' : AllAllowed ds) :
    AllAllowed (cs ++ ds) := List.forall_mem_append.2 ⟨h, h'⟩

theorem AllAllowed.cons {c : Char} {cs : List Char} (hc : Yaml.isAllowed (CodePoint.ofChar c) = true)
    (h : AllAllowed cs) : AllAllowed (c :: cs) := List.forall_mem_cons.2 ⟨hc, h⟩

theorem AllAllowed.separated {css : List (List Char)} (h : ∀ cs ∈ css, AllAllowed cs) :
    AllAllowed (separated ',' css) := by
  have hcomma : Yaml.isAllowed (CodePoint.ofChar ',') = true := rfl
  cases css with
  | nil => nofun
  | cons cs css =>
    obtain ⟨hcs, hcss⟩ := List.forall_mem_cons.1 h
    refine hcs.append fun c hc => ?_
    obtain ⟨ds, hds, hc⟩ := List.mem_flatMap.1 hc
    exact AllAllowed.cons hcomma (hcss ds hds) c hc

theorem allAllowed_blanks (bs : List Blank) : AllAllowed (blanks bs) := by
  refine List.forall_mem_map.2 fun b _ => ?_
  cases b <;> rfl

theorem isAllowed_of_isHexDigit {c : Char} (h : Yaml.isHexDigit c = true) :
    Yaml.isAllowed (CodePoint.ofChar c) = true := by
  have hrange : 0x30 ≤ (CodePoint.ofChar c).val ∧ (CodePoint.ofChar c).val ≤ 0x7A := by
    obtain ⟨n, hn⟩ := Option.isSome_iff_exists.1 h
    have hdigit := (Option.filter_eq_some_iff.1 hn).1
    unfold CodePoint.digit? at hdigit
    simp only [Bool.and_eq_true, decide_eq_true_eq] at hdigit
    split_ifs at hdigit <;> omega
  unfold Yaml.isAllowed
  simp only [Bool.or_eq_true, Bool.and_eq_true, decide_eq_true_eq]
  omega

theorem allAllowed_part (part : StringPart) : AllAllowed part.chars := by
  cases part with
  | char c h =>
    simp only [standsForItself, Bool.and_eq_true] at h
    exact List.forall_mem_singleton.2 h.1.1.2
  | escape e => cases e <;> decide
  | unicode d =>
    have hu : AllAllowed ['\\', 'u'] := by decide
    exact hu.append fun c hc => isAllowed_of_isHexDigit (List.all_eq_true.1 d.digits c hc)

theorem allAllowed_string (s : StringSpelling) : AllAllowed s.chars := by
  have hquote : AllAllowed ['"'] := List.forall_mem_singleton.2 rfl
  refine AllAllowed.cons rfl (AllAllowed.append (fun c hc => ?_) hquote)
  obtain ⟨part, -, hc⟩ := List.mem_flatMap.1 hc
  exact allAllowed_part part c hc

theorem Atom.allAllowed (a : Atom) : AllAllowed a.chars := by
  cases a with
  | null => decide
  | boolean b => cases b <;> decide
  | number n =>
    have hall : ∀ c ∈ numberCharacters, Yaml.isAllowed (CodePoint.ofChar c) = true := by decide
    exact fun c hc => hall c (n.mem_numberCharacters c hc)
  | string s => exact allAllowed_string s

theorem Key.allAllowed (k : Key) : AllAllowed k.chars :=
  (allAllowed_string k.name).append (allAllowed_blanks _)

namespace Spelling

mutual

theorem allAllowed_core (p : Spelling) : AllAllowed p.core := by
  cases p with
  | atom before a after => exact a.allAllowed
  | array before inner items after =>
    have hclose : AllAllowed [']'] := List.forall_mem_singleton.2 rfl
    exact AllAllowed.append (.append (.cons rfl (allAllowed_blanks inner))
      (.separated (allAllowed_each items))) hclose
  | object before inner fields after =>
    have hclose : AllAllowed ['\x7d'] := List.forall_mem_singleton.2 rfl
    exact AllAllowed.append (.append (.cons rfl (allAllowed_blanks inner))
      (.separated (allAllowed_fields fields))) hclose
termination_by structural p

theorem allAllowed_each (ps : List Spelling) : ∀ cs ∈ charsEach ps, AllAllowed cs := by
  cases ps with
  | nil => nofun
  | cons p ps =>
    refine List.forall_mem_cons.2 ⟨?_, allAllowed_each ps⟩
    exact ((allAllowed_blanks _).append (allAllowed_core p)).append (allAllowed_blanks _)
termination_by structural ps

theorem allAllowed_fields (fs : List (Key × Spelling)) : ∀ cs ∈ charsFields fs, AllAllowed cs := by
  cases fs with
  | nil => nofun
  | cons f fs =>
    refine List.forall_mem_cons.2 ⟨?_, allAllowed_fields fs⟩
    have hvalue := ((allAllowed_blanks f.2.before).append (allAllowed_core f.2)).append
      (allAllowed_blanks f.2.after)
    exact ((allAllowed_blanks _).append f.1.allAllowed).append (.cons rfl hvalue)
termination_by structural fs

end

theorem allAllowed_chars (p : Spelling) : AllAllowed p.chars :=
  ((allAllowed_blanks _).append p.allAllowed_core).append (allAllowed_blanks _)

end Spelling

end Json

namespace Yaml

/-! ## Documents -/

theorem characters?_chars (p : Json.Spelling) :
    characters? (Text.ofChars p.chars) = some p.chars := by
  have hall : (Text.ofChars p.chars).all isAllowed = true :=
    List.all_eq_true.2 (List.forall_mem_map.2 p.allAllowed_chars)
  rw [characters?, if_pos hall, Text.toChars?_ofChars]

/-- YAML reads a spelling as the value that it spells, if the host goes that deep. -/
theorem read_chars {host : Host} (p : Json.Spelling) (hcomposing : p.nesting ≤ host.composing)
    (hbuilding : p.nesting ≤ host.building) : read host (Text.ofChars p.chars) = .ok p.value := by
  rw [← p.depth_tree] at hcomposing hbuilding
  rw [read, characters?_chars]
  dsimp only
  rw [tokens_chars, Graph.ofTokens_tree _ hcomposing]
  exact (Content.ofGraph_tree p.tree hbuilding).trans (congrArg Except.ok p.value_tree)

end Yaml

end DataShape
