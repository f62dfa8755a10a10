-- SUMMARY: Induction over values and over shapes by their direct parts.
import DataShape.Shape.Basic

/-!
# Parts

The trees of values and of shapes branch through lists. The principles here
hand down what holds of each direct part, so that a proof about trees needs
lemmas about plain lists only.
-/

namespace DataShape

/-- Whether a value holds no other values. -/
def Value.isLeaf : Value → Bool
  | .array _ _ => false
  | .object _ _ => false
  | .set _ => false
  | _ => true

theorem sizeOf_lt_of_mem_entry {α : Type} [SizeOf α] {e : Value × α} {es : List (Value × α)}
    (h : e ∈ es) : sizeOf e.1 < sizeOf es ∧ sizeOf e.2 < sizeOf es := by
  obtain ⟨key, a⟩ := e
  have hlt := List.sizeOf_lt_of_mem h
  rw [Prod.mk.sizeOf_spec] at hlt
  exact ⟨by dsimp only; omega, by dsimp only; omega⟩

@[elab_as_elim]
theorem Value.inductionOnParts {motive : Value → Prop}
    (array : ∀ form items, (∀ v ∈ items, motive v) → motive (.array form items))
    (object : ∀ form entries, (∀ e ∈ entries, motive e.1 ∧ motive e.2) →
      motive (.object form entries))
    (set : ∀ elements, (∀ v ∈ elements, motive v) → motive (.set elements))
    (leaf : ∀ v, v.isLeaf = true → motive v) (v : Value) : motive v := by
  have recurse := fun w (_ : sizeOf w < sizeOf v) => inductionOnParts array object set leaf w
  cases v with
  | array form items =>
    refine array form items fun w hw => recurse w ?_
    have hlt := List.sizeOf_lt_of_mem hw
    rw [Value.array.sizeOf_spec]
    omega
  | object form entries =>
    refine object form entries fun e he => ?_
    have hlt := sizeOf_lt_of_mem_entry he
    constructor
    · refine recurse e.1 ?_
      rw [Value.object.sizeOf_spec]
      omega
    · refine recurse e.2 ?_
      rw [Value.object.sizeOf_spec]
      omega
  | set elements =>
    refine set elements fun w hw => recurse w ?_
    have hlt := List.sizeOf_lt_of_mem hw
    rw [Value.set.sizeOf_spec]
    omega
  | _ => exact leaf _ rfl
termination_by sizeOf v

@[elab_as_elim]
theorem Shape.inductionOnParts {motive : Shape → Prop}
    (null : motive .null) (boolean : motive .boolean) (number : motive .number)
    (string : motive .string) (literal : ∀ x, motive (.literal x))
    (optional : ∀ s, motive s → motive (.optional s))
    (array : ∀ s, motive s → motive (.array s))
    (tuple : ∀ ss, (∀ s ∈ ss, motive s) → motive (.tuple ss))
    (union : ∀ ss, (∀ s ∈ ss, motive s) → motive (.union ss))
    (object : ∀ fs, (∀ f ∈ fs, motive f.2) → motive (.object fs))
    (foreign : ∀ x, motive (.foreign x)) (sealed : ∀ s, motive s → motive (.sealed s))
    (s : Shape) : motive s := by
  have recurse := fun t (_ : sizeOf t < sizeOf s) => inductionOnParts null boolean number string
    literal optional array tuple union object foreign sealed t
  cases s with
  | null => exact null
  | boolean => exact boolean
  | number => exact number
  | string => exact string
  | literal x => exact literal x
  | optional t => exact optional t (recurse t (by simp))
  | array t => exact array t (recurse t (by simp))
  | tuple ss =>
    refine tuple ss fun t ht => recurse t ?_
    have hlt := List.sizeOf_lt_of_mem ht
    rw [Shape.tuple.sizeOf_spec]
    omega
  | union ss =>
    refine union ss fun t ht => recurse t ?_
    have hlt := List.sizeOf_lt_of_mem ht
    rw [Shape.union.sizeOf_spec]
    omega
  | object fs =>
    refine object fs fun f hf => recurse f.2 ?_
    have hlt := sizeOf_lt_of_mem_entry hf
    rw [Shape.object.sizeOf_spec]
    omega
  | foreign x => exact foreign x
  | sealed t => exact sealed t (recurse t (by simp))
termination_by sizeOf s

end DataShape
