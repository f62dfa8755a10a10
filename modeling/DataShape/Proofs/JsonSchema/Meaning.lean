-- SUMMARY: What a JSON Schema document accepts, keyword by keyword, without reference to how documents are made.
import DataShape.Proofs.Value.Same

/-!
# Meaning of documents

Which data a document accepts under the 2020-12 dialect, as far as ten of its
keywords go. A keyword asserts something of data of one kind and nothing of
other data, and a document accepts the data that all its keywords hold of. A
key that is none of the ten asserts nothing, and neither does an argument of a
form that its keyword does not take.
-/

namespace DataShape.JsonSchema

inductive Keyword where
  | type
  | const
  | items
  | prefixItems
  | minItems
  | maxItems
  | anyOf
  | not
  | properties
  | required
  deriving DecidableEq, Repr

namespace Keyword

def all : List Keyword :=
  [.type, .const, .items, .prefixItems, .minItems, .maxItems, .anyOf, .not, .properties, .required]

def name : Keyword → String
  | .type => "type"
  | .const => "const"
  | .items => "items"
  | .prefixItems => "prefixItems"
  | .minItems => "minItems"
  | .maxItems => "maxItems"
  | .anyOf => "anyOf"
  | .not => "not"
  | .properties => "properties"
  | .required => "required"

def ofKey? : Value → Option Keyword
  | .str t => all.find? fun k => t = Text.ofString k.name
  | _ => none

@[simp] theorem ofKey?_name (k : Keyword) : ofKey? (.str k.name) = some k := by
  cases k <;> decide

end Keyword

/-! ## Assertions without documents in them -/

/-- Whether data has a type of that name. An integer is a number of integral value. -/
def HasType (name : Text) (v : Value) : Prop :=
  (∃ kind, v.kind? = some kind ∧ name = Text.ofString kind.name) ∨
    (name = Text.ofString "integer" ∧ ∃ n, v.SameNumber (.int n))

/-- One type, or a list of types of which one has to hold. -/
def HasTypeOf : Value → Value → Prop
  | .str name, v => HasType name v
  | .array _ names, v => ∃ name, .str name ∈ names ∧ HasType name v
  | _, _ => True

/-- How the length of an array stands to the number that is the argument. -/
def HasLength (r : Int → Int → Prop) (argument v : Value) : Prop :=
  ∀ form items n, v = .array form items → argument.SameNumber (.int n) → r items.length n

def HasKeys : Value → Value → Prop
  | .array _ keys, .object _ entries => ∀ key ∈ keys, (Value.lookup key entries).isSome = true
  | _, _ => True

/-! ## Acceptance -/

/-- How many items the `prefixItems` among some keywords speaks of. An `items` beside it speaks of
the others. -/
def prefixCount (keywords : List (Value × Value)) : Nat :=
  match Value.lookup (.ofString "prefixItems") keywords with
  | some (.array _ documents) => documents.length
  | _ => 0

mutual

def Accepts : Value → Value → Prop
  | .bool b, _ => b = true
  | .object _ keywords, v => AllHold keywords (prefixCount keywords) v
  | _, _ => False
termination_by structural document => document

/-- Whether every keyword of a list holds, where `items` leaves out a number of first items. -/
def AllHold : List (Value × Value) → Nat → Value → Prop
  | [], _, _ => True
  | (key, argument) :: rest, skipped, v =>
    (match Keyword.ofKey? key with
      | some .type => HasTypeOf argument v
      | some .const => v.Same argument
      | some .items =>
        ∀ form items, v = .array form items → ∀ w ∈ items.drop skipped, Accepts argument w
      | some .prefixItems =>
        match argument with
        | .array _ documents => ∀ form items, v = .array form items → AcceptsEach documents items
        | _ => True
      | some .minItems => HasLength (· ≥ ·) argument v
      | some .maxItems => HasLength (· ≤ ·) argument v
      | some .anyOf =>
        match argument with
        | .array _ documents => AcceptsSome documents v
        | _ => True
      | some .not => ¬ Accepts argument v
      | some .properties =>
        match argument with
        | .object _ properties =>
          ∀ form entries, v = .object form entries → AcceptsEntries properties entries
        | _ => True
      | some .required => HasKeys argument v
      | none => True)
    ∧ AllHold rest skipped v
termination_by structural keywords => keywords

/-- Position by position, as far as both lists go. -/
def AcceptsEach : List Value → List Value → Prop
  | d :: ds, v :: vs => Accepts d v ∧ AcceptsEach ds vs
  | _, _ => True
termination_by structural documents => documents

def AcceptsSome : List Value → Value → Prop
  | [], _ => False
  | d :: ds, v => Accepts d v ∨ AcceptsSome ds v
termination_by structural documents => documents

/-- Each property by the entry under its key, if there is one. -/
def AcceptsEntries : List (Value × Value) → List (Value × Value) → Prop
  | [], _ => True
  | (key, d) :: properties, entries =>
    (∀ w, Value.lookup key entries = some w → Accepts d w) ∧ AcceptsEntries properties entries
termination_by structural properties => properties

end

end DataShape.JsonSchema
