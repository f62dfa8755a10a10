-- SUMMARY: Lists in a row with separators, changes at one place, and what is taken or dropped from the front.

/-!
# Lists

Items with separators between them, a change at one place, and the beginning of
a list up to where a class of its elements ends.
-/

namespace DataShape

/-- What is said of the elements of a list is tried on them. For characters there is also an instance
that tries all characters. -/
instance (priority := high) decidableForallMem {α : Type} (p : α → Prop) [DecidablePred p]
    (xs : List α) : Decidable (∀ x ∈ xs, p x) :=
  List.decidableBAll p xs

section

variable {α : Type} (separator : α)

/-- Each list with a separator before it. -/
def following (xss : List (List α)) : List α := xss.flatMap (separator :: ·)

/-- Lists in a row with a separator between them. -/
def separated : List (List α) → List α
  | [] => []
  | xs :: xss => xs ++ following separator xss

@[simp] theorem following_nil : following separator [] = [] := rfl

@[simp] theorem following_cons (xs : List α) (xss : List (List α)) :
    following separator (xs :: xss) = separator :: xs ++ following separator xss := rfl

end

section

variable {α : Type} {p : α → Bool} {xs : List α}

theorem modify_append_cons (ys : List α) (x : α) (f : α → α) :
    (xs ++ x :: ys).modify xs.length f = xs ++ f x :: ys := by
  induction xs with
  | nil => rfl
  | cons y xs ih => simpa using ih

theorem takeWhile_eq_nil (h : ∀ x ∈ xs.head?, p x = false) : xs.takeWhile p = [] := by
  cases xs with
  | nil => rfl
  | cons x xs => exact List.takeWhile_cons_of_neg (by simp [h x rfl])

theorem dropWhile_eq_self (h : ∀ x ∈ xs.head?, p x = false) : xs.dropWhile p = xs := by
  cases xs with
  | nil => rfl
  | cons x xs => exact List.dropWhile_cons_of_neg (by simp [h x rfl])

end

end DataShape
