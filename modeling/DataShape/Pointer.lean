-- SUMMARY: JSON Pointers: building a location token by token, and reading the tokens back.
import DataShape.Text.Basic

/-!
# JSON Pointers

A pointer is a text: each token is written after a slash, with `~` as `~0`
and `/` as `~1`. The empty pointer is the whole document.
-/

namespace DataShape

abbrev Pointer := Text

namespace Pointer

def root : Pointer := []

-- ---------------------------------------------------------------------------
-- Building
-- ---------------------------------------------------------------------------

/-- The text with `sub` in the place of each `c`. -/
def replace (c : CodePoint) (sub : Text) (t : Text) : Text :=
  t.flatMap fun x => if x = c then sub else [x]

/-- First a tilde is `~0`, then a slash is `~1`, so that the tilde written for a slash stays. -/
def escape (token : Text) : Text := replace '/' "~1" (replace '~' "~0" token)

/-- A step down: to the entry under a name or to the item at an index. -/
inductive Token where
  | name (t : Text)
  | index (i : Nat)
  deriving DecidableEq, Repr

def Token.text : Token → Text
  | .name t => t
  | .index i => Text.ofNat i

/-- A pointer with one token more. Without a pointer, or after the empty one, the token is the
first. -/
def join : Option Pointer → Token → Pointer
  | none, token => "/" ++ escape token.text
  | some [], token => "/" ++ escape token.text
  | some base, token => base ++ "/" ++ escape token.text

def child (base : Pointer) (token : Text) : Pointer := join (some base) (.name token)

def index (base : Pointer) (i : Nat) : Pointer := join (some base) (.index i)

/-- The pointer after all the tokens are joined to it, one after another. -/
def joinAll (base : Option Pointer) (tokens : List Token) : Option Pointer :=
  tokens.foldl (fun p token => some (join p token)) base

def ofTokens (tokens : List Text) : Pointer := tokens.foldl child root

/-- The pointers on the way down from `base`, one for each token. -/
def along (base : Pointer) : List Text → List Pointer
  | [] => []
  | token :: tokens => base.child token :: along (base.child token) tokens

-- ---------------------------------------------------------------------------
-- Reading
-- ---------------------------------------------------------------------------

/-- Replaces each `~` that `d` follows, and the `d`, by `sub`. -/
def replaceEscape (d sub : CodePoint) : Text → Text
  | c :: d' :: rest =>
    if c = '~' ∧ d' = d then sub :: replaceEscape d sub rest
    else c :: replaceEscape d sub (d' :: rest)
  | t => t

/-- First `~1` is a slash, then `~0` is a tilde. -/
def unescape (token : Text) : Text :=
  replaceEscape '0' '~' (replaceEscape '1' '/' token)

/-- The tokens of a pointer; a text that is not empty has to start with a slash. -/
def tokens? : Pointer → Option (List Text)
  | [] => some []
  | c :: rest => if c = '/' then some ((Text.splitAt '/' rest).map unescape) else none

end Pointer

end DataShape
