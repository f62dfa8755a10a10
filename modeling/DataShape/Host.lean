-- SUMMARY: How far the host's stack reaches in the places where its end is met.

/-!
# Hosts

The host allows only so many calls inside one another. Whoever goes through
something deep meets that end at some point; where, depends on the host and on
the calls that are in progress already, so these numbers are not fixed here.
-/

namespace DataShape

/-- How deep the host goes. -/
structure Host where
  /-- Calls that show a part of a value inside one another, while a message is made. -/
  showing : Nat
  /-- Arrays and objects inside one another, while JSON text is read. -/
  decoding : Nat
  /-- Collections inside one another, while YAML text is read. -/
  composing : Nat
  /-- Steps from a node of a YAML text to one that it stands for or takes its entries from. -/
  following : Nat
  /-- Parts inside one another, while a definition is built from what a YAML text holds. -/
  building : Nat
  /-- Collections inside one another, while a value is written as YAML text. -/
  writing : Nat
  deriving DecidableEq, Repr

/-- A host that does not go deep, for examples. -/
def Host.shallow : Host where
  showing := 8
  decoding := 8
  composing := 8
  following := 8
  building := 8
  writing := 8

end DataShape
