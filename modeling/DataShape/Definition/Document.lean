-- SUMMARY: Definition documents as YAML text: reading a shape, and writing one.
import DataShape.Definition.Build
import DataShape.Definition.Describe
import DataShape.Yaml.Block
import DataShape.Yaml.Document

/-!
# Definition texts

JSON text is YAML text, so one reader serves both. Collections are followed into
one another as far as the host goes. One that contains itself goes deeper than
that, unless a limit on the depth of definitions is met before.
-/

namespace DataShape.Definition

/-- Why a text gives no shape. -/
inductive ReadFault where
  | raised (outcome : Raised)
  /-- A scalar that its tag cannot read. -/
  | scalar (fault : Yaml.ScalarFault)
  /-- The host does not go that deep. -/
  | tooDeep

/-- Why a shape gives no text. -/
inductive WriteFault where
  | raised (outcome : Raised)
  | unwritable (fault : Yaml.Unwritable)

/-- Whether a fault is about the place where the content of a text is cut off. -/
def meetsCut : Raised → Bool
  | .schema ⟨.noJsonForm (.reference _), _⟩ => true
  | .schema ⟨.notADefinition (.reference _), _⟩ => true
  | .schema ⟨.notAList _ (.reference _), _⟩ => true
  | .schema ⟨.fieldsNotMapping (.reference _), _⟩ => true
  | _ => false

/-- The sealed shape that a text defines. -/
def read (host : Host) (limit : Int) (t : Text) : Except ReadFault Shape :=
  match Yaml.read host t with
  | .error .malformed => .error (.raised (.schema ⟨.unreadable, none⟩))
  | .error (.scalar f) => .error (.scalar f)
  | .error .tooDeep => .error .tooDeep
  | .ok document =>
    (toShape host limit document).mapError fun r => if meetsCut r then .tooDeep else .raised r

/-- The text that defines a shape. -/
def write (host : Host) (s : Shape) : Except WriteFault Text :=
  match ofShape host s with
  | .error r => .error (.raised r)
  | .ok document => (Yaml.write host document).mapError .unwritable

end DataShape.Definition
