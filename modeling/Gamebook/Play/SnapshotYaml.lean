import Gamebook.Play.Snapshot
import Gamebook.Data.Yaml.Emit
import Gamebook.Data.Yaml.Load
/- Progress snapshots as YAML text: written with sorted keys, read back through the snapshot
   checks. The YAML library is a parameter: what snapshots need of it is a loader, the text of its
   errors, a dumper and the dumper's checks. A text that is no YAML is an unreadable snapshot; a
   value in it that cannot be built (a number or date out of range, say) is an error of its own.
   `pyYaml` is the safe loader and dumper the program runs with, as `Data/Yaml` has them. -/
namespace Gamebook

/-- What snapshots use of a YAML library. -/
structure YamlLibrary where
  /-- read text given as code points, with the calls left to make -/
  load : Nat → List Nat → Except Yaml.Error Value
  /-- the message of an error met reading a text -/
  errorText : List Nat → Yaml.Error → String
  /-- the first reason data cannot be written, with the calls left to make -/
  writeError? : Nat → Value → Option WriteError
  /-- the text written for data -/
  dump : Value → String

/-- The safe loader and dumper of PyYAML. -/
def pyYaml : YamlLibrary := ⟨Yaml.load, Yaml.errorText, Yaml.writeError?, Yaml.dump⟩

/-- Why a YAML snapshot cannot be read back. -/
inductive YamlSnapshotError where
  /-- the text is no YAML, or its data is no snapshot -/
  | snapshot (e : SnapshotError)
  /-- a value in the text cannot be built -/
  | value (e : Yaml.Error)
  deriving DecidableEq, Repr

/-- Calls that writing a snapshot as YAML text makes before it takes the snapshot's data, its
own among them. -/
def yamlWritingCalls : Nat := 4

/-- The YAML text of a snapshot, with `room` calls left to make. -/
def Snapshot.toYamlText (lib : YamlLibrary) (s : Snapshot) (room : Nat) : Except WriteError String :=
  match lib.writeError? (room - yamlWritingCalls) s.toData with
  | some e => .error e
  | none => .ok (lib.dump s.toData)

namespace Progress

/-- Read a progress snapshot from YAML text given as code points, which may hold a lone
surrogate (that is an error of the text), with `room` calls left; the reading takes one of them. -/
def ofYaml (lib : YamlLibrary) (room : Nat) (t : List Nat) : Except YamlSnapshotError Progress :=
  match lib.load (room - 1) t with
  | .ok v => (ofData v).mapError .snapshot
  | .error e =>
    if e.isTextError then .error (.snapshot (.unreadable (lib.errorText t e))) else .error (.value e)

end Progress

end Gamebook
