import Mathlib.Data.List.Basic

set_option autoImplicit false

namespace CodeGo.Gateway.Archive

/- A sink that writes a batch of records to one file under its root. A file that is already there
   under the name of the batch is kept when it has as many records as the batch. -/

variable {Data : Type}

def archiveSchemaVersion : Nat := 1

structure Record (Data : Type) where
  type : String
  data : Data
deriving DecidableEq, Repr

-- Times are nanoseconds since 1970.
def second : Int := 1000000000

def day : Int := 86400 * second

-- The first of January of the year 1.
def zeroTime : Int := -62135596800 * second

structure Batch (Data : Type) where
  dataset : String
  partition : Int
  id : String
  records : List (Record Data)
deriving DecidableEq, Repr

structure ArchiveLine (Data : Type) where
  schemaVersion : Nat
  recordType : String
  data : Data
deriving DecidableEq, Repr

-- The directory of a file is its dataset and the date of its partition.
structure DataPath where
  dataset : String
  date : Int
  id : String
deriving DecidableEq, Repr

structure DataFile (Data : Type) where
  path : DataPath
  lines : List (ArchiveLine Data)
deriving DecidableEq, Repr

def Batch.dataPath (batch : Batch Data) : DataPath := ⟨batch.dataset, batch.partition / day, batch.id⟩

def archivePathPart (part : String) : Bool :=
  match part.toList with
  | [] => false
  | first :: rest => first.isAlphanum && rest.all fun c => c.isAlphanum || c == '.' || c == '_' || c == '-'

def validateBatch (batch : Batch Data) : Bool :=
  archivePathPart batch.dataset && archivePathPart batch.id && batch.partition != zeroTime && !batch.records.isEmpty &&
    batch.records.all fun record => record.type != ""

def writeArchiveRecords (records : List (Record Data)) : List (ArchiveLine Data) :=
  records.map fun record => ⟨archiveSchemaVersion, record.type, record.data⟩

-- The number of records, for a file of valid lines with the expected number of them.
def inspectArchive (lines : List (ArchiveLine Data)) (expectedCount : Nat) : Option Nat :=
  if lines.all (fun line => line.schemaVersion == archiveSchemaVersion && line.recordType != "") then
    if lines.length = expectedCount then some lines.length else none
  else none

def stat (files : List (DataFile Data)) (path : DataPath) : Option (DataFile Data) := files.find? fun file => file.path == path

-- A rename puts the file in the place of any that has its name.
def publish (files : List (DataFile Data)) (file : DataFile Data) : List (DataFile Data) :=
  files.filter (fun other => other.path != file.path) ++ [file]

theorem stat_some {files : List (DataFile Data)} {path : DataPath} {file : DataFile Data} (found : stat files path = some file) :
    file ∈ files ∧ file.path = path :=
  ⟨List.mem_of_find?_eq_some found, beq_iff_eq.mp (List.find?_some found :)⟩

theorem stat_none {files : List (DataFile Data)} {path : DataPath} (missing : stat files path = none) :
    ∀ file ∈ files, file.path ≠ path := by
  intro file member same
  exact List.find?_eq_none.mp missing file member (beq_iff_eq.mpr same)

-- Where no file has the name, the published one joins the others.
theorem publish_new {files : List (DataFile Data)} {file : DataFile Data} (missing : stat files file.path = none) :
    publish files file = files ++ [file] := by
  rw [publish, List.filter_eq_self.mpr]
  intro other member
  exact bne_iff_ne.mpr (stat_none missing other member)

theorem stat_published {files : List (DataFile Data)} {file : DataFile Data} (missing : stat files file.path = none) :
    stat (publish files file) file.path = some file := by
  rw [publish_new missing, stat, List.find?_append]
  rw [stat] at missing
  simp [missing]

end CodeGo.Gateway.Archive
