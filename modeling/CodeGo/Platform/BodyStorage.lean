import CodeGo.Lib.Int64
import CodeGo.Lib.Lockstep

set_option autoImplicit false

/- Request bodies in memory and on disk behind one interface. A file is its bytes with a place in them. -/

namespace CodeGo.Platform.BodyStorage

open Machine Lockstep

inductive StorageError where
  | eof
  | unexpectedEOF
  | seek
  | closed
deriving DecidableEq, Repr

@[ext] structure Cursor where
  content : List UInt8
  offset : ℕ := 0
deriving DecidableEq, Repr

-- Where a seek ends; a place before the start or past the last int64 is refused.
def Cursor.target (cursor : Cursor) (offset whence : Int) : Option ℕ :=
  let base : Option ℕ := if whence = 0 then some 0 else if whence = 1 then some cursor.offset else if whence = 2 then some cursor.content.length else none
  base.bind fun base => if (base : Int) + offset < 0 ∨ 2 ^ 63 ≤ (base : Int) + offset then none else some ((base : Int) + offset).toNat

def Cursor.seek (cursor : Cursor) (offset whence : Int) : Except StorageError ℕ × Cursor :=
  match cursor.target offset whence with
  | some place => (.ok place, { cursor with offset := place })
  | none => (.error .seek, cursor)

def Cursor.rest (cursor : Cursor) : List UInt8 := cursor.content.drop cursor.offset

-- bytes.Reader says that it is at the end before it looks at the buffer.
def Cursor.readBytes (cursor : Cursor) (size : ℕ) : (List UInt8 × Option StorageError) × Cursor :=
  if cursor.content.length ≤ cursor.offset then (([], some .eof), cursor)
  else
    let data := cursor.rest.take size
    ((data, none), { cursor with offset := cursor.offset + data.length })

-- os.File returns at once for an empty buffer.
def Cursor.readFile (cursor : Cursor) (size : ℕ) : (List UInt8 × Option StorageError) × Cursor :=
  if size = 0 then (([], none), cursor) else cursor.readBytes size

def Cursor.readFull (cursor : Cursor) (size : ℕ) : Except StorageError (List UInt8) × Cursor :=
  let (read, after) := cursor.readFile size
  if read.1.length = size then (.ok read.1, after)
  else (.error (if read.1.length = 0 then .eof else .unexpectedEOF), after)

structure MemoryStorage where
  data : List UInt8
  reader : Cursor
  size : ℕ
  closed : Bool := false
deriving DecidableEq, Repr

def newMemoryStorage (data : List UInt8) : MemoryStorage := { data, reader := { content := data }, size := data.length }

structure DiskStorage where
  file : Cursor
  size : ℕ
  closed : Bool := false
deriving DecidableEq, Repr

def newDiskStorage (data : List UInt8) : DiskStorage := { file := { content := data }, size := data.length }

inductive Storage where
  | memory (storage : MemoryStorage)
  | disk (storage : DiskStorage)
deriving DecidableEq, Repr

namespace Storage

def isDisk : Storage → Bool
  | memory _ => false
  | disk _ => true

def size : Storage → ℕ
  | memory m => m.size
  | disk d => d.size

def read (size : ℕ) : Storage → (List UInt8 × Option StorageError) × Storage
  | memory m =>
      if m.closed then (([], some .closed), memory m)
      else let (read, reader) := m.reader.readBytes size; (read, memory { m with reader })
  | disk d =>
      if d.closed then (([], some .closed), disk d)
      else let (read, file) := d.file.readFile size; (read, disk { d with file })

def seek (offset whence : Int) : Storage → Except StorageError ℕ × Storage
  | memory m =>
      if m.closed then (.error .closed, memory m)
      else let (place, reader) := m.reader.seek offset whence; (place, memory { m with reader })
  | disk d =>
      if d.closed then (.error .closed, disk d)
      else let (place, file) := d.file.seek offset whence; (place, disk { d with file })

def close : Storage → Storage
  | memory m => memory { m with closed := true }
  | disk d => disk { d with closed := true }

-- The file is read from its start and put back where it was.
def diskBytes (d : DiskStorage) : Except StorageError (List UInt8) × DiskStorage :=
  match d.file.seek 0 1 with
  | (.error problem, file) => (.error problem, { d with file })
  | (.ok currentPos, file) =>
      match file.seek 0 0 with
      | (.error problem, file) => (.error problem, { d with file })
      | (.ok _, file) =>
          match file.readFull d.size with
          | (.error problem, file) => (.error problem, { d with file })
          | (.ok data, file) =>
              match file.seek currentPos 0 with
              | (.error problem, file) => (.error problem, { d with file })
              | (.ok _, file) => (.ok data, { d with file })

def bytes : Storage → Except StorageError (List UInt8) × Storage
  | memory m => if m.closed then (.error .closed, memory m) else (.ok m.data, memory m)
  | disk d =>
      if d.closed then (.error .closed, disk d)
      else let (data, after) := diskBytes d; (data, disk after)

-- A reader of its own over the same bytes; the file is opened again.
def newReader : Storage → Except StorageError Cursor
  | memory m => if m.closed then .error .closed else .ok { content := m.data }
  | disk d => if d.closed then .error .closed else .ok { content := d.file.content }

end Storage

/- Runs of calls on a storage and on the readers that it has handed out -/

inductive Call where
  | read (size : ℕ)
  | seek (offset whence : Int)
  | bytes
  | newReader
  | readFrom (reader size : ℕ)
  | size
  | close
deriving DecidableEq, Repr

inductive Answer where
  | data (bytes : List UInt8)
  | place (offset : ℕ)
  | size (size : ℕ)
  | done
  | failed (problem : StorageError)
deriving DecidableEq, Repr

structure Session where
  storage : Storage
  readers : List Cursor := []
deriving DecidableEq, Repr

-- What a caller reads; that nothing is left shows in the next read that asks for something.
def readAnswer : List UInt8 × Option StorageError → Answer
  | (_, some .closed) => .failed .closed
  | (data, _) => .data data

def answerOf {α : Type} (answer : α → Answer) : Except StorageError α → Answer
  | .ok value => answer value
  | .error problem => .failed problem

def readHandle (storage : Storage) (cursor : Cursor) (size : ℕ) : (List UInt8 × Option StorageError) × Cursor :=
  if storage.isDisk then cursor.readFile size else cursor.readBytes size

def Session.step (session : Session) : Call → Answer × Session
  | .read size =>
      let (read, storage) := session.storage.read size
      (readAnswer read, { session with storage })
  | .seek offset whence =>
      let (place, storage) := session.storage.seek offset whence
      (answerOf .place place, { session with storage })
  | .bytes =>
      let (data, storage) := session.storage.bytes
      (answerOf .data data, { session with storage })
  | .newReader =>
      match session.storage.newReader with
      | .ok cursor => (.done, { session with readers := session.readers ++ [cursor] })
      | .error problem => (.failed problem, session)
  | .readFrom reader size =>
      match session.readers[reader]? with
      | some cursor =>
          let (read, after) := readHandle session.storage cursor size
          (readAnswer read, { session with readers := session.readers.set reader after })
      | none => (.done, session)
  | .size => (.size session.storage.size, session)
  | .close => (.done, { session with storage := session.storage.close })

/- The two storages keep step. -/

theorem target_bounded {cursor : Cursor} {offset whence : Int} {place : ℕ} (reached : cursor.target offset whence = some place) :
    (place : Int) < 2 ^ 63 := by
  unfold Cursor.target at reached
  obtain ⟨base, _, moved⟩ := Option.bind_eq_some_iff.mp reached
  split at moved
  · cases moved
  · obtain rfl := Option.some.inj moved
    omega

theorem target_start (cursor : Cursor) : cursor.target 0 0 = some 0 := by
  simp [Cursor.target]

theorem target_here {cursor : Cursor} (bounded : (cursor.offset : Int) < 2 ^ 63) : cursor.target 0 1 = some cursor.offset := by
  have inside : ¬ ((cursor.offset : Int) + 0 < 0 ∨ 2 ^ 63 ≤ (cursor.offset : Int) + 0) := by omega
  rw [Cursor.target, if_neg (by omega), if_pos rfl, Option.bind_some, if_neg inside]
  simp

theorem target_back {content : List UInt8} {offset place : ℕ} (bounded : (place : Int) < 2 ^ 63) :
    ({ content, offset } : Cursor).target place 0 = some place := by
  have inside : ¬ (((0 : ℕ) : Int) + place < 0 ∨ 2 ^ 63 ≤ ((0 : ℕ) : Int) + place) := by omega
  rw [Cursor.target, if_pos rfl, Option.bind_some, if_neg inside]
  simp

-- Whatever the kind of the handle, the bytes and the place afterwards are the same.
theorem read_alike (cursor : Cursor) (size : ℕ) :
    readAnswer (cursor.readFile size).1 = readAnswer (cursor.readBytes size).1 ∧ (cursor.readFile size).2 = (cursor.readBytes size).2 := by
  rw [Cursor.readFile]
  split
  · rename_i empty
    rw [empty, Cursor.readBytes]
    split
    · exact ⟨rfl, rfl⟩
    · simp [readAnswer]
  · exact ⟨rfl, rfl⟩

theorem read_keeps (cursor : Cursor) (size : ℕ) :
    (cursor.readBytes size).2.content = cursor.content ∧
      (cursor.readBytes size).2.offset ≤ max cursor.offset cursor.content.length := by
  rw [Cursor.readBytes]
  split
  · exact ⟨rfl, le_max_left _ _⟩
  · refine ⟨rfl, ?_⟩
    simp only [Cursor.rest, List.length_take, List.length_drop]
    omega

theorem read_all (content : List UInt8) :
    ∃ offset, ({ content, offset := 0 } : Cursor).readFull content.length = (.ok content, { content, offset }) := by
  rw [Cursor.readFull, Cursor.readFile]
  by_cases empty : content.length = 0
  · have nothing : content = [] := List.length_eq_zero_iff.mp empty
    subst nothing
    exact ⟨0, rfl⟩
  · refine ⟨content.length, ?_⟩
    have some : ¬ content.length ≤ 0 := by omega
    rw [if_neg empty, Cursor.readBytes, if_neg some]
    simp [Cursor.rest]

-- A body as a slice can hold it.
structure Body where
  bytes : List UInt8
  fits : (bytes.length : Int) < 2 ^ 63

def memoryAt (body : Body) (offset : ℕ) (closed : Bool) : Storage :=
  .memory { data := body.bytes, reader := { content := body.bytes, offset }, size := body.bytes.length, closed }

def diskAt (body : Body) (offset : ℕ) (closed : Bool) : Storage :=
  .disk { file := { content := body.bytes, offset }, size := body.bytes.length, closed }

section storages

variable (body : Body) {offset : ℕ} (closed : Bool)

theorem disk_bytes (bounded : (offset : Int) < 2 ^ 63) :
    (diskAt body offset closed).bytes =
      (if closed then .error .closed else .ok body.bytes, diskAt body offset closed) := by
  cases closed with
  | true => rfl
  | false =>
      obtain ⟨final, read⟩ := read_all body.bytes
      have here := @target_here { content := body.bytes, offset } bounded
      have back := @target_back body.bytes final offset bounded
      simp only [diskAt, Storage.bytes, Storage.diskBytes, Cursor.seek, here, target_start, read, back, Bool.false_eq_true, if_false]

theorem memory_bytes : (memoryAt body offset closed).bytes =
    (if closed then .error .closed else .ok body.bytes, memoryAt body offset closed) := by
  cases closed <;> rfl

theorem read_pair (bounded : (offset : Int) < 2 ^ 63) (size : ℕ) :
    ∃ after : ℕ, (after : Int) < 2 ^ 63 ∧ ((memoryAt body offset closed).read size).2 = memoryAt body after closed ∧
      ((diskAt body offset closed).read size).2 = diskAt body after closed ∧
      readAnswer ((diskAt body offset closed).read size).1 = readAnswer ((memoryAt body offset closed).read size).1 := by
  cases closed with
  | true => exact ⟨offset, bounded, rfl, rfl, rfl⟩
  | false =>
      obtain ⟨answers, places⟩ := read_alike { content := body.bytes, offset } size
      obtain ⟨kept, within⟩ := read_keeps { content := body.bytes, offset } size
      have fits := body.fits
      refine ⟨(({ content := body.bytes, offset } : Cursor).readBytes size).2.offset, ?_, ?_, ?_, answers⟩
      · simp only at within
        omega
      · simp only [memoryAt, Storage.read, Bool.false_eq_true, if_false]
        congr 2
        exact Cursor.ext kept rfl
      · simp only [diskAt, Storage.read, Bool.false_eq_true, if_false, places]
        congr 2
        exact Cursor.ext kept rfl

theorem seek_pair (bounded : (offset : Int) < 2 ^ 63) (move whence : Int) :
    ∃ after : ℕ, (after : Int) < 2 ^ 63 ∧ ((memoryAt body offset closed).seek move whence).2 = memoryAt body after closed ∧
      ((diskAt body offset closed).seek move whence).2 = diskAt body after closed ∧
      ((diskAt body offset closed).seek move whence).1 = ((memoryAt body offset closed).seek move whence).1 := by
  cases closed with
  | true => exact ⟨offset, bounded, rfl, rfl, rfl⟩
  | false =>
      cases reached : ({ content := body.bytes, offset } : Cursor).target move whence with
      | none => exact ⟨offset, bounded, by simp [memoryAt, Storage.seek, Cursor.seek, reached],
          by simp [diskAt, Storage.seek, Cursor.seek, reached], by simp [memoryAt, diskAt, Storage.seek, Cursor.seek, reached]⟩
      | some place => exact ⟨place, target_bounded reached, by simp [memoryAt, Storage.seek, Cursor.seek, reached],
          by simp [diskAt, Storage.seek, Cursor.seek, reached], by simp [memoryAt, diskAt, Storage.seek, Cursor.seek, reached]⟩

end storages

-- One session over memory and one over a file: the same place, the same readers, both open or both closed.
def Twins (body : Body) (first second : Session) : Prop :=
  ∃ offset closed readers, ((offset : ℕ) : Int) < 2 ^ 63 ∧
    first = { storage := memoryAt body offset closed, readers } ∧ second = { storage := diskAt body offset closed, readers }

theorem twins_step (body : Body) (first second : Session) (call : Call) (twins : Twins body first second) :
    (first.step call).1 = (second.step call).1 ∧ Twins body (first.step call).2 (second.step call).2 := by
  obtain ⟨offset, closed, readers, bounded, rfl, rfl⟩ := twins
  cases call with
  | read size =>
      obtain ⟨after, still, memory, disk, answers⟩ := read_pair body closed bounded size
      refine ⟨answers.symm, after, closed, readers, still, ?_, ?_⟩
      · simp only [Session.step, memory]
      · simp only [Session.step, disk]
  | seek move whence =>
      obtain ⟨after, still, memory, disk, answers⟩ := seek_pair body closed bounded move whence
      refine ⟨?_, after, closed, readers, still, ?_, ?_⟩
      · simp only [Session.step, answers]
      · simp only [Session.step, memory]
      · simp only [Session.step, disk]
  | bytes =>
      simp only [Session.step, memory_bytes, disk_bytes body closed bounded]
      exact ⟨trivial, offset, closed, readers, bounded, rfl, rfl⟩
  | newReader =>
      cases closed with
      | true => exact ⟨rfl, offset, true, readers, bounded, rfl, rfl⟩
      | false => exact ⟨rfl, offset, false, readers ++ [{ content := body.bytes }], bounded, rfl, rfl⟩
  | readFrom reader size =>
      cases handle : readers[reader]? with
      | none =>
          simp only [Session.step, handle]
          exact ⟨trivial, offset, closed, readers, bounded, rfl, rfl⟩
      | some cursor =>
          obtain ⟨answers, places⟩ := read_alike cursor size
          have memory : readHandle (memoryAt body offset closed) cursor size = cursor.readBytes size := rfl
          have disk : readHandle (diskAt body offset closed) cursor size = cursor.readFile size := rfl
          simp only [Session.step, handle, memory, disk]
          exact ⟨answers.symm, offset, closed, readers.set reader (cursor.readBytes size).2, bounded, rfl, by rw [places]⟩
  | size => exact ⟨rfl, offset, closed, readers, bounded, rfl, rfl⟩
  | close => exact ⟨rfl, offset, true, readers, bounded, rfl, rfl⟩

theorem sessions_alike (body : Body) (calls : List Call) :
    answers Session.step { storage := .memory (newMemoryStorage body.bytes) } calls =
      answers Session.step { storage := .disk (newDiskStorage body.bytes) } calls := by
  have begins : Twins body { storage := .memory (newMemoryStorage body.bytes) } { storage := .disk (newDiskStorage body.bytes) } :=
    ⟨0, false, [], by decide, rfl, rfl⟩
  have pairs := answers_related (twins_step body) begins calls
  rwa [List.forall₂_eq_eq_eq] at pairs

/- Creating a storage: what the cache is ready to take decides where a body goes. -/

structure DiskCache where
  enabled : Bool
  threshold : Int
  available : Int → Bool

inductive BodyError where
  | tooLarge
  | storage (problem : StorageError)
  | decoding (problem : String)
deriving DecidableEq, Repr

def createBodyStorage (cache : DiskCache) (data : List UInt8) : Storage :=
  let size : Int := data.length
  if cache.enabled && decide (cache.threshold ≤ size) && cache.available size then .disk (newDiskStorage data)
  else .memory (newMemoryStorage data)

-- What io.LimitReader lets through.
def limited (data : List UInt8) (limit : Int) : List UInt8 := data.take limit.toNat

def createBodyStorageFromReader (cache : DiskCache) (reader : List UInt8) (contentLength maxBytes : Int) : Except BodyError Storage :=
  let data := limited reader (wrap (maxBytes + 1))
  if cache.enabled && decide (0 < contentLength) && decide (cache.threshold ≤ contentLength) && cache.available contentLength then
    if maxBytes < data.length then .error .tooLarge else .ok (.disk (newDiskStorage data))
  else if maxBytes < data.length then .error .tooLarge
  else .ok (createBodyStorage cache data)

-- A limit is an int64, and one more than the largest of them is the smallest.
theorem limited_length (body : Body) {maxBytes : Int} (limit : InInt64 maxBytes) :
    maxBytes < (limited body.bytes (wrap (maxBytes + 1))).length ↔ maxBytes < body.bytes.length := by
  have fits := body.fits
  obtain ⟨low, high⟩ := limit
  rw [limited, List.length_take]
  by_cases last : maxBytes = 2 ^ 63 - 1
  · have turned : wrap (maxBytes + 1) = -2 ^ 63 := by
      rw [last]
      decide
    rw [turned]
    omega
  · have inside : wrap (maxBytes + 1) = maxBytes + 1 := wrap_of_in (by unfold InInt64; omega)
    rw [inside]
    omega

theorem too_large_iff (cache : DiskCache) (body : Body) (contentLength : Int) {maxBytes : Int} (limit : InInt64 maxBytes) :
    createBodyStorageFromReader cache body.bytes contentLength maxBytes = .error .tooLarge ↔ maxBytes < body.bytes.length := by
  rw [← limited_length body limit, createBodyStorageFromReader]
  split
  · split
    · simp_all
    · simp_all
  · split
    · simp_all
    · simp_all

end CodeGo.Platform.BodyStorage
