import CodeGo.Lib.Text
import CodeGo.Platform.BodyStorage
import Mathlib.Data.List.Infix

set_option autoImplicit false

/- The request body of a context: read once into a storage, decoded from there, and replayed. -/

namespace CodeGo.Platform.BodyStorage

open Machine Text Lockstep

-- A JSON decoder for one kind of target: the first value of a stream with what follows it, and a whole input at once.
structure Decoder (V : Type) where
  decode : List UInt8 → Except String (V × List UInt8)
  unmarshal : List UInt8 → Except String V
  buffered : List UInt8 → ℕ

structure RequestBodySnapshot (F : Type) where
  raw : Option (List UInt8) := none
  fields : F

structure Context (F : Type) where
  contentType : String
  contentLength : Int
  requestBody : List UInt8
  replayed : Bool := false
  keyBodyStorage : Option Storage := none
  keyRequestBody : Option (List UInt8) := none
  keyRequestBodySnapshot : Option (RequestBodySnapshot F) := none

def maxBytesOf (maxRequestBodyMB : Int) : Int := wrap ((if maxRequestBodyMB ≤ 0 then 128 else maxRequestBodyMB) * 2 ^ 20)

section model

variable {F : Type} (cache : DiskCache) (maxRequestBodyMB : Int)

def getBodyStorage (c : Context F) : Except BodyError Storage × Context F :=
  match c.keyBodyStorage with
  | some storage =>
      match storage.seek 0 0 with
      | (.error problem, storage) => (.error (.storage problem), { c with keyBodyStorage := some storage })
      | (.ok _, storage) => (.ok storage, { c with keyBodyStorage := some storage })
  | none =>
      match c.keyRequestBody with
      | some bodyBytes =>
          let storage := createBodyStorage cache bodyBytes
          (.ok storage, { c with keyBodyStorage := some storage })
      | none =>
          match createBodyStorageFromReader cache c.requestBody c.contentLength (maxBytesOf maxRequestBodyMB) with
          | .error problem => (.error problem, c)
          | .ok storage => (.ok storage, { c with keyBodyStorage := some storage })

def isJSON (contentType : String) : Bool := hasPrefix "application/json" contentType

def Storage.unread : Storage → List UInt8
  | memory m => m.reader.rest
  | disk d => d.file.rest

def Storage.moved (place : ℕ) : Storage → Storage
  | memory m => memory { m with reader := { m.reader with offset := place } }
  | disk d => disk { d with file := { d.file with offset := place } }

-- From the start of the storage to the first value, and back to the start where that went well.
def decodeStream {V : Type} (decoder : Decoder V) (storage : Storage) : Except BodyError V × Storage :=
  match storage.seek 0 0 with
  | (.error problem, storage) => (.error (.storage problem), storage)
  | (.ok _, storage) =>
      let after := storage.moved (decoder.buffered storage.unread)
      match decoder.decode storage.unread with
      | .error problem => (.error (.decoding problem), after)
      | .ok (value, _) =>
          match after.seek 0 0 with
          | (.error problem, storage) => (.error (.storage problem), storage)
          | (.ok _, storage) => (.ok value, storage)

def getRequestBodySnapshot (decoder : Decoder F) (empty : F) (c : Context F) : Except BodyError (RequestBodySnapshot F) × Context F :=
  if !isJSON c.contentType then (.ok { fields := empty }, c)
  else
    match c.keyRequestBodySnapshot with
    | some snapshot => (.ok snapshot, c)
    | none =>
        match getBodyStorage cache maxRequestBodyMB c with
        | (.error problem, c) => (.error problem, c)
        | (.ok storage, c) =>
            if storage.isDisk then
              match decodeStream decoder storage with
              | (.error problem, storage) => (.error problem, { c with keyBodyStorage := some storage })
              | (.ok fields, storage) =>
                  (.ok { fields }, { c with keyBodyStorage := some storage, keyRequestBodySnapshot := some { fields } })
            else
              match storage.bytes with
              | (.error problem, storage) => (.error (.storage problem), { c with keyBodyStorage := some storage })
              | (.ok raw, storage) =>
                  match decoder.unmarshal raw with
                  | .error problem => (.error (.decoding problem), { c with keyBodyStorage := some storage })
                  | .ok fields =>
                      (.ok { raw := some raw, fields },
                        { c with keyBodyStorage := some storage, keyRequestBodySnapshot := some { raw := some raw, fields } })

-- The forms are read by `parseFormData` and `parseMultipartFormData`; another content type leaves the target as it is.
def unmarshalBodyReusable {V : Type} (decoder : Decoder V) (parseFormData : List UInt8 → Except String V)
    (parseMultipartFormData : String → List UInt8 → Except String V) (target : V) (c : Context F) : Except BodyError V × Context F :=
  match getBodyStorage cache maxRequestBodyMB c with
  | (.error problem, c) => (.error problem, c)
  | (.ok storage, c) =>
      if storage.isDisk && isJSON c.contentType then
        match decodeStream decoder storage with
        | (.error problem, storage) => (.error problem, { c with keyBodyStorage := some storage })
        | (.ok value, storage) => (.ok value, { c with keyBodyStorage := some storage, replayed := true })
      else
        match storage.bytes with
        | (.error problem, storage) => (.error (.storage problem), { c with keyBodyStorage := some storage })
        | (.ok requestBody, storage) =>
            let decoded :=
              if isJSON c.contentType then decoder.unmarshal requestBody
              else if "application/x-www-form-urlencoded".toList <:+: c.contentType.toList then parseFormData requestBody
              else if "multipart/form-data".toList <:+: c.contentType.toList then parseMultipartFormData c.contentType requestBody
              else .ok target
            match decoded with
            | .error problem => (.error (.decoding problem), { c with keyBodyStorage := some storage })
            | .ok value =>
                match storage.seek 0 0 with
                | (.error problem, storage) => (.error (.storage problem), { c with keyBodyStorage := some storage })
                | (.ok _, storage) => (.ok value, { c with keyBodyStorage := some storage, replayed := true })

end model

/- The same body in memory and on disk -/

def storageAt (body : Body) (isDisk : Bool) (offset : ℕ) (closed : Bool) : Storage :=
  if isDisk then diskAt body offset closed else memoryAt body offset closed

section decoding

variable {V : Type} {body : Body} {offset : ℕ}

def blankByte (byte : UInt8) : Bool := byte = 0x20 || byte = 0x09 || byte = 0x0A || byte = 0x0D

def BlankRest (rest : List UInt8) : Prop := ∀ byte ∈ rest, blankByte byte = true

instance (rest : List UInt8) : Decidable (BlankRest rest) := List.decidableBAll (fun byte => blankByte byte = true) rest

-- The whole input is one value where nothing but white space follows its first.
def OneValue (decoder : Decoder V) : Prop :=
  ∀ input value, decoder.unmarshal input = .ok value ↔ ∃ rest, decoder.decode input = .ok (value, rest) ∧ BlankRest rest

def Clean (decoder : Decoder V) (input : List UInt8) : Prop := ∀ value rest, decoder.decode input = .ok (value, rest) → BlankRest rest

theorem seek_start (isDisk closed : Bool) :
    (storageAt body isDisk offset closed).seek 0 0 =
      (if closed then (.error .closed, storageAt body isDisk offset closed) else (.ok 0, storageAt body isDisk 0 closed)) := by
  cases isDisk <;> cases closed <;> simp [storageAt, diskAt, memoryAt, Storage.seek, Cursor.seek, target_start]

theorem unread_start : (diskAt body 0 false).unread = body.bytes := rfl

theorem moved_disk (place : ℕ) : (diskAt body offset false).moved place = diskAt body place false := rfl

theorem decode_stream (decoder : Decoder V) :
    decodeStream decoder (diskAt body 0 false) =
      match decoder.decode body.bytes with
      | .error problem => (.error (.decoding problem), diskAt body (decoder.buffered body.bytes) false)
      | .ok (value, _) => (.ok value, diskAt body 0 false) := by
  have start (place : ℕ) := @seek_start body place true false
  simp only [storageAt, if_true, Bool.false_eq_true, if_false] at start
  rw [decodeStream, start 0]
  simp only [unread_start, moved_disk, start]

-- What a decoder accepts of a stream is what it accepts of the whole, wherever the rest is blank.
theorem accepts_iff {decoder : Decoder V} (whole : OneValue decoder) (input : List UInt8) :
    (decoder.unmarshal input).toOption = (decoder.decode input).toOption.map Prod.fst ↔ Clean decoder input := by
  constructor
  · intro same value rest decoded
    rw [decoded] at same
    cases result : decoder.unmarshal input with
    | error problem =>
        rw [result] at same
        cases same
    | ok other =>
        obtain ⟨others, again, blank⟩ := (whole input other).mp result
        rw [decoded] at again
        obtain ⟨-, rfl⟩ := Prod.mk.inj (Except.ok.inj again)
        exact blank
  · intro clean
    cases decoded : decoder.decode input with
    | error problem =>
        cases result : decoder.unmarshal input with
        | error _ => rfl
        | ok other =>
            obtain ⟨_, again, _⟩ := (whole input other).mp result
            rw [decoded] at again
            cases again
    | ok pair =>
        obtain ⟨value, rest⟩ := pair
        rw [(whole input value).mpr ⟨rest, decoded, clean value rest decoded⟩]
        rfl

end decoding

section contexts

variable {F V : Type} (cache : DiskCache) (maxRequestBodyMB : Int) (c : Context F) (body : Body)

def held (isDisk : Bool) (offset : ℕ) (closed : Bool) : Context F :=
  { c with keyBodyStorage := some (storageAt body isDisk offset closed), keyRequestBodySnapshot := none }

theorem get_held (isDisk : Bool) (offset : ℕ) (closed : Bool) :
    getBodyStorage cache maxRequestBodyMB (held c body isDisk offset closed) =
      if closed then (.error (.storage .closed), held c body isDisk offset closed)
      else (.ok (storageAt body isDisk 0 false), held c body isDisk 0 false) := by
  rw [getBodyStorage, held]
  simp only [seek_start]
  cases closed <;> rfl

variable {cache maxRequestBodyMB c body}

-- What the snapshot of a held body is: a closed one has none, a file is decoded as a stream, a buffer as a whole.
theorem snapshot_closed (decoder : Decoder F) (empty : F) (isDisk : Bool) (offset : ℕ) (json : isJSON c.contentType = true) :
    getRequestBodySnapshot cache maxRequestBodyMB decoder empty (held c body isDisk offset true) =
      (.error (.storage .closed), held c body isDisk offset true) := by
  have type : (held c body isDisk offset true).contentType = c.contentType := rfl
  have fresh : (held c body isDisk offset true).keyRequestBodySnapshot = none := rfl
  simp only [getRequestBodySnapshot, type, json, Bool.not_true, Bool.false_eq_true, if_false, fresh, get_held, if_true]

theorem snapshot_disk (decoder : Decoder F) (empty : F) (offset : ℕ) (json : isJSON c.contentType = true) :
    getRequestBodySnapshot cache maxRequestBodyMB decoder empty (held c body true offset false) =
      match decoder.decode body.bytes with
      | .error problem => (.error (.decoding problem), held c body true (decoder.buffered body.bytes) false)
      | .ok (fields, _) => (.ok { fields }, { held c body true 0 false with keyRequestBodySnapshot := some { fields } }) := by
  have type : (held c body true offset false).contentType = c.contentType := rfl
  have fresh : (held c body true offset false).keyRequestBodySnapshot = none := rfl
  have disk : (diskAt body 0 false).isDisk = true := rfl
  have stored : storageAt body true 0 false = diskAt body 0 false := rfl
  simp only [getRequestBodySnapshot, type, json, Bool.not_true, Bool.false_eq_true, if_false, fresh, get_held, stored, disk, if_true,
    decode_stream]
  cases decoder.decode body.bytes <;> rfl

theorem snapshot_memory (decoder : Decoder F) (empty : F) (offset : ℕ) (json : isJSON c.contentType = true) :
    getRequestBodySnapshot cache maxRequestBodyMB decoder empty (held c body false offset false) =
      match decoder.unmarshal body.bytes with
      | .error problem => (.error (.decoding problem), held c body false 0 false)
      | .ok fields =>
          (.ok { raw := some body.bytes, fields },
            { held c body false 0 false with keyRequestBodySnapshot := some { raw := some body.bytes, fields } }) := by
  have type : (held c body false offset false).contentType = c.contentType := rfl
  have fresh : (held c body false offset false).keyRequestBodySnapshot = none := rfl
  have memory : (storageAt body false 0 false).isDisk = false := rfl
  have bytes : (storageAt body false 0 false).bytes = (.ok body.bytes, storageAt body false 0 false) := rfl
  simp only [getRequestBodySnapshot, type, json, Bool.not_true, Bool.false_eq_true, if_false, fresh, get_held, memory, bytes]
  cases decoder.unmarshal body.bytes <;> rfl

variable (parseFormData : List UInt8 → Except String V) (parseMultipartFormData : String → List UInt8 → Except String V) (target : V)

theorem reuse_closed (decoder : Decoder V) (isDisk : Bool) (offset : ℕ) :
    unmarshalBodyReusable cache maxRequestBodyMB decoder parseFormData parseMultipartFormData target (held c body isDisk offset true) =
      (.error (.storage .closed), held c body isDisk offset true) := by
  simp only [unmarshalBodyReusable, get_held, if_true]

theorem reuse_disk (decoder : Decoder V) (offset : ℕ) (json : isJSON c.contentType = true) :
    unmarshalBodyReusable cache maxRequestBodyMB decoder parseFormData parseMultipartFormData target (held c body true offset false) =
      match decoder.decode body.bytes with
      | .error problem => (.error (.decoding problem), held c body true (decoder.buffered body.bytes) false)
      | .ok (value, _) => (.ok value, { held c body true 0 false with replayed := true }) := by
  have type : (held c body true 0 false).contentType = c.contentType := rfl
  have disk : (diskAt body 0 false).isDisk = true := rfl
  have stored : storageAt body true 0 false = diskAt body 0 false := rfl
  simp only [unmarshalBodyReusable, get_held, Bool.false_eq_true, if_false, stored, disk, type, json, Bool.and_true, if_true,
    decode_stream]
  cases decoder.decode body.bytes <;> rfl

theorem reuse_memory (decoder : Decoder V) (offset : ℕ) (json : isJSON c.contentType = true) :
    unmarshalBodyReusable cache maxRequestBodyMB decoder parseFormData parseMultipartFormData target (held c body false offset false) =
      match decoder.unmarshal body.bytes with
      | .error problem => (.error (.decoding problem), held c body false 0 false)
      | .ok value => (.ok value, { held c body false 0 false with replayed := true }) := by
  have type : (held c body false 0 false).contentType = c.contentType := rfl
  have memory : (storageAt body false 0 false).isDisk = false := rfl
  have bytes : (storageAt body false 0 false).bytes = (.ok body.bytes, storageAt body false 0 false) := rfl
  simp only [unmarshalBodyReusable, get_held, memory, bytes, Bool.false_and, Bool.false_eq_true, if_false, type, json, if_true, seek_start]
  cases decoder.unmarshal body.bytes <;> rfl

end contexts

section alike

variable {F V : Type}

-- What the readers of a body see of it, and the place it is left at where they accept it.
structure Alike (snapshots : Decoder F) (empty : F) (values : Decoder V) (parseFormData : List UInt8 → Except String V)
    (parseMultipartFormData : String → List UInt8 → Except String V) (target : V) (body : Body) : Prop where
  sessions : ∀ calls,
    answers Session.step { storage := .memory (newMemoryStorage body.bytes) } calls =
      answers Session.step { storage := .disk (newDiskStorage body.bytes) } calls
  tooLarge : ∀ (cache : DiskCache) (contentLength maxBytes : Int), InInt64 maxBytes →
    (createBodyStorageFromReader cache body.bytes contentLength maxBytes = .error .tooLarge ↔ maxBytes < body.bytes.length)
  snapshot : ∀ (cache : DiskCache) (maxRequestBodyMB : Int) (c : Context F) (offset : ℕ) (closed : Bool), isJSON c.contentType = true →
    (getRequestBodySnapshot cache maxRequestBodyMB snapshots empty (held c body true offset closed)).1.toOption.map (·.fields) =
      (getRequestBodySnapshot cache maxRequestBodyMB snapshots empty (held c body false offset closed)).1.toOption.map (·.fields)
  rewound : ∀ (cache : DiskCache) (maxRequestBodyMB : Int) (c : Context F) (isDisk : Bool) (offset : ℕ) (closed : Bool)
    (accepted : RequestBodySnapshot F), isJSON c.contentType = true →
    (getRequestBodySnapshot cache maxRequestBodyMB snapshots empty (held c body isDisk offset closed)).1 = .ok accepted →
    (getRequestBodySnapshot cache maxRequestBodyMB snapshots empty (held c body isDisk offset closed)).2.keyBodyStorage =
      some (storageAt body isDisk 0 false)
  value : ∀ (cache : DiskCache) (maxRequestBodyMB : Int) (c : Context F) (offset : ℕ) (closed : Bool), isJSON c.contentType = true →
    (unmarshalBodyReusable cache maxRequestBodyMB values parseFormData parseMultipartFormData target
        (held c body true offset closed)).1.toOption =
      (unmarshalBodyReusable cache maxRequestBodyMB values parseFormData parseMultipartFormData target
        (held c body false offset closed)).1.toOption
  replayed : ∀ (cache : DiskCache) (maxRequestBodyMB : Int) (c : Context F) (isDisk : Bool) (offset : ℕ) (closed : Bool)
    (accepted : V), isJSON c.contentType = true →
    (unmarshalBodyReusable cache maxRequestBodyMB values parseFormData parseMultipartFormData target
      (held c body isDisk offset closed)).1 = .ok accepted →
    (unmarshalBodyReusable cache maxRequestBodyMB values parseFormData parseMultipartFormData target
      (held c body isDisk offset closed)).2 = { held c body isDisk 0 false with replayed := true }

variable {cache : DiskCache} {maxRequestBodyMB : Int} {c : Context F} {body : Body}

theorem snapshot_fields (decoder : Decoder F) (empty : F) (offset : ℕ) (closed : Bool) (json : isJSON c.contentType = true) :
    ((getRequestBodySnapshot cache maxRequestBodyMB decoder empty (held c body true offset closed)).1.toOption.map (·.fields) =
        if closed then none else (decoder.decode body.bytes).toOption.map Prod.fst) ∧
      (getRequestBodySnapshot cache maxRequestBodyMB decoder empty (held c body false offset closed)).1.toOption.map (·.fields) =
        if closed then none else (decoder.unmarshal body.bytes).toOption := by
  cases closed with
  | true =>
      rw [snapshot_closed decoder empty true offset json, snapshot_closed decoder empty false offset json]
      exact ⟨rfl, rfl⟩
  | false =>
      rw [snapshot_disk decoder empty offset json, snapshot_memory decoder empty offset json]
      constructor
      · cases decoder.decode body.bytes <;> rfl
      · cases decoder.unmarshal body.bytes <;> rfl

theorem snapshot_rewinds (decoder : Decoder F) (empty : F) (isDisk : Bool) (offset : ℕ) (closed : Bool) (json : isJSON c.contentType = true)
    {accepted : RequestBodySnapshot F}
    (answered : (getRequestBodySnapshot cache maxRequestBodyMB decoder empty (held c body isDisk offset closed)).1 = .ok accepted) :
    (getRequestBodySnapshot cache maxRequestBodyMB decoder empty (held c body isDisk offset closed)).2.keyBodyStorage =
      some (storageAt body isDisk 0 false) := by
  cases closed with
  | true =>
      rw [snapshot_closed decoder empty isDisk offset json] at answered
      cases answered
  | false =>
      cases isDisk with
      | true =>
          rw [snapshot_disk decoder empty offset json] at answered ⊢
          cases decoded : decoder.decode body.bytes with
          | error problem =>
              rw [decoded] at answered
              cases answered
          | ok pair => rfl
      | false =>
          rw [snapshot_memory decoder empty offset json] at answered ⊢
          cases decoded : decoder.unmarshal body.bytes with
          | error problem => rfl
          | ok fields => rfl

section values

variable (parseFormData : List UInt8 → Except String V) (parseMultipartFormData : String → List UInt8 → Except String V) (target : V)

theorem reused_value (decoder : Decoder V) (offset : ℕ) (closed : Bool) (json : isJSON c.contentType = true) :
    ((unmarshalBodyReusable cache maxRequestBodyMB decoder parseFormData parseMultipartFormData target
        (held c body true offset closed)).1.toOption =
        if closed then none else (decoder.decode body.bytes).toOption.map Prod.fst) ∧
      (unmarshalBodyReusable cache maxRequestBodyMB decoder parseFormData parseMultipartFormData target
        (held c body false offset closed)).1.toOption =
        if closed then none else (decoder.unmarshal body.bytes).toOption := by
  cases closed with
  | true =>
      simp only [reuse_closed]
      exact ⟨rfl, rfl⟩
  | false =>
      rw [reuse_disk parseFormData parseMultipartFormData target decoder offset json,
        reuse_memory parseFormData parseMultipartFormData target decoder offset json]
      constructor
      · cases decoder.decode body.bytes <;> rfl
      · cases decoder.unmarshal body.bytes <;> rfl

theorem reuse_rewinds (decoder : Decoder V) (isDisk : Bool) (offset : ℕ) (closed : Bool) (json : isJSON c.contentType = true) {accepted : V}
    (answered : (unmarshalBodyReusable cache maxRequestBodyMB decoder parseFormData parseMultipartFormData target
      (held c body isDisk offset closed)).1 = .ok accepted) :
    (unmarshalBodyReusable cache maxRequestBodyMB decoder parseFormData parseMultipartFormData target
      (held c body isDisk offset closed)).2 = { held c body isDisk 0 false with replayed := true } := by
  cases closed with
  | true =>
      rw [reuse_closed] at answered
      cases answered
  | false =>
      cases isDisk with
      | true =>
          rw [reuse_disk parseFormData parseMultipartFormData target decoder offset json] at answered ⊢
          cases decoded : decoder.decode body.bytes with
          | error problem =>
              rw [decoded] at answered
              cases answered
          | ok pair => rfl
      | false =>
          rw [reuse_memory parseFormData parseMultipartFormData target decoder offset json] at answered ⊢
          cases decoded : decoder.unmarshal body.bytes with
          | error problem =>
              rw [decoded] at answered
              cases answered
          | ok value => rfl

end values

theorem bodies_alike_iff {snapshots : Decoder F} {values : Decoder V} (wholeSnapshots : OneValue snapshots) (wholeValues : OneValue values)
    (empty : F) (parseFormData : List UInt8 → Except String V) (parseMultipartFormData : String → List UInt8 → Except String V)
    (target : V) (body : Body) :
    Alike snapshots empty values parseFormData parseMultipartFormData target body ↔
      Clean snapshots body.bytes ∧ Clean values body.bytes := by
  constructor
  · intro alike
    let c : Context F := { contentType := "application/json", contentLength := 0, requestBody := [] }
    let cache : DiskCache := { enabled := false, threshold := 0, available := fun _ => false }
    have json : isJSON "application/json" = true := by decide
    have fields := alike.snapshot cache 0 c 0 false json
    have taken := alike.value cache 0 c 0 false json
    rw [(snapshot_fields snapshots empty 0 false json).1, (snapshot_fields snapshots empty 0 false json).2] at fields
    rw [(reused_value parseFormData parseMultipartFormData target values 0 false json).1,
      (reused_value parseFormData parseMultipartFormData target values 0 false json).2] at taken
    exact ⟨(accepts_iff wholeSnapshots body.bytes).mp fields.symm, (accepts_iff wholeValues body.bytes).mp taken.symm⟩
  · intro clean
    have fields := (accepts_iff wholeSnapshots body.bytes).mpr clean.1
    have taken := (accepts_iff wholeValues body.bytes).mpr clean.2
    constructor
    · exact sessions_alike body
    · intro cache contentLength maxBytes limit
      exact too_large_iff cache body contentLength limit
    · intro cache maxRequestBodyMB c offset closed json
      rw [(snapshot_fields snapshots empty offset closed json).1, (snapshot_fields snapshots empty offset closed json).2, fields]
    · intro cache maxRequestBodyMB c isDisk offset closed accepted json answered
      exact snapshot_rewinds snapshots empty isDisk offset closed json answered
    · intro cache maxRequestBodyMB c offset closed json
      rw [(reused_value parseFormData parseMultipartFormData target values offset closed json).1,
        (reused_value parseFormData parseMultipartFormData target values offset closed json).2, taken]
    · intro cache maxRequestBodyMB c isDisk offset closed accepted json answered
      exact reuse_rewinds parseFormData parseMultipartFormData target values isDisk offset closed json answered

end alike

-- A decoder that knows the empty object only.
def emptyObjects : Decoder Unit where
  decode
    | 0x7B :: 0x7D :: rest => .ok ((), rest)
    | _ => .error "unexpected end of JSON input"
  unmarshal
    | 0x7B :: 0x7D :: rest => if BlankRest rest then .ok () else .error "invalid character after top-level value"
    | _ => .error "unexpected end of JSON input"
  buffered input := input.length

theorem empty_objects_whole : OneValue emptyObjects := by
  intro input value
  match input with
  | [] => simp [emptyObjects]
  | [_] => simp [emptyObjects]
  | first :: second :: rest =>
      by_cases object : first = 0x7B ∧ second = 0x7D
      · obtain ⟨rfl, rfl⟩ := object
        by_cases blank : BlankRest rest
        · simp [emptyObjects, blank]
        · simp [emptyObjects, blank]
      · have other : emptyObjects.decode (first :: second :: rest) = .error "unexpected end of JSON input" := by
          simp only [emptyObjects]
          split
          · simp_all
          · rfl
        have whole : emptyObjects.unmarshal (first :: second :: rest) = .error "unexpected end of JSON input" := by
          simp only [emptyObjects]
          split
          · simp_all
          · rfl
        rw [other, whole]
        simp

def objectBody (rest : List UInt8) (fits : (((0x7B :: 0x7D :: rest : List UInt8).length : ℕ) : Int) < 2 ^ 63 := by decide) : Body :=
  { bytes := 0x7B :: 0x7D :: rest, fits }

theorem bodies_alike_iff_blank :
    Alike emptyObjects () emptyObjects (fun _ => .ok ()) (fun _ _ => .ok ()) () (objectBody [0x0A]) ↔
      Clean emptyObjects [0x7B, 0x7D, 0x0A] ∧ Clean emptyObjects [0x7B, 0x7D, 0x0A] :=
  bodies_alike_iff empty_objects_whole empty_objects_whole () _ _ () (objectBody [0x0A])

-- An object with a letter after it is taken from a file and refused from memory.
theorem trailing_body_differs :
    (let cache : DiskCache := { enabled := true, threshold := 0, available := fun _ => true }
      let c : Context Unit := { contentType := "application/json", contentLength := 3, requestBody := [0x7B, 0x7D, 0x78] }
      (getRequestBodySnapshot cache 128 emptyObjects () (held c (objectBody [0x78]) true 0 false)).1 = .ok { fields := () } ∧
        (getRequestBodySnapshot cache 128 emptyObjects () (held c (objectBody [0x78]) false 0 false)).1 =
          .error (.decoding "invalid character after top-level value")) ∧
      ¬ Alike emptyObjects () emptyObjects (fun _ => .ok ()) (fun _ _ => .ok ()) () (objectBody [0x78]) := by
  constructor
  · intro cache c
    have json : isJSON c.contentType = true := by
      simp only [c]
      decide
    constructor
    · rw [snapshot_disk emptyObjects () 0 json]
      rfl
    · rw [snapshot_memory emptyObjects () 0 json]
      rfl
  · intro alike
    have fields := alike.snapshot { enabled := true, threshold := 0, available := fun _ => true } 128
      { contentType := "application/json", contentLength := 3, requestBody := [0x7B, 0x7D, 0x78] } 0 false (by decide)
    revert fields
    decide

end CodeGo.Platform.BodyStorage
