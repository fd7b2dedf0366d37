import CodeGo.Lib.SingleUse
import CodeGo.Lib.Text
import CodeGo.Lib.Trace
import Mathlib.Data.List.AList
import Mathlib.Algebra.Group.Int.Defs

set_option autoImplicit false

/- Verification codes in a map of the process and in a Redis hash. Times are nanoseconds. -/

namespace CodeGo.Identity.VerificationCodes

open SingleUse Text

structure CodePackages where
  lower : Char → Char
  sha256 : String → String

-- What EXPIRE promises: a key is there before its time and gone after it.
structure Server where
  expired : (deadline now : Int) → Bool
  lives : ∀ deadline now, now < deadline → expired deadline now = false
  goes : ∀ deadline now, deadline < now → expired deadline now = true

inductive CodeCall where
  | registerVerificationCodeWithKey (key code purpose : String)
  | verifyCodeWithKey (key code purpose : String)
  | deleteVerificationKey (key purpose : String)
deriving DecidableEq, Repr

inductive Answer where
  | registered (problem : Option String)
  | verified (accepted : Bool)
  | deleted
deriving DecidableEq, Repr

structure VerificationValue where
  code : String
  time : Int
  attempts : ℕ := 0

structure RedisHash where
  code : String
  attempts : ℕ
  expireAt : Int

abbrev VerificationMap := AList fun _ : String => VerificationValue

abbrev RedisDB := String → Option RedisHash

def verificationMaxAttempts : ℕ := 5

def verificationMapMaxSize : ℕ := 10000

def verificationValidMinutes : Int := 10

def minute : Int := 60 * 10 ^ 9

def ttl : Int := verificationValidMinutes * minute

section model

variable (packages : CodePackages)

def normalized (key : String) : String := String.ofList ((trimSpace key).toList.map packages.lower)

def nul : String := String.ofList [Char.ofNat 0]

def verificationStorageKey (key purpose : String) : String :=
  "new-api:verification:v2:" ++ packages.sha256 (purpose ++ nul ++ normalized packages key)

def verificationCodeHash (code : String) : String := packages.sha256 code

-- Entries past their validity are dropped.
def removeExpiredVerificationPairs (now : Int) (m : VerificationMap) : VerificationMap :=
  ⟨m.entries.filter fun entry => !decide (ttl ≤ now - entry.2.time), m.nodupKeys.sublist List.filter_sublist⟩

def memoryCall (now : Int) (m : VerificationMap) : CodeCall → Answer × VerificationMap
  | .registerVerificationCodeWithKey key code purpose =>
      if trimSpace key = "" ∨ code = "" then (.registered (some "invalid verification code"), m)
      else
        let storageKey := verificationStorageKey packages key purpose
        let m := removeExpiredVerificationPairs now m
        if m.lookup storageKey = none ∧ verificationMapMaxSize ≤ m.entries.length then
          (.registered (some "verification store unavailable"), m)
        else (.registered none, m.insert storageKey { code := verificationCodeHash packages code, time := now })
  | .verifyCodeWithKey key code purpose =>
      if trimSpace key = "" then (.verified false, m)
      else
        let storageKey := verificationStorageKey packages key purpose
        match m.lookup storageKey with
        | none => (.verified false, m)
        | some value =>
            if ttl ≤ now - value.time then (.verified false, m.erase storageKey)
            else if code ≠ "" ∧ verificationCodeHash packages code = value.code then (.verified true, m.erase storageKey)
            else if verificationMaxAttempts ≤ value.attempts + 1 then (.verified false, m.erase storageKey)
            else (.verified false, m.insert storageKey { value with attempts := value.attempts + 1 })
  | .deleteVerificationKey key purpose => (.deleted, m.erase (verificationStorageKey packages key purpose))

def RedisDB.get (server : Server) (now : Int) (db : RedisDB) (key : String) : Option RedisHash :=
  (db key).filter fun hash => !server.expired hash.expireAt now

-- HGET, HINCRBY and DEL of the script, one after the other.
def consumeVerificationCode (server : Server) (now : Int) (db : RedisDB) (key hash : String) : ℕ × RedisDB :=
  match RedisDB.get server now db key with
  | none => (0, db)
  | some stored =>
      if stored.code = hash then (1, Function.update db key none)
      else
        let attempts := stored.attempts + 1
        if verificationMaxAttempts ≤ attempts then (0, Function.update db key none)
        else (0, Function.update db key (some { stored with attempts }))

def redisCall (server : Server) (now : Int) (db : RedisDB) : CodeCall → Answer × RedisDB
  | .registerVerificationCodeWithKey key code purpose =>
      if trimSpace key = "" ∨ code = "" then (.registered (some "invalid verification code"), db)
      else
        let hash := { code := verificationCodeHash packages code, attempts := 0, expireAt := now + ttl }
        (.registered none, Function.update db (verificationStorageKey packages key purpose) (some hash))
  | .verifyCodeWithKey key code purpose =>
      if trimSpace key = "" then (.verified false, db)
      else
        let (result, db) := consumeVerificationCode server now db (verificationStorageKey packages key purpose) (verificationCodeHash packages code)
        (.verified (result = 1), db)
  | .deleteVerificationKey key purpose => (.deleted, Function.update db (verificationStorageKey packages key purpose) none)

end model

/- Calls one after another, each some time after the one before it -/

structure CodeEvent where
  now : Int
  call : CodeCall
  answer : Answer
deriving DecidableEq, Repr

structure Clocked (σ : Type) where
  now : Int
  store : σ

def clocked {σ : Type} (respond : Int → σ → CodeCall → Answer × σ) (state : Clocked σ) (action : ℕ × CodeCall) : CodeEvent × Clocked σ :=
  let now := state.now + action.1
  let (answer, store) := respond now state.store action.2
  ({ now, call := action.2, answer }, { now, store })

def memoryEvents (packages : CodePackages) (start : Int) (calls : List (ℕ × CodeCall)) : List CodeEvent :=
  Lockstep.answers (clocked (memoryCall packages)) { now := start, store := ∅ } calls

def redisEvents (packages : CodePackages) (server : Server) (start : Int) (calls : List (ℕ × CodeCall)) : List CodeEvent :=
  Lockstep.answers (clocked (redisCall packages server)) { now := start, store := fun _ => none } calls

end CodeGo.Identity.VerificationCodes
