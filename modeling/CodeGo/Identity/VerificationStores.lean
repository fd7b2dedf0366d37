import CodeGo.Identity.VerificationCodes

set_option autoImplicit false

/- Both stores hold the issues of one desk: the map until a validity ends, the Redis hash as long as the server keeps it. -/

namespace CodeGo.Identity.VerificationCodes

open SingleUse Text

-- The map's own clock: at the end of the validity the code is gone.
def exact (deadline now : Int) : Bool := decide (deadline ≤ now)

section desk

variable (packages : CodePackages)

-- A slot is a purpose with a key, whatever its case and the white space around it.
def slotOf (key purpose : String) : String × String := (purpose, normalized packages key)

def deskCall : CodeCall → Call (String × String) String
  | .registerVerificationCodeWithKey key code purpose =>
      if trimSpace key = "" ∨ code = "" then .idle else .register (slotOf packages key purpose) code
  | .verifyCodeWithKey key code purpose => if trimSpace key = "" then .idle else .verify (slotOf packages key purpose) code
  | .deleteVerificationKey key purpose => .delete (slotOf packages key purpose)

def answerOf (call : CodeCall) (accepted : Bool) : Answer :=
  match call with
  | .registerVerificationCodeWithKey key code _ =>
      .registered (if trimSpace key = "" ∨ code = "" then some "invalid verification code" else none)
  | .verifyCodeWithKey _ _ _ => .verified accepted
  | .deleteVerificationKey _ _ => .deleted

def placeOf (slot : String × String) : String := "new-api:verification:v2:" ++ packages.sha256 (slot.1 ++ nul ++ slot.2)

theorem storage_key (key purpose : String) : verificationStorageKey packages key purpose = placeOf packages (slotOf packages key purpose) := rfl

def stored (call : CodeCall) : Call String String := (deskCall packages call).renamed (placeOf packages) (verificationCodeHash packages)

def rawMemory (m : VerificationMap) (storageKey : String) : Option (Issue String) :=
  (m.lookup storageKey).map fun value => { code := value.code, deadline := value.time + ttl, wrong := value.attempts }

def rawRedis (db : RedisDB) (storageKey : String) : Option (Issue String) :=
  (db storageKey).map fun hash => { code := hash.code, deadline := hash.expireAt, wrong := hash.attempts }

end desk

/- The map -/

section memory

variable {packages : CodePackages} {now : Int} {m : VerificationMap}

theorem raw_insert (storageKey : String) (value : VerificationValue) :
    rawMemory (m.insert storageKey value) =
      Function.update (rawMemory m) storageKey (some { code := value.code, deadline := value.time + ttl, wrong := value.attempts }) := by
  funext other
  by_cases same : other = storageKey
  · subst same
    rw [rawMemory, AList.lookup_insert, Function.update_self, Option.map_some]
  · rw [rawMemory, AList.lookup_insert_ne same, Function.update_of_ne same, rawMemory]

theorem raw_erase (storageKey : String) : rawMemory (m.erase storageKey) = Function.update (rawMemory m) storageKey none := by
  funext other
  by_cases same : other = storageKey
  · subst same
    rw [rawMemory, AList.lookup_erase, Function.update_self, Option.map_none]
  · rw [rawMemory, AList.lookup_erase_ne same, Function.update_of_ne same, rawMemory]

theorem lookup_kept (storageKey : String) :
    (removeExpiredVerificationPairs now m).lookup storageKey =
      (m.lookup storageKey).filter fun value => !decide (ttl ≤ now - value.time) := by
  apply Option.ext
  intro value
  rw [← Option.mem_def, AList.mem_lookup_iff, Option.filter_eq_some_iff, ← Option.mem_def, AList.mem_lookup_iff]
  rw [removeExpiredVerificationPairs, List.mem_filter]

theorem exact_iff (time : Int) : exact (time + ttl) now = decide (ttl ≤ now - time) := by
  rw [exact]
  apply decide_eq_decide.mpr
  omega

theorem raw_kept : rawMemory (removeExpiredVerificationPairs now m) = live exact now (rawMemory m) := by
  funext storageKey
  rw [rawMemory, lookup_kept, live, rawMemory]
  cases m.lookup storageKey with
  | none => rfl
  | some value =>
      rw [Option.map_some, Option.filter_some, Option.filter_some, exact_iff]
      split
      · rfl
      · rfl

theorem live_twice {κ γ : Type} {expired : Int → Int → Bool} (slots : κ → Option (Issue γ)) :
    live expired now (live expired now slots) = live expired now slots := by
  funext slot
  simp [live]

-- No stored hash is that of the empty code.
def Coded (packages : CodePackages) (m : VerificationMap) : Prop :=
  ∀ storageKey value, m.lookup storageKey = some value → value.code ≠ verificationCodeHash packages ""

theorem coded_insert (coded : Coded packages m) {storageKey : String} {value : VerificationValue}
    (solid : value.code ≠ verificationCodeHash packages "") : Coded packages (m.insert storageKey value) := by
  intro other found held
  by_cases same : other = storageKey
  · subst same
    rw [AList.lookup_insert] at held
    exact Option.some.inj held ▸ solid
  · rw [AList.lookup_insert_ne same] at held
    exact coded other found held

theorem coded_erase (coded : Coded packages m) (storageKey : String) : Coded packages (m.erase storageKey) := by
  intro other found held
  by_cases same : other = storageKey
  · subst same
    rw [AList.lookup_erase] at held
    cases held
  · rw [AList.lookup_erase_ne same] at held
    exact coded other found held

theorem coded_kept (coded : Coded packages m) : Coded packages (removeExpiredVerificationPairs now m) := by
  intro other found held
  rw [lookup_kept] at held
  exact coded other found (Option.filter_eq_some_iff.mp held).1

theorem exact_fresh (now : Int) : exact (now + ttl) now = false := by
  have positive : 0 < ttl := by decide
  rw [exact, decide_eq_false_iff_not]
  omega

theorem memory_register (injective : Function.Injective packages.sha256) (coded : Coded packages m)
    (room : m.entries.length < verificationMapMaxSize) (key code purpose : String) :
    (memoryCall packages now m (.registerVerificationCodeWithKey key code purpose)).1 =
        answerOf (.registerVerificationCodeWithKey key code purpose) false ∧
      live exact now (rawMemory (memoryCall packages now m (.registerVerificationCodeWithKey key code purpose)).2) =
        (respond exact ttl verificationMaxAttempts now (live exact now (rawMemory m))
          (stored packages (.registerVerificationCodeWithKey key code purpose))).2 ∧
      Coded packages (memoryCall packages now m (.registerVerificationCodeWithKey key code purpose)).2 := by
  by_cases invalid : trimSpace key = "" ∨ code = ""
  · simp only [memoryCall, answerOf, stored, deskCall, if_pos invalid]
    exact ⟨trivial, rfl, coded⟩
  · have short : (removeExpiredVerificationPairs now m).entries.length ≤ m.entries.length := List.length_filter_le _ _
    have roomy : ¬ ((removeExpiredVerificationPairs now m).lookup (verificationStorageKey packages key purpose) = none ∧
        verificationMapMaxSize ≤ (removeExpiredVerificationPairs now m).entries.length) := by omega
    have solid : verificationCodeHash packages code ≠ verificationCodeHash packages "" := by
      intro same
      exact invalid (Or.inr (injective same))
    simp only [memoryCall, answerOf, stored, deskCall, if_neg invalid, if_neg roomy]
    refine ⟨trivial, ?_, coded_insert (coded_kept coded) solid⟩
    rw [raw_insert, live_update, raw_kept, live_twice, kept_some (exact_fresh now)]
    rfl

theorem memory_verify (coded : Coded packages m) (key code purpose : String) :
    (memoryCall packages now m (.verifyCodeWithKey key code purpose)).1 =
        answerOf (.verifyCodeWithKey key code purpose) (respond exact ttl verificationMaxAttempts now (live exact now (rawMemory m))
          (stored packages (.verifyCodeWithKey key code purpose))).1 ∧
      live exact now (rawMemory (memoryCall packages now m (.verifyCodeWithKey key code purpose)).2) =
        (respond exact ttl verificationMaxAttempts now (live exact now (rawMemory m))
          (stored packages (.verifyCodeWithKey key code purpose))).2 ∧
      Coded packages (memoryCall packages now m (.verifyCodeWithKey key code purpose)).2 := by
  by_cases blank : trimSpace key = ""
  · simp only [memoryCall, answerOf, stored, deskCall, if_pos blank]
    exact ⟨rfl, rfl, coded⟩
  · simp only [memoryCall, answerOf, stored, deskCall, if_neg blank, Call.renamed, respond, ← storage_key]
    cases held : m.lookup (verificationStorageKey packages key purpose) with
    | none =>
        have nothing : live exact now (rawMemory m) (verificationStorageKey packages key purpose) = none := by
          rw [live, rawMemory, held]
          rfl
        rw [nothing]
        refine ⟨rfl, ?_, coded⟩
        rw [guess, ← nothing, Function.update_eq_self]
    | some value =>
        have raw : rawMemory m (verificationStorageKey packages key purpose) =
            some { code := value.code, deadline := value.time + ttl, wrong := value.attempts } := by rw [rawMemory, held, Option.map_some]
        have nonempty := coded _ value held
        by_cases past : ttl ≤ now - value.time
        · have gone : exact (value.time + ttl) now = true := by rw [exact_iff, decide_eq_true past]
          have nothing : live exact now (rawMemory m) (verificationStorageKey packages key purpose) = none := by
            rw [live, raw, kept_none gone]
          simp only [if_pos past, nothing, guess]
          refine ⟨trivial, ?_, coded_erase coded _⟩
          rw [raw_erase, live_update]
          rfl
        · have alive : exact (value.time + ttl) now = false := by rw [exact_iff, decide_eq_false past]
          have there : live exact now (rawMemory m) (verificationStorageKey packages key purpose) =
              some { code := value.code, deadline := value.time + ttl, wrong := value.attempts } := by
            rw [live, raw, kept_some alive]
          simp only [if_neg past, there, guess, alive, Bool.false_eq_true, if_false]
          by_cases match' : verificationCodeHash packages code = value.code
          · have given : code ≠ "" := by
              rintro rfl
              exact nonempty match'.symm
            simp only [if_pos match', if_pos (And.intro given match')]
            refine ⟨trivial, ?_, coded_erase coded _⟩
            rw [raw_erase, live_update]
            rfl
          · have refused : ¬ (code ≠ "" ∧ verificationCodeHash packages code = value.code) := fun both => match' both.2
            simp only [if_neg match', if_neg refused]
            by_cases last : verificationMaxAttempts ≤ value.attempts + 1
            · simp only [if_pos last]
              refine ⟨trivial, ?_, coded_erase coded _⟩
              rw [raw_erase, live_update]
              rfl
            · simp only [if_neg last]
              refine ⟨trivial, ?_, coded_insert coded nonempty⟩
              rw [raw_insert, live_update, kept_some alive]

theorem memory_delete (coded : Coded packages m) (key purpose : String) :
    (memoryCall packages now m (.deleteVerificationKey key purpose)).1 = answerOf (.deleteVerificationKey key purpose) false ∧
      live exact now (rawMemory (memoryCall packages now m (.deleteVerificationKey key purpose)).2) =
        (respond exact ttl verificationMaxAttempts now (live exact now (rawMemory m))
          (stored packages (.deleteVerificationKey key purpose))).2 ∧
      Coded packages (memoryCall packages now m (.deleteVerificationKey key purpose)).2 := by
  refine ⟨rfl, ?_, coded_erase coded _⟩
  rw [memoryCall, raw_erase, live_update]
  rfl

theorem memory_respond (injective : Function.Injective packages.sha256) (coded : Coded packages m)
    (room : m.entries.length < verificationMapMaxSize) (call : CodeCall) :
    (memoryCall packages now m call).1 =
        answerOf call (respond exact ttl verificationMaxAttempts now (live exact now (rawMemory m)) (stored packages call)).1 ∧
      live exact now (rawMemory (memoryCall packages now m call).2) =
        (respond exact ttl verificationMaxAttempts now (live exact now (rawMemory m)) (stored packages call)).2 ∧
      Coded packages (memoryCall packages now m call).2 := by
  cases call with
  | registerVerificationCodeWithKey key code purpose => exact memory_register injective coded room key code purpose
  | verifyCodeWithKey key code purpose => exact memory_verify coded key code purpose
  | deleteVerificationKey key purpose => exact memory_delete coded key purpose

end memory

/- The Redis hash -/

section redis

variable {packages : CodePackages} {server : Server} {now : Int} {db : RedisDB}

theorem raw_redis_update (storageKey : String) (hash : Option RedisHash) :
    rawRedis (Function.update db storageKey hash) =
      Function.update (rawRedis db) storageKey
        (hash.map fun hash => { code := hash.code, deadline := hash.expireAt, wrong := hash.attempts }) := by
  funext other
  by_cases same : other = storageKey
  · subst same
    rw [rawRedis, Function.update_self, Function.update_self]
  · rw [rawRedis, Function.update_of_ne same, Function.update_of_ne same, rawRedis]

theorem live_redis (storageKey : String) :
    live server.expired now (rawRedis db) storageKey =
      (RedisDB.get server now db storageKey).map fun hash => { code := hash.code, deadline := hash.expireAt, wrong := hash.attempts } := by
  rw [live, rawRedis, RedisDB.get]
  cases db storageKey with
  | none => rfl
  | some hash =>
      rw [Option.map_some, Option.filter_some, Option.filter_some]
      split
      · rfl
      · rfl

theorem server_fresh (server : Server) (now : Int) : server.expired (now + ttl) now = false := by
  have positive : 0 < ttl := by decide
  exact server.lives _ _ (by omega)

-- The script is a guess at what the server still holds.
theorem consume_guess (storageKey hash : String) :
    ((consumeVerificationCode server now db storageKey hash).1 = 1 ↔
        (guess server.expired verificationMaxAttempts now hash (live server.expired now (rawRedis db) storageKey)).1 = true) ∧
      live server.expired now (rawRedis (consumeVerificationCode server now db storageKey hash).2) =
        Function.update (live server.expired now (rawRedis db)) storageKey
          (guess server.expired verificationMaxAttempts now hash (live server.expired now (rawRedis db) storageKey)).2 := by
  have shown := @live_redis server now db storageKey
  cases held : RedisDB.get server now db storageKey with
  | none =>
      rw [held, Option.map_none] at shown
      simp only [consumeVerificationCode, held]
      rw [shown, guess, ← shown, Function.update_eq_self]
      simp
  | some hash' =>
      rw [held, Option.map_some] at shown
      have alive : server.expired hash'.expireAt now = false := by
        have kept := (Option.filter_eq_some_iff.mp held).2
        simpa using kept
      simp only [consumeVerificationCode, held, shown, guess, alive, Bool.false_eq_true, if_false]
      by_cases same : hash'.code = hash
      · simp only [if_pos same, if_pos same.symm]
        refine ⟨by simp, ?_⟩
        rw [raw_redis_update, live_update]
        rfl
      · simp only [if_neg same, if_neg (Ne.symm same)]
        by_cases last : verificationMaxAttempts ≤ hash'.attempts + 1
        · simp only [if_pos last]
          refine ⟨by simp, ?_⟩
          rw [raw_redis_update, live_update]
          rfl
        · simp only [if_neg last]
          refine ⟨by simp, ?_⟩
          rw [raw_redis_update, live_update, Option.map_some, kept_some alive]

theorem redis_respond (call : CodeCall) :
    (redisCall packages server now db call).1 =
        answerOf call (respond server.expired ttl verificationMaxAttempts now (live server.expired now (rawRedis db)) (stored packages call)).1 ∧
      live server.expired now (rawRedis (redisCall packages server now db call).2) =
        (respond server.expired ttl verificationMaxAttempts now (live server.expired now (rawRedis db)) (stored packages call)).2 := by
  cases call with
  | registerVerificationCodeWithKey key code purpose =>
      by_cases invalid : trimSpace key = "" ∨ code = ""
      · simp only [redisCall, answerOf, stored, deskCall, if_pos invalid]
        exact ⟨trivial, rfl⟩
      · simp only [redisCall, answerOf, stored, deskCall, if_neg invalid]
        refine ⟨trivial, ?_⟩
        rw [raw_redis_update, live_update, Option.map_some, kept_some (server_fresh server now)]
        rfl
  | verifyCodeWithKey key code purpose =>
      by_cases blank : trimSpace key = ""
      · simp only [redisCall, answerOf, stored, deskCall, if_pos blank]
        exact ⟨rfl, rfl⟩
      · obtain ⟨accepted, left⟩ := @consume_guess server now db (verificationStorageKey packages key purpose) (verificationCodeHash packages code)
        simp only [redisCall, answerOf, stored, deskCall, if_neg blank]
        refine ⟨?_, left⟩
        simp only [Call.renamed, respond, ← storage_key, Answer.verified.injEq]
        rw [Bool.eq_iff_iff, decide_eq_true_iff, accepted]
  | deleteVerificationKey key purpose =>
      refine ⟨rfl, ?_⟩
      rw [redisCall, raw_redis_update, live_update]
      rfl

end redis

end CodeGo.Identity.VerificationCodes
