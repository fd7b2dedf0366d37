import CodeGo.Lib.Lockstep
import Mathlib.Data.List.Count
import Mathlib.Data.Nat.Notation
import Mathlib.Logic.Function.Basic

set_option autoImplicit false

/- Codes that are given out for a slot, good for one use, for a while and for so many wrong guesses. -/

namespace SingleUse

structure Issue (γ : Type) where
  code : γ
  deadline : Int
  wrong : ℕ := 0

inductive Call (κ γ : Type) where
  | register (slot : κ) (code : γ)
  | verify (slot : κ) (code : γ)
  | delete (slot : κ)
  | idle

structure Event (κ γ : Type) where
  now : Int
  call : Call κ γ
  accepted : Bool

structure Desk (κ γ : Type) where
  now : Int
  slots : κ → Option (Issue γ) := fun _ => none

section policy

variable {κ γ : Type} [DecidableEq κ] [DecidableEq γ] (expired : Int → Int → Bool) (validity : Int) (limit : ℕ)

-- A guess at an issue: whether it is taken, and what is left of the issue.
def guess (now : Int) (code : γ) : Option (Issue γ) → Bool × Option (Issue γ)
  | none => (false, none)
  | some issue =>
      if expired issue.deadline now then (false, none)
      else if code = issue.code then (true, none)
      else (false, if limit ≤ issue.wrong + 1 then none else some { issue with wrong := issue.wrong + 1 })

def respond (now : Int) (slots : κ → Option (Issue γ)) : Call κ γ → Bool × (κ → Option (Issue γ))
  | .register slot code => (false, Function.update slots slot (some { code, deadline := now + validity }))
  | .verify slot code => ((guess expired limit now code (slots slot)).1, Function.update slots slot (guess expired limit now code (slots slot)).2)
  | .delete slot => (false, Function.update slots slot none)
  | .idle => (false, slots)

-- A call some time after the one before it.
def step (desk : Desk κ γ) (action : ℕ × Call κ γ) : Event κ γ × Desk κ γ :=
  let now := desk.now + action.1
  let (accepted, slots) := respond expired validity limit now desk.slots action.2
  ({ now, call := action.2, accepted }, { now, slots })

end policy

/- What a history says of a slot -/

section history

variable {κ γ : Type} [DecidableEq κ] [DecidableEq γ]

-- A call that leaves no earlier issue of the slot.
def ends (slot : κ) (event : Event κ γ) : Bool :=
  match event.call with
  | .register other _ => decide (other = slot)
  | .verify other _ => decide (other = slot) && event.accepted
  | .delete other => decide (other = slot)
  | .idle => false

def wrongGuess (slot : κ) (code : γ) (event : Event κ γ) : Bool :=
  match event.call with
  | .verify other guessed => decide (other = slot) && decide (guessed ≠ code)
  | _ => false

-- A code given out at some time, not replaced, deleted or used since, with guesses left.
def Outstanding (limit : ℕ) (past : List (Event κ γ)) (slot : κ) (code : γ) (since : Int) : Prop :=
  ∃ earlier later, past = earlier ++ { now := since, call := .register slot code, accepted := false } :: later ∧
    (∀ event ∈ later, ends slot event = false) ∧ later.countP (wrongGuess slot code) < limit

def Tracked (validity : Int) (limit : ℕ) (past : List (Event κ γ)) (slots : κ → Option (Issue γ)) : Prop :=
  ∀ slot issue, slots slot = some issue → ∃ since earlier later,
    past = earlier ++ { now := since, call := .register slot issue.code, accepted := false } :: later ∧
      (∀ event ∈ later, ends slot event = false) ∧ later.countP (wrongGuess slot issue.code) = issue.wrong ∧
      issue.deadline = since + validity ∧ issue.wrong < limit

variable {expired : Int → Int → Bool} {validity : Int} {limit : ℕ} {past : List (Event κ γ)} {slots : κ → Option (Issue γ)}

theorem Tracked.outstanding (tracked : Tracked validity limit past slots) {slot : κ} {issue : Issue γ} (held : slots slot = some issue) :
    ∃ since, Outstanding limit past slot issue.code since ∧ issue.deadline = since + validity := by
  obtain ⟨since, earlier, later, split, open', count, deadline, few⟩ := tracked slot issue held
  exact ⟨since, ⟨earlier, later, split, open', count ▸ few⟩, deadline⟩

-- An event that neither ends an issue nor guesses at it.
theorem Tracked.skip (tracked : Tracked validity limit past slots) {event : Event κ γ} {slot : κ} {issue : Issue γ}
    (held : slots slot = some issue) (open' : ends slot event = false) (noGuess : wrongGuess slot issue.code event = false) :
    ∃ since earlier later,
      past ++ [event] = earlier ++ { now := since, call := .register slot issue.code, accepted := false } :: later ∧
        (∀ event ∈ later, ends slot event = false) ∧ later.countP (wrongGuess slot issue.code) = issue.wrong ∧
        issue.deadline = since + validity ∧ issue.wrong < limit := by
  obtain ⟨since, earlier, later, split, still, count, deadline, few⟩ := tracked slot issue held
  refine ⟨since, earlier, later ++ [event], by rw [split]; simp, ?_, ?_, deadline, few⟩
  · intro other within
    rcases List.mem_append.mp within with old | new
    · exact still other old
    · rw [List.mem_singleton.mp new]
      exact open'
  · rw [List.countP_append, count, List.countP_singleton, noGuess]
    rfl

theorem guess_left {now : Int} {code : γ} {held : Option (Issue γ)} {left : Issue γ} (kept : (guess expired limit now code held).2 = some left) :
    ∃ issue, held = some issue ∧ code ≠ issue.code ∧ left = { issue with wrong := issue.wrong + 1 } ∧ issue.wrong + 1 < limit ∧
      (guess expired limit now code held).1 = false := by
  cases held with
  | none => cases kept
  | some issue =>
      rw [guess] at kept ⊢
      split at kept
      · cases kept
      · rename_i live
        rw [if_neg live]
        split at kept
        · cases kept
        · rename_i different
          rw [if_neg different]
          simp only at kept
          split at kept
          · cases kept
          · rename_i few
            exact ⟨issue, rfl, different, (Option.some.inj kept).symm, by omega, rfl⟩

theorem guess_accepted {now : Int} {code : γ} {held : Option (Issue γ)} (accepted : (guess expired limit now code held).1 = true) :
    ∃ issue, held = some issue ∧ code = issue.code ∧ expired issue.deadline now = false := by
  cases held with
  | none => cases accepted
  | some issue =>
      rw [guess] at accepted
      split at accepted
      · cases accepted
      · rename_i live
        split at accepted
        · rename_i same
          exact ⟨issue, rfl, same, by simpa using live⟩
        · cases accepted

theorem tracked_step (some_guesses : 0 < limit) {desk : Desk κ γ} (tracked : Tracked validity limit past desk.slots) (action : ℕ × Call κ γ) :
    Tracked validity limit (past ++ [(step expired validity limit desk action).1]) (step expired validity limit desk action).2.slots := by
  obtain ⟨wait, call⟩ := action
  intro slot issue held
  cases call with
  | register other code =>
      simp only [step, respond] at held ⊢
      by_cases same : slot = other
      · subst same
        rw [Function.update_self] at held
        obtain rfl := Option.some.inj held
        exact ⟨desk.now + wait, past, [], rfl, by simp, rfl, rfl, some_guesses⟩
      · rw [Function.update_of_ne same] at held
        exact tracked.skip held (by simp [ends, Ne.symm same]) rfl
  | verify other code =>
      simp only [step, respond] at held ⊢
      by_cases same : slot = other
      · subst same
        rw [Function.update_self] at held
        obtain ⟨before, was, different, rfl, few, refused⟩ := guess_left held
        obtain ⟨since, earlier, later, split, still, count, deadline, _⟩ := tracked slot before was
        refine ⟨since, earlier, later ++ [(step expired validity limit desk (wait, .verify slot code)).1], ?_, ?_, ?_, deadline, few⟩
        · rw [split, List.append_assoc]
          rfl
        · intro event within
          rcases List.mem_append.mp within with old | new
          · exact still event old
          · rw [List.mem_singleton.mp new]
            simp [step, respond, ends, refused]
        · rw [List.countP_append, count, List.countP_singleton]
          simp [step, respond, wrongGuess, different]
      · rw [Function.update_of_ne same] at held
        exact tracked.skip held (by simp [ends, Ne.symm same]) (by simp [wrongGuess, Ne.symm same])
  | delete other =>
      simp only [step, respond] at held ⊢
      by_cases same : slot = other
      · subst same
        rw [Function.update_self] at held
        cases held
      · rw [Function.update_of_ne same] at held
        exact tracked.skip held (by simp [ends, Ne.symm same]) rfl
  | idle => exact tracked.skip held rfl rfl

theorem accepted_step {desk : Desk κ γ} (tracked : Tracked validity limit past desk.slots) {action : ℕ × Call κ γ}
    (accepted : (step expired validity limit desk action).1.accepted = true) :
    ∃ slot code since, action.2 = .verify slot code ∧ Outstanding limit past slot code since ∧
      expired (since + validity) (step expired validity limit desk action).1.now = false := by
  obtain ⟨wait, call⟩ := action
  cases call with
  | register slot code => cases accepted
  | delete slot => cases accepted
  | idle => cases accepted
  | verify slot code =>
      obtain ⟨issue, held, rfl, live⟩ := guess_accepted accepted
      obtain ⟨since, outstanding, deadline⟩ := tracked.outstanding held
      exact ⟨slot, issue.code, since, rfl, outstanding, deadline ▸ live⟩

-- Every acceptance has its registration before it.
theorem accepted_outstanding (some_guesses : 0 < limit) (actions : List (ℕ × Call κ γ)) :
    ∀ {past : List (Event κ γ)} {desk : Desk κ γ}, Tracked validity limit past desk.slots →
      ∀ before event after, Lockstep.answers (step expired validity limit) desk actions = before ++ event :: after → event.accepted = true →
        ∃ slot code since, event.call = .verify slot code ∧ Outstanding limit (past ++ before) slot code since ∧
          expired (since + validity) event.now = false := by
  induction actions with
  | nil =>
      intro past desk _ before event after split
      cases before <;> cases split
  | cons action rest ih =>
      intro past desk tracked before event after split accepted
      cases before with
      | nil =>
          obtain ⟨rfl, _⟩ := List.cons.inj split
          rw [List.append_nil]
          exact accepted_step tracked accepted
      | cons first others =>
          obtain ⟨rfl, later⟩ := List.cons.inj split
          have found := ih (tracked_step some_guesses tracked action) others event after later accepted
          rwa [List.append_assoc] at found

-- No code is tried at the very end of its validity.
def Apart (validity : Int) (limit : ℕ) (past events : List (Event κ γ)) : Prop :=
  ∀ before event after slot guessed code since, events = before ++ event :: after → event.call = .verify slot guessed →
    Outstanding limit (past ++ before) slot code since → since + validity ≠ event.now

theorem Apart.tail {event : Event κ γ} {events : List (Event κ γ)} (apart : Apart validity limit past (event :: events)) :
    Apart validity limit (past ++ [event]) events := by
  intro before later after slot guessed code since split verified outstanding
  rw [List.append_assoc] at outstanding
  exact apart (event :: before) later after slot guessed code since (by rw [split]; rfl) verified outstanding

-- Two clocks that differ at the end of a validity only.
theorem answers_agree (some_guesses : 0 < limit) {other : Int → Int → Bool}
    (same : ∀ deadline now, deadline ≠ now → expired deadline now = other deadline now) (actions : List (ℕ × Call κ γ)) :
    ∀ {past : List (Event κ γ)} {desk : Desk κ γ}, Tracked validity limit past desk.slots →
      Apart validity limit past (Lockstep.answers (step expired validity limit) desk actions) →
      Lockstep.answers (step expired validity limit) desk actions = Lockstep.answers (step other validity limit) desk actions := by
  induction actions with
  | nil =>
      intro past desk _ _
      rfl
  | cons action rest ih =>
      intro past desk tracked apart
      have first : step expired validity limit desk action = step other validity limit desk action := by
        obtain ⟨wait, call⟩ := action
        cases call with
        | register slot code => rfl
        | delete slot => rfl
        | idle => rfl
        | verify slot code =>
            have guesses : guess expired limit (desk.now + wait) code (desk.slots slot) = guess other limit (desk.now + wait) code (desk.slots slot) := by
              cases held : desk.slots slot with
              | none => rfl
              | some issue =>
                  obtain ⟨since, outstanding, deadline⟩ := tracked.outstanding held
                  rw [← List.append_nil past] at outstanding
                  have off := apart [] _ _ slot code issue.code since rfl rfl outstanding
                  rw [guess, guess, same issue.deadline (desk.now + wait) (deadline ▸ off)]
            simp only [step, respond, guesses]
      have next := ih (tracked_step some_guesses tracked action) apart.tail
      rw [Lockstep.answers, Lockstep.answers, next, first]

end history

/- Issues past their time may be kept or not. -/

section live

variable {κ γ : Type} {expired : Int → Int → Bool} {now later : Int}

def live (expired : Int → Int → Bool) (now : Int) (slots : κ → Option (Issue γ)) (slot : κ) : Option (Issue γ) :=
  (slots slot).filter fun issue => !expired issue.deadline now

def Lasting (expired : Int → Int → Bool) : Prop := ∀ deadline now later, expired deadline now = true → now ≤ later → expired deadline later = true

theorem live_later (lasting : Lasting expired) (le : now ≤ later) (slots : κ → Option (Issue γ)) :
    live expired later (live expired now slots) = live expired later slots := by
  funext slot
  rw [live, live, live, Option.filter_filter]
  congr 1
  funext issue
  cases past : expired issue.deadline now with
  | true => simp [lasting issue.deadline now later past le]
  | false => simp

theorem kept_some {issue : Issue γ} (alive : expired issue.deadline now = false) :
    ((some issue).filter fun issue => !expired issue.deadline now) = some issue := by
  rw [Option.filter_some, alive]
  rfl

theorem kept_none {issue : Issue γ} (past : expired issue.deadline now = true) :
    ((some issue).filter fun issue => !expired issue.deadline now) = none := by
  rw [Option.filter_some, past]
  rfl

theorem live_update [DecidableEq κ] (slots : κ → Option (Issue γ)) (slot : κ) (issue : Option (Issue γ)) :
    live expired now (Function.update slots slot issue) =
      Function.update (live expired now slots) slot (issue.filter fun issue => !expired issue.deadline now) := by
  funext other
  by_cases same : other = slot
  · subst same
    rw [live, Function.update_self, Function.update_self]
  · rw [live, Function.update_of_ne same, Function.update_of_ne same, live]

variable [DecidableEq κ] [DecidableEq γ]

-- Whether what is past its time is still there makes no difference.
theorem guess_live (limit : ℕ) (code : γ) (held : Option (Issue γ)) :
    (guess expired limit now code held).1 = (guess expired limit now code (held.filter fun issue => !expired issue.deadline now)).1 ∧
      (guess expired limit now code held).2 = (guess expired limit now code (held.filter fun issue => !expired issue.deadline now)).2 ∧
      ((guess expired limit now code held).2.filter fun issue => !expired issue.deadline now) = (guess expired limit now code held).2 := by
  cases held with
  | none => exact ⟨rfl, rfl, rfl⟩
  | some issue =>
      cases past : expired issue.deadline now with
      | true =>
          have gone : guess expired limit now code (some issue) = (false, none) := by rw [guess, if_pos past]
          rw [kept_none past, gone]
          exact ⟨rfl, rfl, rfl⟩
      | false =>
          have alive : ¬ expired issue.deadline now = true := by simp [past]
          refine ⟨by rw [kept_some past], by rw [kept_some past], ?_⟩
          rw [guess, if_neg alive]
          split
          · rfl
          · simp only
            split
            · rfl
            · exact kept_some past

theorem respond_live {validity : Int} (fresh : expired (now + validity) now = false) (limit : ℕ) (slots : κ → Option (Issue γ))
    (call : Call κ γ) :
    (respond expired validity limit now slots call).1 = (respond expired validity limit now (live expired now slots) call).1 ∧
      live expired now (respond expired validity limit now slots call).2 =
        (respond expired validity limit now (live expired now slots) call).2 := by
  cases call with
  | register slot code =>
      refine ⟨rfl, ?_⟩
      rw [respond, respond, live_update, kept_some fresh]
  | verify slot code =>
      obtain ⟨answer, left, kept⟩ := @guess_live _ expired now _ limit code (slots slot)
      refine ⟨answer, ?_⟩
      rw [respond, respond, live_update, kept, left]
      rfl
  | delete slot =>
      refine ⟨rfl, ?_⟩
      simp [respond, live_update]
  | idle => exact ⟨rfl, rfl⟩

end live

/- The same desk under other names for its slots and codes -/

section renamed

variable {κ κ' γ γ' : Type} [DecidableEq κ] [DecidableEq κ'] [DecidableEq γ] [DecidableEq γ'] (place : κ → κ') (mark : γ → γ')

def Issue.renamed (issue : Issue γ) : Issue γ' := { code := mark issue.code, deadline := issue.deadline, wrong := issue.wrong }

def Call.renamed : Call κ γ → Call κ' γ'
  | .register slot code => .register (place slot) (mark code)
  | .verify slot code => .verify (place slot) (mark code)
  | .delete slot => .delete (place slot)
  | .idle => .idle

def Call.slot : Call κ γ → Option κ
  | .register slot _ => some slot
  | .verify slot _ => some slot
  | .delete slot => some slot
  | .idle => none

def Renamed (known : κ → Prop) (slots : κ → Option (Issue γ)) (others : κ' → Option (Issue γ')) : Prop :=
  ∀ slot, known slot → others (place slot) = (slots slot).map (Issue.renamed mark)

variable {place mark} {expired : Int → Int → Bool} {now validity : Int} {limit : ℕ} {known : κ → Prop}
  {slots : κ → Option (Issue γ)} {others : κ' → Option (Issue γ')}

theorem guess_renamed (injective : Function.Injective mark) (code : γ) (held : Option (Issue γ)) :
    (guess expired limit now (mark code) (held.map (Issue.renamed mark))).1 = (guess expired limit now code held).1 ∧
      (guess expired limit now (mark code) (held.map (Issue.renamed mark))).2 =
        (guess expired limit now code held).2.map (Issue.renamed mark) := by
  cases held with
  | none => exact ⟨rfl, rfl⟩
  | some issue =>
      have same : mark code = mark issue.code ↔ code = issue.code := injective.eq_iff
      simp only [Option.map_some, guess, Issue.renamed, same]
      split
      · exact ⟨rfl, rfl⟩
      · split
        · exact ⟨rfl, rfl⟩
        · split
          · exact ⟨rfl, rfl⟩
          · exact ⟨rfl, rfl⟩

omit [DecidableEq γ] [DecidableEq γ'] in
theorem update_renamed (apart : ∀ first second, known first → known second → place first = place second → first = second)
    (related : Renamed place mark known slots others) {slot : κ} (isKnown : known slot) {issue : Option (Issue γ)} {other : Option (Issue γ')}
    (same : other = issue.map (Issue.renamed mark)) :
    Renamed place mark known (Function.update slots slot issue) (Function.update others (place slot) other) := by
  intro wanted wantedKnown
  by_cases here : wanted = slot
  · rw [here, Function.update_self, Function.update_self, same]
  · have away : place wanted ≠ place slot := fun equal => here (apart wanted slot wantedKnown isKnown equal)
    rw [Function.update_of_ne here, Function.update_of_ne away]
    exact related wanted wantedKnown

theorem respond_renamed (injective : Function.Injective mark)
    (apart : ∀ first second, known first → known second → place first = place second → first = second)
    (related : Renamed place mark known slots others) (call : Call κ γ) (isKnown : ∀ slot, call.slot = some slot → known slot) :
    (respond expired validity limit now others (call.renamed place mark)).1 = (respond expired validity limit now slots call).1 ∧
      Renamed place mark known (respond expired validity limit now slots call).2
        (respond expired validity limit now others (call.renamed place mark)).2 := by
  cases call with
  | register slot code => exact ⟨rfl, update_renamed apart related (isKnown slot rfl) rfl⟩
  | verify slot code =>
      have held := related slot (isKnown slot rfl)
      obtain ⟨answer, left⟩ := @guess_renamed _ _ _ _ mark expired now limit injective code (slots slot)
      rw [Call.renamed, respond, respond, held]
      exact ⟨answer, update_renamed apart related (isKnown slot rfl) left⟩
  | delete slot => exact ⟨rfl, update_renamed apart related (isKnown slot rfl) rfl⟩
  | idle => exact ⟨rfl, related⟩

omit [DecidableEq κ] [DecidableEq κ'] [DecidableEq γ] [DecidableEq γ'] in
theorem Renamed.live (related : Renamed place mark known slots others) (now : Int) :
    Renamed place mark known (live expired now slots) (live expired now others) := by
  intro slot isKnown
  rw [SingleUse.live, SingleUse.live, related slot isKnown]
  cases slots slot with
  | none => rfl
  | some issue =>
      cases past : expired issue.deadline now with
      | true =>
          have renamedPast : expired (issue.renamed mark).deadline now = true := past
          rw [Option.map_some, kept_none past, kept_none renamedPast]
          rfl
      | false =>
          have renamedAlive : expired (issue.renamed mark).deadline now = false := past
          rw [Option.map_some, kept_some past, kept_some renamedAlive]
          rfl

-- A store that answers as the desk does on what is alive follows the desk.
theorem follow_step (lasting : Lasting expired) (fresh : ∀ now, expired (now + validity) now = false) (injective : Function.Injective mark)
    (apart : ∀ first second, known first → known second → place first = place second → first = second)
    {later : Int} (le : now ≤ later) (follows : Renamed place mark known (live expired now slots) (live expired now others))
    (call : Call κ γ) (isKnown : ∀ slot, call.slot = some slot → known slot) {next : κ' → Option (Issue γ')}
    (left : live expired later next = (respond expired validity limit later (live expired later others) (call.renamed place mark)).2) :
    (respond expired validity limit later (live expired later others) (call.renamed place mark)).1 =
        (respond expired validity limit later slots call).1 ∧
      Renamed place mark known (live expired later (respond expired validity limit later slots call).2) (live expired later next) := by
  have still := @Renamed.live _ _ _ _ place mark expired known _ _ follows later
  rw [live_later lasting le, live_later lasting le] at still
  obtain ⟨answer, renamed⟩ := @respond_renamed _ _ _ _ _ _ _ _ place mark expired later validity limit known _ _ injective apart still call
    isKnown
  obtain ⟨same, kept⟩ := respond_live (fresh later) limit slots call
  rw [left, kept]
  exact ⟨answer.trans same.symm, renamed⟩

end renamed

end SingleUse
