import Mathlib.Data.Option.Basic

set_option autoImplicit false

/- A check that reads events one at a time and stops at the first one it does not allow. -/
namespace Acceptor

variable {σ ε : Type} (check : σ → ε → Option σ)

def scan : List ε → σ → Option σ
  | [], state => some state
  | event :: rest, state => (check state event).bind (scan rest)

@[simp] theorem scan_nil (state : σ) : scan check [] state = some state := rfl

theorem scan_cons (event : ε) (rest : List ε) (state : σ) : scan check (event :: rest) state = (check state event).bind (scan check rest) := rfl

theorem scan_append (early late : List ε) (state : σ) : scan check (early ++ late) state = (scan check early state).bind (scan check late) := by
  induction early generalizing state with
  | nil => rfl
  | cons event rest ih =>
      rw [List.cons_append, scan_cons, scan_cons]
      cases read : check state event with
      | none => rfl
      | some next => exact ih next

theorem scan_append_some {early late : List ε} {state middle : σ} (read : scan check early state = some middle) :
    scan check (early ++ late) state = scan check late middle := by
  rw [scan_append, read]
  rfl

theorem scan_append_none {early late : List ε} {state : σ} (stuck : scan check early state = none) :
    scan check (early ++ late) state = none := by
  rw [scan_append, stuck]
  rfl

theorem scan_cons_some {event : ε} {rest : List ε} {state next : σ} (read : check state event = some next) :
    scan check (event :: rest) state = scan check rest next := by
  rw [scan_cons, read]
  rfl

theorem scan_cons_none {event : ε} {rest : List ε} {state : σ} (stuck : check state event = none) :
    scan check (event :: rest) state = none := by
  rw [scan_cons, stuck]
  rfl

end Acceptor
