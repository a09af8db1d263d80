import PvDisplayHelper.Dispatch.Receipt

/-!
# PV display helper — fatal-error handlers

Four objects report unrecoverable errors to a registered handler: a `pv_display`, a
`pv_display_provider`, a `pv_display_consumer` and a `pv_display_backend`. Only the backend
latches: `__trigger_fatal_error_on_display_backend` clears the handler before calling it. A
`pv_display`'s disconnect callbacks share a static `handler_in_progress` flag, which keeps a
disconnect from re-entering while another is being handled. The provider and the consumer call
their handler on every fault.

* `FatalObject.run_calls` — over any run of fault events, the backend calls its handler at most
  once, and each of the others calls it once for every fault that reaches it.
-/

namespace PvDisplayHelper

/-! ## Model -/

/-- The objects with a fatal-error handler. -/
inductive FatalObject where
  | display
  | provider
  | consumer
  | backend
  deriving DecidableEq, Repr

/-- A fault event. -/
inductive Fault where
  /-- A disconnect callback on one of the object's channels. -/
  | disconnect
  /-- A CRC mismatch on the object's framed channel. -/
  | crcMismatch
  /-- A failed `libivc_getAvailableData` or `libivc_getAvailableSpace`. -/
  | queryFailure
  deriving DecidableEq, Repr

/-- An object's fatal-error handler, the `handler_in_progress` flag of the display code, and
the handler calls made. -/
structure FatalState where
  handler : Option HandlerId
  inProgress : Bool
  calls : List HandlerId
  deriving DecidableEq, Repr

/-- The body of `__trigger_fatal_error_on_display`, `__trigger_fatal_error_on_provider` and
`__trigger_fatal_error_on_consumer`: `if(handler) handler(object);`. -/
def callFatalHandler (st : FatalState) : FatalState :=
  match st.handler with
  | none => st
  | some h => { st with calls := st.calls ++ [h] }

/-- `__trigger_fatal_error_on_display`. -/
def triggerFatalErrorOnDisplay (st : FatalState) : FatalState := callFatalHandler st

/-- `__trigger_fatal_error_on_provider`. -/
def triggerFatalErrorOnProvider (st : FatalState) : FatalState := callFatalHandler st

/-- `__trigger_fatal_error_on_consumer`. -/
def triggerFatalErrorOnConsumer (st : FatalState) : FatalState := callFatalHandler st

/-- `__trigger_fatal_error_on_display_backend`: the handler is cleared, then called. -/
def triggerFatalErrorOnDisplayBackend (st : FatalState) : FatalState :=
  match st.handler with
  | none => st
  | some h => { st with handler := none, calls := st.calls ++ [h] }

/-- `__handle_disconnect_for_connection`, shared by the four disconnect callbacks of a
display. -/
def handleDisconnectForConnection (st : FatalState) : FatalState :=
  if st.inProgress then st
  else { triggerFatalErrorOnDisplay { st with inProgress := true } with inProgress := false }

/-- Where each fault event of each object leads: a display's disconnects go through
`__handle_disconnect_for_connection` and its failed space query in
`pv_display_invalidate_region` straight to the trigger; every fault of the provider's and
the consumer's control channel reaches its trigger; only the backend's disconnects reach
its trigger, its event copy reporting neither a CRC mismatch nor a failed query. -/
def FatalObject.onFault : FatalObject → Fault → FatalState → FatalState
  | .display, .disconnect => handleDisconnectForConnection
  | .display, .queryFailure => triggerFatalErrorOnDisplay
  | .display, .crcMismatch => id
  | .provider, _ => triggerFatalErrorOnProvider
  | .consumer, _ => triggerFatalErrorOnConsumer
  | .backend, .disconnect => triggerFatalErrorOnDisplayBackend
  | .backend, _ => id

/-- A run of fault events, with no registration in between. -/
def FatalObject.run (o : FatalObject) (st : FatalState) (faults : List Fault) : FatalState :=
  faults.foldl (fun st f => o.onFault f st) st

/-- The faults that reach the handler of an object without a latch. -/
def FatalObject.reaches : FatalObject → Fault → Bool
  | .display, .crcMismatch => false
  | .backend, .crcMismatch | .backend, .queryFailure => false
  | _, _ => true

/-! ## Runs -/

/-- No faults, no change. -/
@[simp] theorem FatalObject.run_nil (o : FatalObject) (st : FatalState) : o.run st [] = st := rfl

/-- A run of faults is the first fault, then the rest. -/
@[simp] theorem FatalObject.run_cons (o : FatalObject) (st : FatalState) (f : Fault)
    (faults : List Fault) : o.run st (f :: faults) = o.run (o.onFault f st) faults := rfl

/-- The backend's latch: a fault changes nothing, or clears the handler and calls it. -/
theorem backend_onFault (f : Fault) (st : FatalState) :
    (FatalObject.backend.onFault f st = st) ∨
      (∃ h, st.handler = some h ∧ FatalObject.backend.onFault f st =
        { st with handler := none, calls := st.calls ++ [h] }) := by
  cases f with
  | disconnect =>
    cases hh : st.handler with
    | none => exact .inl (by simp only [FatalObject.onFault, triggerFatalErrorOnDisplayBackend, hh])
    | some h =>
      exact .inr ⟨h, rfl, by simp only [FatalObject.onFault, triggerFatalErrorOnDisplayBackend, hh]⟩
  | crcMismatch => exact .inl rfl
  | queryFailure => exact .inl rfl

/-- Once the backend's handler is cleared, no fault changes anything. -/
theorem backend_run_unlatched (st : FatalState) (hst : st.handler = none) (faults : List Fault) :
    FatalObject.backend.run st faults = st := by
  induction faults generalizing st with
  | nil => rfl
  | cons f faults ih =>
    rcases backend_onFault f st with h | ⟨_, hh, -⟩
    · rw [FatalObject.run_cons, h, ih st hst]
    · rw [hst] at hh; cases hh

/-- Over any run of faults the backend's handler is called at most once. -/
theorem backend_run_calls (st : FatalState) (faults : List Fault) :
    (FatalObject.backend.run st faults).calls.length ≤ st.calls.length + 1 := by
  induction faults generalizing st with
  | nil => exact Nat.le_succ _
  | cons f faults ih =>
    rw [FatalObject.run_cons]
    rcases backend_onFault f st with h | ⟨h, -, hs⟩
    · rw [h]; exact ih st
    · rw [hs, backend_run_unlatched _ rfl]; simp

/-- Without a latch, a registered handler is called once for every fault that reaches it. -/
theorem onFault_of_unlatched {o : FatalObject} (ho : o ≠ .backend) (f : Fault) (h : HandlerId)
    (calls : List HandlerId) :
    o.onFault f ⟨some h, false, calls⟩ =
      ⟨some h, false, calls ++ if o.reaches f then [h] else []⟩ := by
  cases o <;> cases f <;>
    first | rfl | exact (ho rfl).elim | simp [FatalObject.onFault, FatalObject.reaches]

/-- An object without a latch calls its handler once for every fault that reaches it. -/
theorem run_of_unlatched {o : FatalObject} (ho : o ≠ .backend) (h : HandlerId)
    (faults : List Fault) (calls : List HandlerId) :
    (o.run ⟨some h, false, calls⟩ faults).calls =
      calls ++ List.replicate (faults.countP o.reaches) h := by
  induction faults generalizing calls with
  | nil => simp
  | cons f faults ih =>
    rw [FatalObject.run_cons, onFault_of_unlatched ho, ih, List.countP_cons]
    cases o.reaches f <;> simp [List.replicate_succ]

/-- **Fatal-error handlers.** Over any run of fault events with no registration in between, a
display backend calls its handler at most once; a display, a provider and a consumer call
theirs, while registered, once for every fault event that reaches it. -/
theorem FatalObject.run_calls (st : FatalState) (faults : List Fault) :
    (FatalObject.backend.run st faults).calls.length ≤ st.calls.length + 1 ∧
      ∀ (o : FatalObject) h, o ≠ .backend → st.handler = some h → st.inProgress = false →
        (o.run st faults).calls = st.calls ++ List.replicate (faults.countP o.reaches) h := by
  refine ⟨backend_run_calls st faults, fun o h ho hh hp => ?_⟩
  obtain ⟨_, _, calls⟩ := st
  subst hh hp
  exact run_of_unlatched ho h faults calls

theorem FatalObject.run_calls_provider :
    (FatalObject.backend.run ⟨some 0, false, []⟩ [.disconnect, .disconnect]).calls.length ≤ 1 ∧
      (FatalObject.provider.run ⟨some 0, false, []⟩ [.disconnect, .crcMismatch]).calls =
        [0, 0] :=
  ⟨(FatalObject.run_calls ⟨some 0, false, []⟩ _).1,
    (FatalObject.run_calls ⟨some 0, false, []⟩ _).2 .provider 0 (by decide) rfl rfl⟩

/-- Two disconnects in a row call a display's handler twice. -/
theorem display_two_disconnects_two_calls :
    (FatalObject.display.run ⟨some 0, false, []⟩ [.disconnect, .disconnect]).calls = [0, 0] := by
  decide

end PvDisplayHelper
