import PvDisplayHelper.Dispatch.Receipt
import PvDisplayHelper.Receiver.RoundTrip
import PvDisplayHelper.Objects.Backend

/-!
# PV display helper — the big locks along a call chain

Each object has a `pv_helper_mutex lock`, its big lock, and a display backend also has a
`fatal_lock`. The call chain of one library entry point is written as the lock operations and
the user-handler calls it makes, in order (`LockOp`). A chain is sound (`lockSound`) when it
never acquires a mutex that it already holds, which is a self-deadlock for these non-recursive
mutexes, and calls a user handler only while the big lock of the handler's object is free.

The chains come from the decoders: `eventLoopOps` follows the run of `eventLoop` and puts
down, for each header read and each packet read the loop makes, the lock operations that the
C function takes on that path, then the calls for what it handed on. The provider's reads
take and release `provider->lock` themselves, and it dispatches or reports a fatal error with
the lock free. The consumer and the backend keep the big lock over their whole loop.

* `eventLoopOps_eq_flatMap` — a loop whose reads take no lock costs what it hands on costs;
* `providerControlChannelEventOps_sound` — the provider's data path is sound on every input;
* `consumer_reacquires_its_lock` — a consumer's data path with a CRC mismatch, and its
  handshake, take `consumer->lock` twice;
* `backendEventChannelEventOps_sound_iff` — the backend's data path calls each handler with
  `display->lock` held, and is sound exactly when it calls none.
-/

namespace PvDisplayHelper

/-! ## Lock operations -/

/-- The mutexes of the library's objects. -/
inductive Mutex where
  | providerLock
  | consumerLock
  | backendLock
  | backendFatalLock
  deriving DecidableEq, Repr

/-- One step of a call chain. -/
inductive LockOp where
  | acquire (m : Mutex)
  | release (m : Mutex)
  /-- A user handler of the object whose big lock is `bigLock`. -/
  | userHandler (bigLock : Mutex)
  deriving DecidableEq, Repr

/-- Whether a chain stays sound from the mutexes `held`. -/
def lockSound : List Mutex → List LockOp → Bool
  | _, [] => true
  | held, .acquire m :: ops => !held.contains m && lockSound (m :: held) ops
  | held, .release m :: ops => lockSound (held.erase m) ops
  | held, .userHandler big :: ops => !held.contains big && lockSound held ops

/-- The call of a handler, if one is registered. -/
def userCall (handler : Option HandlerId) (bigLock : Mutex) : List LockOp :=
  if handler.isSome then [.userHandler bigLock] else []

/-! ## The data paths -/

/-- The lock operations of a data event's `do { ... } while(continue_to_read)` loop, read off
the loop's own run: it takes the branches `eventLoop` takes, each header read costing
`readOps` and each packet read `receiveOps` of what that read handed on. -/
def eventLoopOps (readHeader : RxState → RxState × Bool)
    (receive : RxState → List Bool → RxState × List Bool × Bool × List RxEvent)
    (readOps : List LockOp) (receiveOps : List RxEvent → List LockOp) :
    Nat → RxState → List Bool → List LockOp
  | 0, _, _ => []
  | fuel + 1, s, allocs =>
    let r₁ := if s.currentPacketHeader.length = 0 then readHeader s else (s, false)
    let o₁ := if s.currentPacketHeader.length = 0 then readOps else []
    if r₁.1.currentPacketHeader.length = 0 then
      o₁ ++ if r₁.2 then eventLoopOps readHeader receive readOps receiveOps fuel r₁.1 allocs
        else []
    else
      let r₂ := receive r₁.1 allocs
      o₁ ++ receiveOps r₂.2.2.2 ++
        if r₂.2.2.1 then eventLoopOps readHeader receive readOps receiveOps fuel r₂.1 r₂.2.1
        else []

/-- `__trigger_fatal_error_on_provider`: calls the handler, taking no lock. -/
def triggerFatalErrorOnProviderOps (fatalHandler : Option HandlerId) : List LockOp :=
  userCall fatalHandler .providerLock

/-- `__trigger_fatal_error_on_consumer`: calls the handler under `consumer->lock`. -/
def triggerFatalErrorOnConsumerOps (fatalHandler : Option HandlerId) : List LockOp :=
  [.acquire .consumerLock] ++ userCall fatalHandler .consumerLock ++ [.release .consumerLock]

/-- The call the provider makes for an event its packet read hands on: the dispatch, or the
fatal-error report. An out-of-bounds read is undefined behaviour and records nothing. -/
def providerEventOps (hs : ProviderHandlers) (fatalHandler : Option HandlerId) :
    RxEvent → List LockOp
  | .receipt h b => userCall ((providerHandleControlPacketReceipt hs h b).call.map Prod.fst) .providerLock
  | .fatal => triggerFatalErrorOnProviderOps fatalHandler
  | .overread => []

/-- The provider's `__handle_control_channel_event`, which takes no lock itself.
`__try_to_read_header` takes and releases `provider->lock` around its `libivc_recv`;
`__try_to_receive_control_packet` takes it first and releases it on every path before the
dispatch or the fatal-error report it ends with. -/
def providerControlChannelEventOps (arch : Arch) (hs : ProviderHandlers)
    (fatalHandler : Option HandlerId) (s : RxState) (allocs : List Bool) : List LockOp :=
  eventLoopOps tryToReadHeader (tryToReceiveControlPacket arch)
    [.acquire .providerLock, .release .providerLock]
    (fun evs => [.acquire .providerLock, .release .providerLock] ++
      evs.flatMap (providerEventOps hs fatalHandler))
    (loopFuel s) s allocs

/-- The call the consumer makes for an event its packet read hands on. -/
def consumerEventOps (cs : ConsumerHandlers) (fatalHandler : Option HandlerId) :
    RxEvent → List LockOp
  | .receipt h b =>
    userCall ((consumerHandleControlPacketReceipt cs h b).call.map Prod.fst) .consumerLock
  | .fatal => triggerFatalErrorOnConsumerOps fatalHandler
  | .overread => []

/-- The consumer's `__handle_control_channel_event`: the whole loop under `consumer->lock`;
its `__try_to_read_header` and `__try_to_receive_control_packet` take no lock themselves. -/
def consumerControlChannelEventOps (arch : Arch) (cs : ConsumerHandlers)
    (fatalHandler : Option HandlerId) (s : RxState) (allocs : List Bool) : List LockOp :=
  [.acquire .consumerLock] ++
    eventLoopOps tryToReadHeader (tryToReceiveControlPacket arch) []
      (fun evs => evs.flatMap (consumerEventOps cs fatalHandler)) (loopFuel s) s allocs ++
    [.release .consumerLock]

/-- `__handle_control_connection` under `consumer->lock`, with a `new_control_connection`
handler that, as the handshake asks, calls `finish_control_connection`, which runs
`__handle_control_channel_event` on the new channel. -/
def handleControlConnectionOps (arch : Arch) (cs : ConsumerHandlers)
    (fatalHandler : Option HandlerId) (s : RxState) (allocs : List Bool)
    (newControlConnection : Option HandlerId) : List LockOp :=
  [.acquire .consumerLock] ++
    (match newControlConnection with
      | none => []
      | some _ => .userHandler .consumerLock ::
          consumerControlChannelEventOps arch cs fatalHandler s allocs) ++
    [.release .consumerLock]

/-- The call the backend makes for an event its packet read hands on; its event copy reports
no fatal error. -/
def backendEventOps (bs : BackendHandlers) : RxEvent → List LockOp
  | .receipt h b => userCall ((handleEventPacketReceipt bs h b).call.map Prod.fst) .backendLock
  | .fatal | .overread => []

/-- The backend's `__handle_event_channel_event` on a connected display: the whole loop under
`display->lock`; its header and packet reads take no lock themselves. -/
def backendEventChannelEventOps (arch : Arch) (bs : BackendHandlers) (s : RxState)
    (allocs : List Bool) : List LockOp :=
  [.acquire .backendLock] ++
    eventLoopOps tryToReadEventHeader (tryToReceiveEventPacket arch) []
      (fun evs => evs.flatMap (backendEventOps bs)) (loopFuel s) s allocs ++
    [.release .backendLock]

/-! ## The loop's operations -/

section Loop

variable {rd : RxState → RxState × Bool}
  {rv : RxState → List Bool → RxState × List Bool × Bool × List RxEvent}

/-- A loop whose reads take no lock of their own costs what the events it hands on cost, in
the order `eventLoop` hands them on. -/
theorem eventLoopOps_eq_flatMap (f : RxEvent → List LockOp) (n : Nat) :
    ∀ s a, eventLoopOps rd rv [] (fun evs => evs.flatMap f) n s a =
      (eventLoop rd rv n s a).2.flatMap f := by
  induction n with
  | zero => intro s a; rfl
  | succ n ih =>
    intro s a
    rw [eventLoop_succ]
    simp only [eventLoopOps, ite_self, List.nil_append]
    generalize (if s.currentPacketHeader.length = 0 then rd s else (s, false)) = r₁
    by_cases h₁ : r₁.1.currentPacketHeader.length = 0
    · -- no header in progress after the header read
      cases hc : r₁.2 <;> simp only [h₁, hc, if_true, if_false, ih, List.flatMap_nil,
        Bool.false_eq_true]
    · -- a packet read
      cases hc : (rv r₁.1 a).2.2.1 <;> simp only [h₁, hc, if_true, if_false, ih,
        List.flatMap_append, List.append_nil, Bool.false_eq_true]

/-- If each header read and each packet read leaves the set of held mutexes as it found it,
and is sound from it, so is the whole loop. -/
theorem lockSound_eventLoopOps {readOps : List LockOp} {receiveOps : List RxEvent → List LockOp}
    (hread : ∀ ops, lockSound [] (readOps ++ ops) = lockSound [] ops)
    (hrecv : ∀ evs ops, lockSound [] (receiveOps evs ++ ops) = lockSound [] ops) (n : Nat) :
    ∀ s a ops, lockSound [] (eventLoopOps rd rv readOps receiveOps n s a ++ ops) =
      lockSound [] ops := by
  induction n with
  | zero => intro s a ops; rfl
  | succ n ih =>
    intro s a ops
    simp only [eventLoopOps]
    have hread' : ∀ ops, lockSound []
        ((if s.currentPacketHeader.length = 0 then readOps else []) ++ ops) = lockSound [] ops :=
      fun ops => by split <;> simp only [hread, List.nil_append]
    generalize (if s.currentPacketHeader.length = 0 then rd s else (s, false)) = r₁
    by_cases h₁ : r₁.1.currentPacketHeader.length = 0
    · cases hc : r₁.2 <;> simp only [h₁, hc, if_true, if_false, List.append_assoc,
        List.append_nil, hread', ih, Bool.false_eq_true]
    · cases hc : (rv r₁.1 a).2.2.1 <;> simp only [h₁, hc, if_true, if_false, List.append_assoc,
        List.append_nil, hread', hrecv, ih, Bool.false_eq_true]

end Loop

/-! ## The provider's data path is sound -/

/-- A handler call is sound while its big lock is free, and leaves the held mutexes alone. -/
theorem lockSound_userCall (held : List Mutex) (handler : Option HandlerId) (big : Mutex)
    (hb : big ∉ held) (ops : List LockOp) :
    lockSound held (userCall handler big ++ ops) = lockSound held ops := by
  unfold userCall
  split <;> simp [lockSound, hb]

/-- Taking a free mutex and releasing it again is sound and changes nothing. -/
theorem lockSound_acquire_release (m : Mutex) (ops : List LockOp) :
    lockSound [] ([.acquire m, .release m] ++ ops) = lockSound [] ops := by
  simp [lockSound]

/-- Each call the provider makes after a packet read runs with no mutex held. -/
theorem lockSound_providerEventOps (hs : ProviderHandlers) (fatalHandler : Option HandlerId)
    (evs : List RxEvent) (ops : List LockOp) :
    lockSound [] (evs.flatMap (providerEventOps hs fatalHandler) ++ ops) = lockSound [] ops := by
  induction evs with
  | nil => rfl
  | cons e evs ih =>
    rw [List.flatMap_cons, List.append_assoc, ← ih]
    cases e <;> simp only [providerEventOps, triggerFatalErrorOnProviderOps, List.nil_append] <;>
      exact lockSound_userCall [] _ _ (List.not_mem_nil _) _

/-- The provider's data path never re-acquires a mutex, and runs every handler with
`provider->lock` free. -/
theorem providerControlChannelEventOps_sound (arch : Arch) (hs : ProviderHandlers)
    (fatalHandler : Option HandlerId) (s : RxState) (allocs : List Bool) :
    lockSound [] (providerControlChannelEventOps arch hs fatalHandler s allocs) = true := by
  unfold providerControlChannelEventOps
  rw [← List.append_nil (eventLoopOps _ _ _ _ _ _ _)]
  refine (lockSound_eventLoopOps (lockSound_acquire_release _) (fun evs ops => ?_) _ _ _ []).trans rfl
  rw [List.append_assoc, lockSound_acquire_release, lockSound_providerEventOps]

/-! ## The consumer's -/

/-- A consumer whose control channel delivers a frame with a wrong CRC re-acquires
`consumer->lock` from inside its own data event; so does the handshake, whose
`new_control_connection` handler also runs under that lock. -/
theorem consumer_reacquires_its_lock :
    consumerControlChannelEventOps .lp64 ⟨none, none, none, none⟩ none
        ⟨⟨0, 0, 0, 0, 0⟩, DhHeader.bytes ⟨pvDriverMagic1, pvDriverMagic2,
          packetTypeControlDriverCapabilities, 1, 0⟩ ++ [0] ++ DhFooter.bytes ⟨0, 0, 0⟩, false⟩ [] =
      [.acquire .consumerLock, .acquire .consumerLock, .release .consumerLock,
        .release .consumerLock] ∧
    handleControlConnectionOps .lp64 ⟨none, none, none, none⟩ none ⟨⟨0, 0, 0, 0, 0⟩, [], false⟩ []
        (some 0) =
      [.acquire .consumerLock, .userHandler .consumerLock, .acquire .consumerLock,
        .release .consumerLock, .release .consumerLock] ∧
    lockSound [] [.acquire .consumerLock, .acquire .consumerLock, .release .consumerLock,
      .release .consumerLock] = false ∧
    lockSound [] [.acquire .consumerLock, .userHandler .consumerLock, .acquire .consumerLock,
      .release .consumerLock, .release .consumerLock] = false := by
  set_option maxRecDepth 20000 in decide

/-! ## The backend's -/

/-- What the backend's packet reads hand on costs one user-handler call per handler call
dispatched. -/
theorem flatMap_backendEventOps (bs : BackendHandlers) (evs : List RxEvent) :
    evs.flatMap (backendEventOps bs) =
      (backendCalls bs evs).map (fun _ => .userHandler .backendLock) := by
  induction evs with
  | nil => rfl
  | cons e evs ih =>
    rw [List.flatMap_cons, ih]
    cases e with
    | receipt h b =>
      simp only [backendCalls, List.filterMap_cons, backendEventOps]
      cases (handleEventPacketReceipt bs h b).call <;> rfl
    | fatal | overread => rfl

/-- The backend's data path takes `display->lock`, makes one user-handler call for each handler
call it dispatches, and releases the lock. -/
theorem backendEventChannelEventOps_eq (arch : Arch) (bs : BackendHandlers) (s : RxState)
    (allocs : List Bool) :
    backendEventChannelEventOps arch bs s allocs =
      [.acquire .backendLock] ++
        (backendCalls bs (handleEventChannelEvent arch false s allocs).2).map
          (fun _ => .userHandler .backendLock) ++ [.release .backendLock] := by
  rw [backendEventChannelEventOps, eventLoopOps_eq_flatMap, flatMap_backendEventOps]
  rfl

/-- Unlike the provider's, the backend's data path runs every handler it calls with
`display->lock` held: it never re-acquires a mutex, and its chain is sound exactly when it
calls no handler. -/
theorem backendEventChannelEventOps_sound_iff (arch : Arch) (bs : BackendHandlers) (s : RxState)
    (allocs : List Bool) :
    lockSound [] (backendEventChannelEventOps arch bs s allocs) = true ↔
      backendCalls bs (handleEventChannelEvent arch false s allocs).2 = [] := by
  rw [backendEventChannelEventOps_eq]
  cases backendCalls bs (handleEventChannelEvent arch false s allocs).2 <;> simp [lockSound]

end PvDisplayHelper
