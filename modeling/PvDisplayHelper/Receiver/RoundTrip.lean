import PvDisplayHelper.Receiver.Sync

/-!
# PV display helper — the framed-channel round trip

A `Session` is one direction of a connection seen whole: the link, the frames
`__send_packet` has sent on it so far, and what the receiving object has handed on. A run
is a list of `LinkStep`s, each a `__send_packet` call, whatever its outcome, or the arrival
of the next chunk of the stream followed by one data event on the receiver.

Results:

* `Session.step_inv` / `Session.run_inv` — the receiver has handed on the first frames sent,
  each whole and in order, and is in step with the rest of the stream; one step keeps this,
  so every run does.
* `Session.handedOnDelivered_of_deliver` — after a data event none of whose allocations
  failed, the first frame not handed on still has a byte in flight.
* `Session.run_receipt_length` — no run hands on a frame whose header has length 0, and
  `Session.run_empty_frame_desyncs` — a frame with an empty payload desynchronises the
  receiver.
-/

namespace PvDisplayHelper

/-! ## Runs -/

/-- One step of a run. -/
inductive LinkStep where
  /-- `__send_packet(channel, type, payload, length)`, `length` the payload's size. -/
  | send (type : UInt32) (payload : List UInt8) (env : SendEnv)
  /-- The next `n` bytes in flight reach the receiver, which then gets a data event; `allocs`
  are the outcomes of its `pv_helper_malloc` calls. -/
  | deliver (n : Nat) (allocs : List Bool)
  deriving DecidableEq, Repr

/-- A link with what was sent on it and what its receiver handed on. -/
structure Session where
  link : Link
  sent : List Frame
  events : List RxEvent

/-- A fresh session: nothing sent, and the receiver as its constructor leaves it, with a zeroed
`current_packet_header` and an empty channel. -/
def Session.init (capacity : Nat) : Session :=
  ⟨⟨capacity, [], ⟨⟨0, 0, 0, 0, 0⟩, [], false⟩⟩, [], []⟩

/-- The receiver's state once the next `n` bytes in flight have reached it. -/
def Link.arrive (l : Link) (n : Nat) : RxState :=
  { l.rx with queue := l.rx.queue ++ l.inFlight.take n }

/-- One step of a run with receiver `r`. -/
def Session.step (arch : Arch) (r : Receiver) (st : Session) : LinkStep → Session
  | .send type payload env =>
    let res := sendPacket env st.link type payload (UInt32.ofNat payload.length)
    ⟨res.2, if res.1 = 0 then st.sent ++ [(type, payload)] else st.sent, st.events⟩
  | .deliver n allocs =>
    let res := r.handle arch (st.link.arrive n) allocs
    ⟨{ st.link with inFlight := st.link.inFlight.drop n, rx := res.1 }, st.sent,
      st.events ++ res.2⟩

/-- A whole run. -/
def Session.run (arch : Arch) (r : Receiver) (st : Session) (steps : List LinkStep) : Session :=
  steps.foldl (Session.step arch r) st

/-- What was handed on is the first frames sent, each as a receipt. -/
def Session.HandedOnPrefix (st : Session) : Prop :=
  ∃ k, st.events = (st.sent.take k).map receiptOf

/-- Every frame whose last byte has left the link has been handed on: the first `k` frames
were, and the next one, if any, still has a byte in flight. -/
def Session.HandedOnDelivered (st : Session) : Prop :=
  ∃ k, st.events = (st.sent.take k).map receiptOf ∧
    (k < st.sent.length → (stream (st.sent.drop (k + 1))).length < st.link.inFlight.length)

/-- The run invariant: the first `k` frames sent were handed on, and the receiver is in step
with the others. -/
def Session.Inv (st : Session) : Prop :=
  ∃ k ≤ st.sent.length, st.events = (st.sent.take k).map receiptOf ∧
    Synced st.link.rx st.link.inFlight (st.sent.drop k)

/-- A step sends a valid payload, or sends nothing. -/
def LinkStep.Valid : LinkStep → Prop
  | .send _ payload _ => ValidPayload payload
  | .deliver _ _ => True

instance : DecidablePred LinkStep.Valid
  | .send _ payload _ => inferInstanceAs (Decidable (ValidPayload payload))
  | .deliver _ _ => isTrue trivial

/-! ## Stream lemmas -/

/-- The stream of two lists of frames is the first's, then the second's. -/
theorem stream_append (fs gs : List Frame) : stream (fs ++ gs) = stream fs ++ stream gs := by
  simp [stream]

/-- A frame sent behind the pending ones joins them. -/
theorem Synced.send {s : RxState} {F : List UInt8} {pending : List Frame} {f : Frame}
    (hs : Synced s F pending) (hv : ValidPayload f.2) :
    Synced s (F ++ frameBytes f) (pending ++ [f]) := by
  obtain ⟨hq, hval, hpos⟩ := hs
  refine ⟨hq, fun g hg => ?_, ?_⟩
  · rcases List.mem_append.mp hg with hg | hg
    · exact hval g hg
    · rw [List.mem_singleton.mp hg]; exact hv
  · have hf : stream [f] = frameBytes f := by simp [stream]
    rcases hpos with ⟨h0, hq⟩ | ⟨g, rest, rfl, hh, hq⟩
    · exact .inl ⟨h0, by rw [← List.append_assoc, hq, stream_append, hf]⟩
    · exact .inr ⟨g, rest ++ [f], rfl, hh, by
        rw [← List.append_assoc, hq, stream_append, hf, List.append_assoc]⟩

/-- Moving bytes from the link into the receiver's channel keeps it in step. -/
theorem Synced.arrive {l : Link} {pending : List Frame} (n : Nat)
    (hs : Synced l.rx l.inFlight pending) : Synced (l.arrive n) (l.inFlight.drop n) pending := by
  have hq : (l.arrive n).queue ++ l.inFlight.drop n = l.rx.queue ++ l.inFlight := by
    simp [Link.arrive]
  obtain ⟨hf, hval, hpos⟩ := hs
  exact ⟨hf, hval, by rw [hq]; exact hpos⟩

/-- A receiver that stopped for lack of data is still waiting for a byte of its first pending
frame. -/
theorem Synced.stalled {arch : Arch} {s : RxState} {F : List UInt8} {f : Frame}
    {rest : List Frame} (hs : Synced s F (f :: rest)) (hst : Stalled arch s) :
    (stream rest).length < F.length := by
  have hv : ValidPayload f.2 := hs.valid f (List.mem_cons_self _ _)
  have hne := sentHeader_length_ne hv
  rcases hs.position with ⟨h0, hq⟩ | ⟨g, rest', hp, hh, hq⟩
  · rcases hst with ⟨-, hlt⟩ | ⟨hne', -⟩
    · have := congrArg List.length hq
      simp only [List.length_append, stream_cons rest hv, DhHeader.length_bytes] at this
      omega
    · exact absurd h0 hne'
  · obtain ⟨rfl, rfl⟩ := List.cons.inj hp
    rcases hst with ⟨h0, -⟩ | ⟨-, hlt⟩
    · rw [hh] at h0; exact absurd h0 hne
    · have hlwf : lengthWithFooter arch s.currentPacketHeader =
          (frameTail (sentHeader f) f.2).length := by
        rw [hh, lengthWithFooter_of_lt arch (by rw [sentHeader_length hv]; exact payload_small hv),
          sentHeader_length hv, length_frameTail]
      have := congrArg List.length hq
      simp only [List.length_append] at this
      omega

/-! ## One step, then a whole run -/

section Run

variable (arch : Arch) (r : Receiver)

/-- A fresh session keeps the invariant. -/
theorem Session.init_inv (capacity : Nat) : (Session.init capacity).Inv :=
  ⟨0, Nat.le_refl _, rfl, rfl, fun _ h => absurd h (List.not_mem_nil _), .inl ⟨rfl, rfl⟩⟩

/-- A send that succeeds adds its frame behind the others; one that fails changes nothing. -/
theorem Session.send_inv {st : Session} {type : UInt32} {payload : List UInt8} {env : SendEnv}
    (hi : st.Inv) (hv : ValidPayload payload) : (st.step arch r (.send type payload env)).Inv := by
  obtain ⟨k, hk, he, hs⟩ := hi
  rcases sendPacket_cases env st.link type payload (UInt32.ofNat payload.length) with h | ⟨rc, hrc, h⟩
  · refine ⟨k, by simp only [Session.step, h, if_true, List.length_append]; omega, ?_, ?_⟩
    · simp only [Session.step, h, if_true, List.take_append_of_le_length hk]; exact he
    · simp only [Session.step, h, if_true, List.drop_append_of_le_length hk, Link.send,
        ← frameBytes_mk]
      exact hs.send hv
  · simp only [Session.step, h, hrc, if_false]
    exact ⟨k, hk, he, hs⟩

/-- A data event hands on the leading pending frames and stays in step with the rest. -/
theorem Session.deliver_inv {st : Session} (n : Nat) (allocs : List Bool) (hi : st.Inv) :
    ∃ k ≤ st.sent.length, (st.step arch r (.deliver n allocs)).events =
        (st.sent.take k).map receiptOf ∧
      Synced (st.step arch r (.deliver n allocs)).link.rx
        (st.step arch r (.deliver n allocs)).link.inFlight (st.sent.drop k) ∧
      (allocs.all id = true → Stalled arch (st.step arch r (.deliver n allocs)).link.rx) := by
  obtain ⟨k, hk, he, hs⟩ := hi
  obtain ⟨k', hk', he', hs', hst⟩ := r.handle_decodes arch allocs (hs.arrive n)
  refine ⟨k + k', by simp only [List.length_drop] at hk'; omega, ?_, ?_, hst⟩
  · simp only [Session.step, he, he', List.take_add, List.map_append]
  · simpa only [Session.step, List.drop_drop, Nat.add_comm] using hs'

/-- Every step of valid payloads keeps the invariant. -/
theorem Session.step_inv {st : Session} {step : LinkStep} (hi : st.Inv) (hv : step.Valid) :
    (st.step arch r step).Inv := by
  cases step with
  | send type payload env => exact Session.send_inv arch r hi hv
  | deliver n allocs =>
    obtain ⟨k, hk, he, hs, -⟩ := Session.deliver_inv arch r n allocs hi
    exact ⟨k, hk, he, hs⟩

/-- Every run of valid payloads keeps the invariant. -/
theorem Session.run_inv {st : Session} (steps : List LinkStep) (hi : st.Inv)
    (hv : ∀ step ∈ steps, step.Valid) : (st.run arch r steps).Inv := by
  induction steps generalizing st with
  | nil => exact hi
  | cons step steps ih =>
    exact ih (Session.step_inv arch r hi (hv step (List.mem_cons_self _ _)))
      fun s hs => hv s (List.mem_cons_of_mem _ hs)

/-- Under the invariant, what was handed on is the first frames sent. -/
theorem Session.Inv.handedOnPrefix {st : Session} (hi : st.Inv) : st.HandedOnPrefix :=
  let ⟨k, _, he, _⟩ := hi
  ⟨k, he⟩

/-- After a data event none of whose allocations failed, every frame delivered whole has been
handed on. -/
theorem Session.handedOnDelivered_of_deliver {st : Session} {n : Nat} {allocs : List Bool}
    (hi : st.Inv) (ha : allocs.all id = true) :
    (st.step arch r (.deliver n allocs)).HandedOnDelivered := by
  obtain ⟨k, -, he, hs, hst⟩ := Session.deliver_inv arch r n allocs hi
  refine ⟨k, he, fun hlt => ?_⟩
  obtain ⟨f, rest, hfr⟩ : ∃ f rest, st.sent.drop k = f :: rest :=
    List.exists_cons_of_ne_nil (by simpa [List.drop_eq_nil_iff] using hlt)
  rw [hfr] at hs
  have hrest : st.sent.drop (k + 1) = rest := by rw [← List.drop_drop, hfr]; rfl
  simpa only [Session.step, hrest] using hs.stalled (hst ha)

/-- **The round trip.** Whatever the chunking and whichever sends and allocations fail, each
receiver hands on the frames sent, in order and each whole, and never signals a fatal error;
after a data event none of whose allocations failed, every frame delivered whole has been
handed on. -/
theorem Session.run_round_trip (capacity : Nat) (steps : List LinkStep)
    (hv : ∀ step ∈ steps, step.Valid) :
    ((Session.init capacity).run arch r steps).HandedOnPrefix ∧
      ∀ n allocs, allocs.all id = true →
        (((Session.init capacity).run arch r steps).step arch r (.deliver n allocs)).HandedOnDelivered :=
  let hi := Session.run_inv arch r steps (Session.init_inv capacity) hv
  ⟨hi.handedOnPrefix, fun _ _ ha => Session.handedOnDelivered_of_deliver arch r hi ha⟩

end Run

theorem Session.run_round_trip_chunked :
    (∀ step ∈ [.send 102 [1, 2, 3] ⟨true, true, 0, 0⟩, .deliver 5 [],
        .send 103 [4] ⟨true, false, 0, 0⟩, .deliver 30 [false], .deliver 30 []], LinkStep.Valid step) ∧
      ((Session.init 4096).run .lp64 .backendEvent [.send 102 [1, 2, 3] ⟨true, true, 0, 0⟩,
        .deliver 5 [], .send 103 [4] ⟨true, false, 0, 0⟩, .deliver 30 [false],
        .deliver 30 []]).HandedOnPrefix ∧
      ∀ n allocs, allocs.all id = true →
        (((Session.init 4096).run .lp64 .backendEvent [.send 102 [1, 2, 3] ⟨true, true, 0, 0⟩,
          .deliver 5 [], .send 103 [4] ⟨true, false, 0, 0⟩, .deliver 30 [false],
          .deliver 30 []]).step .lp64 .backendEvent (.deliver n allocs)).HandedOnDelivered :=
  ⟨by decide, Session.run_round_trip .lp64 .backendEvent 4096 _ (by decide)⟩

/-! ## Empty payloads

A header whose length is 0 is the receivers' "no frame in progress": the loop reads the next
header straight after it and never tries to receive a frame for it. -/

/-- The loop hands on no frame whose header has length 0. -/
theorem eventLoop_receipt_length {rd : RxState → RxState × Bool} {fatal : Bool} {arch : Arch}
    (n : Nat) : ∀ s allocs h b,
      RxEvent.receipt h b ∈ (eventLoop rd (tryToReceivePacket fatal arch) n s allocs).2 →
      h.length ≠ 0 := by
  induction n with
  | zero => intro s allocs h b he; simp [eventLoop] at he
  | succ n ih =>
    intro s allocs h b he
    rw [eventLoop_succ] at he
    generalize (if s.currentPacketHeader.length = 0 then rd s else (s, false)) = r₁ at he
    dsimp only at he
    split at he
    · split at he
      · exact ih _ _ h b he
      · simp at he
    · rename_i hne
      split at he
      · rcases List.mem_append.mp he with he | he
        · rw [tryToReceivePacket_receipt he]; exact hne
        · exact ih _ _ h b he
      · rw [tryToReceivePacket_receipt he]; exact hne

/-- No receiver's data event hands on a frame whose header has length 0. -/
theorem Receiver.handle_receipt_length (arch : Arch) (r : Receiver) {s : RxState}
    {allocs : List Bool} {h : DhHeader} {b : List UInt8}
    (he : RxEvent.receipt h b ∈ (r.handle arch s allocs).2) : h.length ≠ 0 := by
  rw [Receiver.handle_eq_eventLoop arch r s allocs 0] at he
  exact eventLoop_receipt_length _ s allocs h b he

/-- Every frame a run hands on, whatever was sent and however it was chunked, has a header of
nonzero length: a frame with an empty payload is never received as a packet. -/
theorem Session.run_receipt_length (arch : Arch) (r : Receiver) (steps : List LinkStep) :
    ∀ st : Session, (∀ h b, .receipt h b ∈ st.events → h.length ≠ 0) →
      ∀ h b, .receipt h b ∈ (st.run arch r steps).events → h.length ≠ 0 := by
  induction steps with
  | nil => exact fun _ hst => hst
  | cons step steps ih =>
    intro st hst
    refine ih _ fun h b he => ?_
    cases step with
    | send type payload env => exact hst h b he
    | deliver n allocs =>
      rcases List.mem_append.mp he with he | he
      · exact hst h b he
      · exact r.handle_receipt_length arch he

/-- A frame with an empty payload desynchronises every receiver: neither it nor the frame after
it is handed on, and the receiver takes the empty frame's footer and the start of the next
header for a header whose length is `PV_DRIVER_MAGIC2 : PV_DRIVER_MAGIC1`. -/
theorem Session.run_empty_frame_desyncs (arch : Arch) (r : Receiver) :
    let st := (Session.init 4096).run arch r
      [.send 7 [] ⟨true, true, 0, 0⟩, .send 7 [1] ⟨true, true, 0, 0⟩, .deliver 100 []]
    st.sent = [(7, []), (7, [1])] ∧ st.link.inFlight = [] ∧ st.events = [] ∧
      st.link.rx.currentPacketHeader.length = 0x5AFEC0DE := by
  set_option maxRecDepth 20000 in
  cases arch <;> cases r <;> decide

end PvDisplayHelper
