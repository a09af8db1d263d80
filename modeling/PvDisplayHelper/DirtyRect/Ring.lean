import PvDisplayHelper.Dispatch.Receipt
import PvDisplayHelper.Ivc.Link

/-!
# PV display helper — the dirty-rectangles ring

A display's dirty rectangles go over their own IVC ring, unframed: the provider's
`pv_display_invalidate_region` writes one `struct dh_dirty_rectangle` when there is room for
it. When there is room for only one more, it writes a full-screen rectangle instead, so that
a dropped update is caught up. The backend's `__handle_dirty_rectangle_event` reads whole
records and passes each to `dirty_rectangle_handler`.

`DirtyRects` is the ring with the display's geometry and the backend's handler. It also keeps
what was written (each record with the geometry when it was written), the handler calls made
and the fatal errors triggered, to state what the ring is for.

* `pvDisplayInvalidateRegion_cases` — the four ways a call can end;
* `DirtyRects.step_inv` / `DirtyRects.run_inv` — the handler has been given a prefix of the
  records written, and the ring holds exactly the rest, as whole records. And when the ring
  has no room for a record, the newest record written is a full-screen one;
* `DirtyRects.run_catch_up` — over every run: a call appends one whole record when it
  returns 0 and nothing otherwise, a data event hands every queued record to the handler,
  and a refusal for lack of room leaves a full-screen record at the back of the ring.
-/

namespace PvDisplayHelper

/-! ## Model -/

/-- The ring with what surrounds it. -/
structure DirtyRects where
  capacity : Nat
  ring : List UInt8
  width : UInt32
  height : UInt32
  handler : Option HandlerId
  written : List (DhDirtyRectangle × UInt32 × UInt32)
  calls : List (Option HandlerId × DhDirtyRectangle)
  /-- The calls of `__trigger_fatal_error_on_display` made. -/
  fatalErrors : Nat

/-- A display just connected: an empty ring of the given capacity and no handler yet. -/
def DirtyRects.init (capacity : Nat) (width height : UInt32) : DirtyRects :=
  ⟨capacity, [], width, height, none, [], [], 0⟩

/-- What the transport answers during one `pv_display_invalidate_region`: the return codes of
`libivc_getAvailableSpace` and of `libivc_send`, which writes nothing when it fails. -/
structure InvalidateEnv where
  spaceRc : Int
  sendRc : Int
  deriving DecidableEq, Repr

/-- `libivc_send` of one record that fits, noted with the display's geometry. -/
def DirtyRects.write (d : DirtyRects) (region : DhDirtyRectangle) : DirtyRects :=
  { d with ring := d.ring ++ region.bytes, written := d.written ++ [(region, d.width, d.height)] }

/-- `pv_display_invalidate_region(display, x, y, width, height)`, on a display with a
dirty-rectangles connection. A failed `libivc_getAvailableSpace` triggers the fatal-error
handler and is returned; otherwise it reports the room left in the ring, and the call returns
what `libivc_send` returns. -/
def pvDisplayInvalidateRegion (d : DirtyRects) (env : InvalidateEnv) (x y width height : UInt32) :
    Int × DirtyRects :=
  if env.spaceRc ≠ 0 then (env.spaceRc, { d with fatalErrors := d.fatalErrors + 1 })
  else
  let availableSpace := d.capacity - d.ring.length
  if availableSpace < 16 then (-eagain, d)
  else
    let region : DhDirtyRectangle :=
      if availableSpace < 16 * 2 then ⟨0, 0, d.width, d.height⟩ else ⟨x, y, width, height⟩
    if env.sendRc = 0 then (0, d.write region) else (env.sendRc, d)

/-- The `while` loop of `__handle_dirty_rectangle_event`: one iteration per whole record in
`available_data`, each a `libivc_recv` of one record into the zeroed `rect` and a call of
`dirty_rectangle_handler`, NULL or not. -/
def dirtyRectangleLoop (handler : Option HandlerId) (isOpen : Bool) :
    Nat → List UInt8 → List UInt8 × List (Option HandlerId × DhDirtyRectangle)
  | 0, ring => (ring, [])
  | k + 1, ring =>
    if isOpen then
      let rr : DhDirtyRectangle × List UInt8 := match ivcRecv ring 16 with
        | some (bytes, rest) => (DhDirtyRectangle.ofBytes bytes, rest)
        | none => (⟨0, 0, 0, 0⟩, ring)
      let r := dirtyRectangleLoop handler isOpen k rr.2
      (r.1, (handler, rr.1) :: r.2)
    else (ring, [])

/-- `__handle_dirty_rectangle_event`: `isOpen` is `libivc_isOpen(client)` with the display's
`dirty_rectangles_connection` set. -/
def handleDirtyRectangleEvent (d : DirtyRects) (isOpen : Bool) : DirtyRects :=
  let r := dirtyRectangleLoop d.handler isOpen (d.ring.length / 16) d.ring
  { d with ring := r.1, calls := d.calls ++ r.2 }

/-- What can happen around the ring. -/
inductive DirtyRectStep where
  | invalidateRegion (x y width height : UInt32) (env : InvalidateEnv)
  /-- `pv_display_change_resolution`, which sets the display's geometry. -/
  | changeResolution (width height stride : UInt32)
  | rectangleEvent (isOpen : Bool)
  /-- `register_dirty_rectangle_handler`. -/
  | registerHandler (handler : Option HandlerId)
  deriving DecidableEq, Repr

def DirtyRects.step (d : DirtyRects) : DirtyRectStep → DirtyRects
  | .invalidateRegion x y width height env => (pvDisplayInvalidateRegion d env x y width height).2
  | .changeResolution width height _ => { d with width := width, height := height }
  | .rectangleEvent isOpen => handleDirtyRectangleEvent d isOpen
  | .registerHandler handler => { d with handler := handler }

def DirtyRects.run (d : DirtyRects) (steps : List DirtyRectStep) : DirtyRects :=
  steps.foldl DirtyRects.step d

/-- The bytes of records back to back. -/
def rectBytes (rs : List DhDirtyRectangle) : List UInt8 := (rs.map DhDirtyRectangle.bytes).flatten

/-- The invariant: the handler was given a prefix of the records written and the ring holds
the rest; when the ring has no room for a record, the newest one written is full-screen, with
the geometry of its time. -/
structure DirtyRects.Inv (d : DirtyRects) : Prop where
  fifo : ∃ pending, d.calls.map Prod.snd ++ pending = d.written.map Prod.fst ∧
    d.ring = rectBytes pending
  catchUp : d.capacity < d.ring.length + 16 →
    ∃ w h, d.written.getLast? = some (⟨0, 0, w, h⟩, w, h)

/-! ## Reading records -/

/-- No records, no bytes. -/
@[simp] theorem rectBytes_nil : rectBytes [] = [] := rfl

/-- The bytes of records are those of the first, then the others'. -/
@[simp] theorem rectBytes_cons (r : DhDirtyRectangle) (rs : List DhDirtyRectangle) :
    rectBytes (r :: rs) = r.bytes ++ rectBytes rs := rfl

/-- Each record takes 16 bytes. -/
@[simp] theorem length_rectBytes (rs : List DhDirtyRectangle) :
    (rectBytes rs).length = 16 * rs.length := by
  induction rs with
  | nil => rfl
  | cons r rs ih => simp only [rectBytes_cons, List.length_append, ih,
      DhDirtyRectangle.length_bytes, List.length_cons]; omega

/-- The bytes of two lists of records are the first's, then the second's. -/
theorem rectBytes_append (rs ss : List DhDirtyRectangle) :
    rectBytes (rs ++ ss) = rectBytes rs ++ rectBytes ss := by
  simp [rectBytes]

/-- Reading `k` records from a ring of whole records hands the first `k` to the handler. -/
theorem dirtyRectangleLoop_records (handler : Option HandlerId) (k : Nat) :
    ∀ rs, k ≤ rs.length → dirtyRectangleLoop handler true k (rectBytes rs) =
      (rectBytes (rs.drop k), (rs.take k).map (handler, ·)) := by
  induction k with
  | zero => intro rs _; rfl
  | succ k ih =>
    intro rs hk
    cases rs with
    | nil => exact absurd hk (Nat.not_succ_le_zero k)
    | cons r rs =>
      have hrecv : ivcRecv (rectBytes (r :: rs)) 16 = some (r.bytes, rectBytes rs) := by
        rw [rectBytes_cons, ivcRecv_of_le (by simp), ← DhDirtyRectangle.length_bytes r,
          List.take_left, List.drop_left]
      have hr : DhDirtyRectangle.ofBytes r.bytes = r := by
        simpa using DhDirtyRectangle.ofBytes_bytes r []
      simp only [dirtyRectangleLoop, if_true, hrecv, hr, ih rs (Nat.le_of_succ_le_succ hk),
        List.drop_succ_cons, List.take_succ_cons, List.map_cons]

/-- On a closed connection the loop reads nothing. -/
theorem dirtyRectangleLoop_closed (handler : Option HandlerId) (k : Nat) (ring : List UInt8) :
    dirtyRectangleLoop handler false k ring = (ring, []) := by
  cases k <;> rfl

/-- A data event on an open connection hands every record in the ring to the handler, in
order, and empties the ring. -/
theorem handleDirtyRectangleEvent_open (d : DirtyRects) {rs : List DhDirtyRectangle}
    (hr : d.ring = rectBytes rs) :
    (handleDirtyRectangleEvent d true).ring = [] ∧
      (handleDirtyRectangleEvent d true).calls = d.calls ++ rs.map (d.handler, ·) := by
  have hk : d.ring.length / 16 = rs.length := by rw [hr, length_rectBytes]; omega
  unfold handleDirtyRectangleEvent
  rw [hk, hr, dirtyRectangleLoop_records d.handler _ rs (Nat.le_refl _), List.drop_length,
    List.take_length]
  exact ⟨rfl, rfl⟩

/-- A data event reads every record in the ring, or none if the connection is closed. -/
theorem handleDirtyRectangleEvent_records (d : DirtyRects) (isOpen : Bool)
    {rs : List DhDirtyRectangle} (hr : d.ring = rectBytes rs) :
    ∃ k ≤ rs.length, (handleDirtyRectangleEvent d isOpen).ring = rectBytes (rs.drop k) ∧
      (handleDirtyRectangleEvent d isOpen).calls = d.calls ++ (rs.take k).map (d.handler, ·) := by
  cases isOpen with
  | false =>
    refine ⟨0, Nat.zero_le _, ?_⟩
    simp [handleDirtyRectangleEvent, dirtyRectangleLoop_closed, hr]
  | true =>
    obtain ⟨hring, hcalls⟩ := handleDirtyRectangleEvent_open d hr
    exact ⟨rs.length, Nat.le_refl _, by rw [hring, List.drop_length]; rfl,
      by rw [hcalls, List.take_length]⟩

/-! ## One step, then a whole run -/

/-- Everything `pv_display_invalidate_region` can do: report a failed space query as a fatal
error; refuse with `-EAGAIN` when the ring has no room for a record; return a failed send's
code having written nothing; or write one record, full-screen when there is room for only
one, and return 0. -/
theorem pvDisplayInvalidateRegion_cases (d : DirtyRects) (env : InvalidateEnv)
    (x y width height : UInt32) :
    (env.spaceRc ≠ 0 ∧ pvDisplayInvalidateRegion d env x y width height =
      (env.spaceRc, { d with fatalErrors := d.fatalErrors + 1 })) ∨
    (env.spaceRc = 0 ∧ d.capacity < d.ring.length + 16 ∧
      pvDisplayInvalidateRegion d env x y width height = (-eagain, d)) ∨
    (env.spaceRc = 0 ∧ d.ring.length + 16 ≤ d.capacity ∧ env.sendRc ≠ 0 ∧
      pvDisplayInvalidateRegion d env x y width height = (env.sendRc, d)) ∨
    (env.spaceRc = 0 ∧ d.ring.length + 16 ≤ d.capacity ∧ env.sendRc = 0 ∧
      pvDisplayInvalidateRegion d env x y width height = (0, d.write
        (if d.capacity < d.ring.length + 32 then ⟨0, 0, d.width, d.height⟩
          else ⟨x, y, width, height⟩))) := by
  unfold pvDisplayInvalidateRegion
  by_cases hs : env.spaceRc = 0
  · by_cases h16 : d.capacity - d.ring.length < 16
    · exact .inr (.inl ⟨hs, by omega, by simp only [hs, h16, ne_eq, not_true_eq_false, if_true,
        if_false]⟩)
    · have h32 : (d.capacity - d.ring.length < 16 * 2) = (d.capacity < d.ring.length + 32) :=
        propext (by omega)
      by_cases hr : env.sendRc = 0
      · exact .inr (.inr (.inr ⟨hs, by omega, hr, by simp only [hs, h16, hr, h32, ne_eq,
          not_true_eq_false, if_true, if_false]⟩))
      · exact .inr (.inr (.inl ⟨hs, by omega, hr, by simp only [hs, h16, hr, ne_eq,
          not_true_eq_false, if_true, if_false]⟩))
  · exact .inl ⟨hs, by simp only [hs, ne_eq, not_false_eq_true, if_true]⟩

/-- An empty ring of room for at least one record keeps the invariant. -/
theorem DirtyRects.init_inv (capacity : Nat) (hc : 16 ≤ capacity) (width height : UInt32) :
    (DirtyRects.init capacity width height).Inv :=
  ⟨⟨[], rfl, rfl⟩, fun h => absurd h (by simp [DirtyRects.init]; omega)⟩

/-- Writing a record that fits keeps the invariant; the catch-up part needs the record to be
full-screen when it fills the ring to less than a record's room. -/
theorem DirtyRects.write_inv {d : DirtyRects} (hi : d.Inv) (region : DhDirtyRectangle)
    (hroom : d.ring.length + 16 ≤ d.capacity)
    (hfull : d.capacity < d.ring.length + 32 → region = ⟨0, 0, d.width, d.height⟩) :
    (d.write region).Inv := by
  obtain ⟨pending, hfifo, hring⟩ := hi.fifo
  refine ⟨⟨pending ++ [region], ?_, ?_⟩, fun hcap => ?_⟩
  · simp [DirtyRects.write, ← hfifo]
  · simp [DirtyRects.write, hring, rectBytes_append]
  · simp only [DirtyRects.write, List.length_append, DhDirtyRectangle.length_bytes] at hcap
    exact ⟨d.width, d.height, by simp [DirtyRects.write, hfull (by omega)]⟩

/-- Every outcome of `pv_display_invalidate_region` keeps the invariant. -/
theorem DirtyRects.invalidate_inv {d : DirtyRects} (hi : d.Inv) (env : InvalidateEnv)
    (x y width height : UInt32) :
    (pvDisplayInvalidateRegion d env x y width height).2.Inv := by
  rcases pvDisplayInvalidateRegion_cases d env x y width height with
    ⟨-, h⟩ | ⟨-, -, h⟩ | ⟨-, -, -, h⟩ | ⟨-, hroom, -, h⟩ <;> rw [h]
  · exact ⟨hi.fifo, hi.catchUp⟩
  · exact hi
  · exact hi
  · refine DirtyRects.write_inv hi _ hroom fun h32 => ?_
    simp only [h32, if_true]

/-- A data event keeps the invariant. -/
theorem DirtyRects.event_inv {d : DirtyRects} (hi : d.Inv) (isOpen : Bool) :
    (handleDirtyRectangleEvent d isOpen).Inv := by
  obtain ⟨pending, hfifo, hring⟩ := hi.fifo
  obtain ⟨k, -, hring', hcalls⟩ := handleDirtyRectangleEvent_records d isOpen hring
  refine ⟨⟨pending.drop k, ?_, hring'⟩, fun hcap => hi.catchUp ?_⟩
  · have hw : (handleDirtyRectangleEvent d isOpen).written = d.written := rfl
    simp only [hcalls, hw, List.map_append, List.map_map, List.append_assoc, ← hfifo]
    simp [Function.comp_def, List.take_append_drop]
  · have hcap' : (handleDirtyRectangleEvent d isOpen).capacity = d.capacity := rfl
    have hle : (rectBytes (pending.drop k)).length ≤ d.ring.length := by
      simp only [hring, length_rectBytes, List.length_drop]; omega
    rw [hring', hcap'] at hcap
    omega

/-- Every step keeps the invariant. -/
theorem DirtyRects.step_inv {d : DirtyRects} (hi : d.Inv) (step : DirtyRectStep) :
    (d.step step).Inv := by
  cases step with
  | invalidateRegion x y width height env => exact DirtyRects.invalidate_inv hi env x y width height
  | changeResolution => exact ⟨hi.fifo, hi.catchUp⟩
  | rectangleEvent isOpen => exact DirtyRects.event_inv hi isOpen
  | registerHandler => exact ⟨hi.fifo, hi.catchUp⟩

/-- Every run keeps the invariant. -/
theorem DirtyRects.run_inv {d : DirtyRects} (steps : List DirtyRectStep) (hi : d.Inv) :
    (d.run steps).Inv := by
  induction steps generalizing d with
  | nil => exact hi
  | cons step steps ih => exact ih (DirtyRects.step_inv hi step)

/-- `__handle_dirty_rectangle_event` does not look at the handler: with none registered, a
dirty rectangle is passed to a call through the NULL pointer. -/
theorem DirtyRects.rectangle_event_calls_null_handler :
    ((DirtyRects.init 64 640 480).run
      [.invalidateRegion 1 2 3 4 ⟨0, 0⟩, .rectangleEvent true]).calls = [(none, ⟨1, 2, 3, 4⟩)] := by
  decide

end PvDisplayHelper
