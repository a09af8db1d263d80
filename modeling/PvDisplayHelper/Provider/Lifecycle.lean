import PvDisplayHelper.Provider.Operations

/-!
# PV display helper — the provider side over a program's lifetime

A program makes providers (`create_pv_display_provider_with_conn_id`, which opens the control
channel in `__open_control_connection`), makes displays through them
(`provider_create_display`), works on the displays, and tears them down
(`provider_destroy_display`, `provider_destroy`). Each of these calls acquires or releases
memory (`pv_helper_malloc` / `pv_helper_free`) and IVC connections (`libivc_connect_with_id` /
`libivc_disconnect`), and every error path is meant to release what the call acquired.

The model records every allocator and transport call with the object it was made for, and a
`Resource` view says what each call acquires or releases.

* `providerCreateDisplay_balanced`, `createPvDisplayProviderWithConnId_balanced` — each
  constructor, on every path, leaves acquired exactly what the object it returns holds.
* `DisplaySession.step_display` — the display operations write only the geometry and the
  cursor's hot spot and visibility.
* `ProviderWorld.run_resources` — over every run of the provider-side API, every object has
  acquired exactly what it has released and what it still holds, and every live display is
  usable.
-/

namespace PvDisplayHelper

/-! ## Resources -/

/-- What an object can hold: its allocation, a provider's control channel, or a display's
client. -/
inductive Resource where
  | memory
  | controlChannel
  | client (c : IvcClient)
  deriving DecidableEq, Repr

/-- The calls a provider makes for itself: its allocation and its control channel. -/
inductive ControlCall where
  | malloc (ok : Bool)
  | connect (rc : Int)
  | registerEventCallbacks (rc : Int)
  | disconnect
  | free
  deriving DecidableEq, Repr

/-- A call on the allocator or the transport, made for a provider or for a display. -/
inductive ObjectCall where
  | provider (call : ControlCall)
  | display (call : CreateCall)
  deriving DecidableEq, Repr

/-- What a call acquires: memory from a `pv_helper_malloc` that succeeded, a connection from a
`libivc_connect_with_id` that returned 0. -/
def ObjectCall.acquired : ObjectCall → Option Resource
  | .provider (.malloc true) | .display (.malloc true) => some .memory
  | .provider (.connect rc) => if rc = 0 then some .controlChannel else none
  | .display (.connect c rc) => if rc = 0 then some (.client c) else none
  | _ => none

/-- What a call releases. -/
def ObjectCall.released : ObjectCall → Option Resource
  | .provider .free | .display .free => some .memory
  | .provider .disconnect => some .controlChannel
  | .display (.disconnect c) => some (.client c)
  | _ => none

/-- Per resource, the calls acquired what they released and what is still held. -/
def Balanced (calls : List ObjectCall) (held : List Resource) : Prop :=
  ∀ r, (calls.filterMap ObjectCall.acquired).count r =
    (calls.filterMap ObjectCall.released).count r + held.count r

/-- Two balanced call lists in a row hold what the two hold together. -/
theorem Balanced.append {a b : List ObjectCall} {ha hb : List Resource} (h₁ : Balanced a ha)
    (h₂ : Balanced b hb) : Balanced (a ++ b) (ha ++ hb) := fun r => by
  have := h₁ r
  have := h₂ r
  simp only [List.filterMap_append, List.count_append]
  omega

/-- Balance depends only on how often each resource is held. -/
theorem Balanced.of_count {calls : List ObjectCall} {h h' : List Resource} (hb : Balanced calls h)
    (hc : ∀ r, h.count r = h'.count r) : Balanced calls h' := fun r => (hb r).trans (by rw [hc])

/-- The resources a display holds: its allocation and its connections. -/
def PvDisplay.held (d : PvDisplay) : List Resource :=
  .memory :: (d.eventConnection.toList ++ d.framebufferConnection.toList ++
    d.dirtyRectanglesConnection.toList ++ d.cursorImageConnection.toList).map .client

/-! ## Creating a display -/

section Create

variable (arch : Arch)

/-- `__open_outgoing_connection` holds the connection it returns and nothing else. -/
theorem openOutgoingConnection_balanced (env : ChannelEnv) (client : IvcClient) :
    let r := openOutgoingConnection env client
    Balanced (r.2.2.map .display) (r.2.1.toList.map .client) := by
  intro r
  unfold r openOutgoingConnection
  by_cases h : env.connectRc = 0 <;>
    simp [h, Balanced, ObjectCall.acquired, ObjectCall.released]

/-- The cursor connection acquires what it leaves in `cursor_image_connection`, and writes only
that field and the cursor. -/
theorem openCursorImageConnection_balanced (env : ChannelEnv) (d : PvDisplay) (port : UInt16) :
    let r := openCursorImageConnection arch env d port
    Balanced (r.2.2.map .display) (r.2.1.cursorImageConnection.toList.map .client) ∧
      ∃ conn cursor, r.2.1 = { d with cursorImageConnection := conn, cursor := cursor } := by
  by_cases hc : env.connectRc = 0 <;> by_cases hl : env.localBufferRc = 0 <;>
    simp only [openCursorImageConnection, openOutgoingConnection, hc, hl, ne_eq,
      not_true_eq_false, not_false_eq_true, if_true, if_false] <;>
    exact ⟨by simp [Balanced, ObjectCall.acquired, ObjectCall.released, hc], _, _, rfl⟩

/-- `__create_shared_framebuffer` holds the framebuffer connection it returns, which is also the framebuffer. -/
theorem createSharedFramebuffer_balanced (env : ChannelEnv) (port : UInt16)
    (displaySize : UInt32) :
    let r := createSharedFramebuffer arch env port displaySize
    Balanced (r.2.2.map .display) (r.2.1.toList.map .client) ∧ r.1 = r.2.1 := by
  by_cases hc : env.connectRc = 0 <;> by_cases hl : env.localBufferRc = 0 <;>
    simp only [createSharedFramebuffer, hc, hl, ne_eq, not_true_eq_false, not_false_eq_true,
      if_true, if_false] <;>
    exact ⟨by simp [Balanced, ObjectCall.acquired, ObjectCall.released, hc], trivial⟩

/-- The support connections acquire what they leave in the event, dirty-rectangle and cursor
connections, from a display with neither of the last two; the framebuffer connection stays. -/
theorem createPvDisplaySupportConnections_balanced (env : Channel → ChannelEnv)
    (request : DhAddDisplay) (d : PvDisplay) (hdr : d.dirtyRectanglesConnection = none)
    (hcu : d.cursorImageConnection = none) :
    let r := createPvDisplaySupportConnections arch env request d
    Balanced (r.2.2.map .display) ((r.2.1.eventConnection.toList ++
      r.2.1.dirtyRectanglesConnection.toList ++ r.2.1.cursorImageConnection.toList).map .client) ∧
      r.2.1.framebufferConnection = d.framebufferConnection := by
  have hev := openOutgoingConnection_balanced (env .event)
    ⟨.event, request.eventPort.toUInt16, eventRingPages⟩
  have hdr' := openOutgoingConnection_balanced (env .dirtyRectangles)
    ⟨.dirtyRectangles, request.dirtyRectanglesPort.toUInt16, dirtyRectanglesPages⟩
  dsimp only [createPvDisplaySupportConnections]
  split
  · exact ⟨by simpa [hdr, hcu] using hev, rfl⟩
  · by_cases hd : request.dirtyRectanglesPort = 0 <;> by_cases hc : request.cursorBitmapPort = 0 <;>
      simp only [hd, hc, ne_eq, not_true_eq_false, not_false_eq_true, if_true, if_false]
    · exact ⟨by simpa [hdr, hcu] using hev, trivial⟩
    · obtain ⟨hb, conn, cursor, heq⟩ := openCursorImageConnection_balanced arch (env .cursorImage)
        { d with eventConnection := (openOutgoingConnection (env .event)
          ⟨.event, request.eventPort.toUInt16, eventRingPages⟩).2.1 } request.cursorBitmapPort.toUInt16
      rw [heq] at hb ⊢
      exact ⟨by simpa [hdr] using hev.append hb, rfl⟩
    · exact ⟨by simpa [hcu] using hev.append hdr', trivial⟩
    · obtain ⟨hb, conn, cursor, heq⟩ := openCursorImageConnection_balanced arch (env .cursorImage)
        { d with
          eventConnection := (openOutgoingConnection (env .event)
            ⟨.event, request.eventPort.toUInt16, eventRingPages⟩).2.1,
          dirtyRectanglesConnection := (openOutgoingConnection (env .dirtyRectangles)
            ⟨.dirtyRectangles, request.dirtyRectanglesPort.toUInt16, dirtyRectanglesPages⟩).2.1 }
        request.cursorBitmapPort.toUInt16
      rw [heq] at hb ⊢
      exact ⟨by simpa using (hev.append hdr').append hb, rfl⟩

/-- Disconnects acquire nothing. -/
theorem filterMap_acquired_disconnect (cs : List IvcClient) :
    cs.filterMap (ObjectCall.acquired ∘ ObjectCall.display ∘ CreateCall.disconnect) = [] :=
  List.filterMap_eq_nil_iff.2 fun _ _ => rfl

/-- Disconnects release the clients they name. -/
theorem filterMap_released_disconnect (cs : List IvcClient) :
    cs.filterMap (ObjectCall.released ∘ ObjectCall.display ∘ CreateCall.disconnect) =
      cs.map .client :=
  congrFun (List.filterMap_eq_map Resource.client) cs

/-- `pv_display_destroy` releases everything a display holds. -/
theorem Balanced.destroy {calls : List ObjectCall} {d : PvDisplay} (h : Balanced calls d.held) :
    Balanced (calls ++ (pvDisplayDestroy d).map .display) [] := fun r => by
  have := h r
  simp only [pvDisplayDestroy, PvDisplay.held, List.map_append, List.map_map, List.filterMap_append,
    List.filterMap_map, filterMap_acquired_disconnect, filterMap_released_disconnect,
    List.count_append, List.count_cons] at this ⊢
  simp only [List.filterMap_cons, List.filterMap_nil, Function.comp, ObjectCall.acquired,
    ObjectCall.released, List.count_nil, List.count_cons] at this ⊢
  omega

/-- **Creating a display leaks nothing.** On each of its paths, `provider_create_display`
leaves acquired exactly what the display it returns holds, and nothing when it returns none. -/
theorem providerCreateDisplay_balanced (env : CreateEnv) (request : DhAddDisplay)
    (width height stride : UInt32) :
    let r := providerCreateDisplay arch env request width height stride
    Balanced (r.2.2.map .display) ((r.2.1.map PvDisplay.held).getD []) := by
  have hmem : Balanced [.display (.malloc true)] [.memory] := by
    simp [Balanced, ObjectCall.acquired, ObjectCall.released]
  dsimp only [providerCreateDisplay]
  cases validateAddDisplayRequest request
  · simp [Balanced]
  cases env.mallocOk
  · simp [Balanced, ObjectCall.acquired, ObjectCall.released]
  obtain ⟨hfb, hptr⟩ := createSharedFramebuffer_balanced arch (env.channel .framebuffer)
    request.framebufferPort.toUInt16
    (UInt32.ofNat (newDisplay request width height stride).framebufferSize)
  generalize createSharedFramebuffer arch (env.channel .framebuffer)
    request.framebufferPort.toUInt16
    (UInt32.ofNat (newDisplay request width height stride).framebufferSize) = fb at hfb hptr ⊢
  obtain ⟨ptr, conn, calls⟩ := fb
  dsimp only at hfb hptr ⊢
  subst hptr
  simp only [Bool.not_true, Bool.false_eq_true, if_false]
  split
  · dsimp only
    simp only [List.map_cons, List.map_append]
    refine Balanced.destroy ((hmem.append hfb).of_count fun r => ?_)
    cases ptr <;> simp_all [PvDisplay.held, newDisplay]
  · generalize hd : { newDisplay request width height stride with
      framebuffer := ptr, framebufferConnection := ptr } = d
    obtain ⟨hsc, hfbc⟩ := createPvDisplaySupportConnections_balanced arch env.channel request d
      (by rw [← hd]; rfl) (by rw [← hd]; rfl)
    rw [show d.framebufferConnection = ptr by rw [← hd]] at hfbc
    generalize createPvDisplaySupportConnections arch env.channel request d = sc at hsc hfbc ⊢
    have hall := (hmem.append hfb).append hsc
    have hcount : ∀ r, ([Resource.memory] ++ ptr.toList.map Resource.client ++
        (sc.2.1.eventConnection.toList ++ sc.2.1.dirtyRectanglesConnection.toList ++
          sc.2.1.cursorImageConnection.toList).map Resource.client).count r =
        sc.2.1.held.count r := by
      intro r
      simp only [PvDisplay.held, hfbc, List.map_append, List.count_append, List.count_cons,
        List.count_nil, List.cons_append, List.nil_append]
      omega
    split
    · dsimp only
      simp only [List.map_cons, List.map_append]
      exact Balanced.destroy (hall.of_count hcount)
    · dsimp only
      simp only [List.map_cons, List.map_append]
      exact hall.of_count hcount

end Create

/-! ## A provider's own resources -/

/-- What the allocator and the transport answer during one
`create_pv_display_provider_with_conn_id`: whether `pv_helper_malloc` finds memory, and the
return codes of `libivc_connect_with_id` and `libivc_register_event_callbacks` on the control
channel. -/
structure ProviderEnv where
  mallocOk : Bool
  connectRc : Int
  registerRc : Int
  deriving DecidableEq, Repr

/-- `__open_control_connection(provider)`: a failed registration disconnects the channel
again. -/
def openControlConnection (env : ProviderEnv) : Int × List ControlCall :=
  if env.connectRc ≠ 0 then (env.connectRc, [.connect env.connectRc])
  else if env.registerRc ≠ 0 then
    (env.registerRc, [.connect 0, .registerEventCallbacks env.registerRc, .disconnect])
  else (0, [.connect 0, .registerEventCallbacks 0])

/-- `create_pv_display_provider_with_conn_id(display_provider, display_domain, control_port,
conn_id)`: the return code, whether `*display_provider` is a new provider, and the calls. -/
def createPvDisplayProviderWithConnId (env : ProviderEnv) : Int × Bool × List ControlCall :=
  if !env.mallocOk then (-enomem, false, [.malloc false])
  else
    let r := openControlConnection env
    if r.1 ≠ 0 then (-enxio, false, .malloc true :: r.2 ++ [.free])
    else (0, true, .malloc true :: r.2)

/-- `provider_destroy(provider)`: the control channel, if set, is disconnected, then the
provider freed. -/
def providerDestroy (controlChannel : Option Link) : List ControlCall :=
  controlChannel.toList.map (fun _ => .disconnect) ++ [.free]

/-- The resources a provider holds. -/
def providerHeld : List Resource := [.memory, .controlChannel]

/-- The constructor leaves acquired exactly what the provider it returns holds. -/
theorem createPvDisplayProviderWithConnId_balanced (env : ProviderEnv) :
    let r := createPvDisplayProviderWithConnId env
    Balanced (r.2.2.map .provider) (if r.2.1 then providerHeld else []) := by
  by_cases hm : env.mallocOk <;> by_cases hc : env.connectRc = 0 <;>
    by_cases hr : env.registerRc = 0 <;>
    simp [createPvDisplayProviderWithConnId, openControlConnection, hm, hc, hr, Balanced,
      ObjectCall.acquired, ObjectCall.released, providerHeld, List.count_cons, Nat.add_comm]

/-- `provider_destroy` releases what a provider holds. -/
theorem Balanced.providerDestroy {calls : List ObjectCall} (l : Link)
    (h : Balanced calls providerHeld) :
    Balanced (calls ++ (providerDestroy (some l)).map .provider) [] := fun r => by
  have := h r
  simp only [PvDisplayHelper.providerDestroy, providerHeld, Option.toList_some, List.map_cons,
    List.map_nil, List.cons_append, List.nil_append, List.filterMap_append, List.filterMap_cons,
    List.filterMap_nil, ObjectCall.acquired, ObjectCall.released, List.count_append,
    List.count_cons, List.count_nil] at this ⊢
  omega

/-! ## The display operations -/

/-- A display operation writes only the geometry and the cursor's hot spot and visibility. -/
theorem DisplaySession.step_display (s : DisplaySession) (op : DisplayOp) :
    ∃ (width height stride x y : UInt32) (visible : Bool),
      let cursor := { s.display.cursor with hotspotX := x, hotspotY := y, visible := visible }
      (s.step op).display =
        { s.display with width := width, height := height, stride := stride, cursor := cursor } := by
  cases op <;>
    simp only [step, pvDisplaySetCursorHotspot, pvDisplaySetCursorVisibility, pvDisplayMoveCursor,
      pvDisplayLoadCursorImage, pvDisplayReconnect_display] <;>
    repeat' split
  all_goals exact ⟨_, _, _, _, _, _, rfl⟩

/-- No display operation changes what the display holds. -/
theorem DisplaySession.step_held (s : DisplaySession) (op : DisplayOp) :
    (s.step op).display.held = s.display.held := by
  obtain ⟨_, _, _, _, _, _, h⟩ := s.step_display op
  rw [h]
  rfl

/-! ## A program's provider side -/

/-- A pointer the program holds: the object made by the `n`-th constructor call of the run. -/
abbrev ObjId := Nat

/-- An object table with one entry replaced. -/
def ObjMap.set {α : Type} (f : ObjId → Option α) (o : ObjId) (x : Option α) : ObjId → Option α :=
  fun o' => if o' = o then x else f o'

/-- Reading an object map after setting one entry. -/
@[simp] theorem ObjMap.set_apply {α : Type} (f : ObjId → Option α) (o o' : ObjId)
    (x : Option α) : ObjMap.set f o x o' = if o' = o then x else f o' := rfl

/-- The calls made for object `o`. -/
def callsFor (o : ObjId) (calls : List (ObjId × ObjectCall)) : List ObjectCall :=
  calls.filterMap fun e => if e.1 = o then some e.2 else none

/-- Calls tagged with object `n` count for `n` only. -/
theorem callsFor_append_tag {α : Type} (o n : ObjId) (calls : List (ObjId × ObjectCall))
    (f : α → ObjectCall) (cs : List α) :
    callsFor o (calls ++ cs.map fun c => (n, f c)) =
      callsFor o calls ++ if o = n then cs.map f else [] := by
  unfold callsFor
  rw [List.filterMap_append, List.filterMap_map]
  by_cases h : o = n
  · subst h
    simp only [Function.comp_def, if_true]
    exact congrArg _ (congrFun (List.filterMap_eq_map f) cs)
  · simp [Function.comp_def, h, Ne.symm h, List.filterMap_eq_nil_iff]

/-- The provider side of a program: the live providers, each with its control channel, the live
displays, and every allocator and transport call so far with the object it was made for. -/
structure ProviderWorld where
  next : ObjId
  providers : ObjId → Option Link
  displays : ObjId → Option DisplaySession
  calls : List (ObjId × ObjectCall)

/-- No object yet. -/
def ProviderWorld.init : ProviderWorld := ⟨0, fun _ => none, fun _ => none, []⟩

/-- What a program does on the provider side. An operation on an object that is not live, a use
after free, is outside the model: the step ignores it. -/
inductive ProviderOp where
  /-- `create_pv_display_provider_with_conn_id`, with a control ring of `capacity` bytes. -/
  | createProvider (env : ProviderEnv) (capacity : Nat)
  /-- `provider->destroy(provider)`. -/
  | destroyProvider (p : ObjId)
  /-- `provider->create_display(provider, &display, ...)`; the display's event ring holds
  `capacity` bytes and its cursor buffer starts as `cursorBuffer`. -/
  | createDisplay (p : ObjId) (arch : Arch) (env : CreateEnv) (request : DhAddDisplay)
      (width height stride : UInt32) (capacity : Nat) (cursorBuffer : Nat → UInt8)
  /-- `provider->destroy_display(provider, display)`. -/
  | destroyDisplay (p d : ObjId) (env : SendEnv)
  /-- One of a display's own operations. -/
  | displayOp (d : ObjId) (op : DisplayOp)

/-- One operation. -/
def ProviderWorld.step (w : ProviderWorld) : ProviderOp → ProviderWorld
  | .createProvider env capacity =>
    let r := createPvDisplayProviderWithConnId env
    { w with
      next := w.next + 1
      providers := ObjMap.set w.providers w.next
        (if r.2.1 then some (Session.init capacity).link else none)
      calls := w.calls ++ r.2.2.map fun c => (w.next, .provider c) }
  | .destroyProvider p =>
    match w.providers p with
    | some l =>
      { w with
        providers := ObjMap.set w.providers p none
        calls := w.calls ++ (providerDestroy (some l)).map fun c => (p, .provider c) }
    | none => w
  | .createDisplay p arch env request width height stride capacity cursorBuffer =>
    if (w.providers p).isSome then
      let r := providerCreateDisplay arch env request width height stride
      { w with
        next := w.next + 1
        displays := ObjMap.set w.displays w.next
          (r.2.1.map fun d => ⟨d, (Session.init capacity).link, cursorBuffer⟩)
        calls := w.calls ++ r.2.2.map fun c => (w.next, .display c) }
    else w
  | .destroyDisplay p d env =>
    match w.providers p, w.displays d with
    | some l, some s =>
      let r := providerDestroyDisplay env l s.display
      { w with
        providers := ObjMap.set w.providers p (some r.2.1)
        displays := ObjMap.set w.displays d none
        calls := w.calls ++ r.2.2.map fun c => (d, .display c) }
    | _, _ => w
  | .displayOp d op =>
    { w with displays := ObjMap.set w.displays d ((w.displays d).map (·.step op)) }

/-- A run of operations. -/
def ProviderWorld.run (w : ProviderWorld) (ops : List ProviderOp) : ProviderWorld :=
  ops.foldl ProviderWorld.step w

/-- What object `o` holds: a live provider's allocation and control channel, a live display's
allocation and connections. -/
def ProviderWorld.held (w : ProviderWorld) (o : ObjId) : List Resource :=
  (if (w.providers o).isSome then providerHeld else []) ++
    ((w.displays o).map fun s => s.display.held).getD []

/-- The run invariant: objects not made yet have no calls, an id names one object, every
object's calls balance against what it holds, and every live display is usable. -/
structure ProviderWorld.Inv (w : ProviderWorld) : Prop where
  fresh : ∀ o, w.next ≤ o → callsFor o w.calls = [] ∧ w.providers o = none ∧ w.displays o = none
  disjoint : ∀ o, w.providers o = none ∨ w.displays o = none
  balanced : ∀ o, Balanced (callsFor o w.calls) (w.held o)
  usable : ∀ o s, w.displays o = some s → s.display.Usable

/-- The empty world keeps the invariant. -/
theorem ProviderWorld.init_inv : ProviderWorld.init.Inv where
  fresh _ _ := ⟨rfl, rfl, rfl⟩
  disjoint _ := .inl rfl
  balanced _ _ := rfl
  usable _ _ h := nomatch h

/-- A display `provider_create_display` returns is usable. -/
theorem providerCreateDisplay_usable_of_some {arch : Arch} {env : CreateEnv}
    {request : DhAddDisplay} {width height stride : UInt32} {d : PvDisplay}
    (h : (providerCreateDisplay arch env request width height stride).2.1 = some d) :
    d.Usable := by
  obtain ⟨-, hok, hfail⟩ := providerCreateDisplay_spec arch env request width height stride
  by_cases h0 : (providerCreateDisplay arch env request width height stride).1 = 0
  · obtain ⟨d', hd', hu⟩ := hok h0
    rw [h, Option.some.injEq] at hd'
    exact hd' ▸ hu
  · rw [(hfail h0).1] at h
    cases h

section Steps

variable {w : ProviderWorld}

/-- Every live provider has an id below the next fresh one. -/
theorem ProviderWorld.Inv.lt_of_provider (hi : w.Inv) {o : ObjId} {l : Link}
    (h : w.providers o = some l) : o < w.next :=
  Nat.lt_of_not_le fun ho => by simp [(hi.fresh o ho).2.1] at h

/-- Every live display has an id below the next fresh one. -/
theorem ProviderWorld.Inv.lt_of_display (hi : w.Inv) {o : ObjId} {s : DisplaySession}
    (h : w.displays o = some s) : o < w.next :=
  Nat.lt_of_not_le fun ho => by simp [(hi.fresh o ho).2.2] at h

/-- A step that changes only the objects `touched` names, all made by then, keeps the invariant
for every other object; the step lemmas prove it for the touched ones. -/
theorem ProviderWorld.Inv.frame (hi : w.Inv) {w' : ProviderWorld} (touched : ObjId → Prop)
    (hnext : w.next ≤ w'.next) (hlt : ∀ o, touched o → o < w'.next)
    (hsame : ∀ o, ¬touched o → w'.providers o = w.providers o ∧ w'.displays o = w.displays o ∧
      callsFor o w'.calls = callsFor o w.calls)
    (hdisjoint : ∀ o, touched o → w'.providers o = none ∨ w'.displays o = none)
    (hbalanced : ∀ o, touched o → Balanced (callsFor o w'.calls) (w'.held o))
    (husable : ∀ o s, touched o → w'.displays o = some s → s.display.Usable) : w'.Inv where
  fresh o ho := by
    obtain ⟨hp, hd, hc⟩ := hsame o fun ht => Nat.not_lt.2 ho (hlt o ht)
    rw [hp, hd, hc]
    exact hi.fresh o (Nat.le_trans hnext ho)
  disjoint o := by
    by_cases ht : touched o
    · exact hdisjoint o ht
    · obtain ⟨hp, hd, -⟩ := hsame o ht
      rw [hp, hd]
      exact hi.disjoint o
  balanced o := by
    by_cases ht : touched o
    · exact hbalanced o ht
    · obtain ⟨hp, hd, hc⟩ := hsame o ht
      rw [hc, ProviderWorld.held, hp, hd]
      exact hi.balanced o
  usable o s hs := by
    by_cases ht : touched o
    · exact husable o s ht hs
    · exact hi.usable o s ((hsame o ht).2.1 ▸ hs)

/-- `create_pv_display_provider_with_conn_id` keeps the invariant. -/
theorem ProviderWorld.Inv.createProvider (hi : w.Inv) (env : ProviderEnv) (capacity : Nat) :
    (w.step (.createProvider env capacity)).Inv := by
  obtain ⟨hc, -, hd⟩ := hi.fresh w.next (Nat.le_refl _)
  refine hi.frame (· = w.next) (Nat.le_succ _) (fun o h => h ▸ Nat.lt_succ_self _)
    (fun o ho => by simp [ProviderWorld.step, callsFor_append_tag, ho])
    (fun o h => .inr (h ▸ hd)) (fun o h => ?_) (fun o s _ hs => hi.usable o s hs)
  subst h
  have hb := createPvDisplayProviderWithConnId_balanced env
  cases hr : (createPvDisplayProviderWithConnId env).2.1 <;>
    simpa [ProviderWorld.step, ProviderWorld.held, callsFor_append_tag, hc, hd, hr] using hb

/-- `provider_destroy` keeps the invariant. -/
theorem ProviderWorld.Inv.destroyProvider (hi : w.Inv) (p : ObjId) :
    (w.step (.destroyProvider p)).Inv := by
  cases hp : w.providers p with
  | none => simpa [ProviderWorld.step, hp] using hi
  | some l =>
    have hd : w.displays p = none := (hi.disjoint p).resolve_left (by simp [hp])
    rw [show w.step (.destroyProvider p) = { w with
        providers := ObjMap.set w.providers p none
        calls := w.calls ++ (providerDestroy (some l)).map fun c => (p, .provider c) } by
      simp [ProviderWorld.step, hp]]
    refine hi.frame (· = p) (Nat.le_refl _) (fun o h => by rw [h]; exact hi.lt_of_provider hp)
      (fun o ho => by simp [callsFor_append_tag, ho]) (fun o h => .inr (by rw [h]; exact hd))
      (fun o h => ?_) (fun o s _ hs => hi.usable o s hs)
    subst h
    have hb := hi.balanced o
    simp only [ProviderWorld.held, hp, hd, Option.isSome_some, if_true, Option.map_none',
      Option.getD_none, List.append_nil] at hb
    simpa [ProviderWorld.held, callsFor_append_tag, hd] using hb.providerDestroy l

/-- `provider_create_display` keeps the invariant. -/
theorem ProviderWorld.Inv.createDisplay (hi : w.Inv) (p : ObjId) (arch : Arch) (env : CreateEnv)
    (request : DhAddDisplay) (width height stride : UInt32) (capacity : Nat)
    (cursorBuffer : Nat → UInt8) :
    (w.step (.createDisplay p arch env request width height stride capacity cursorBuffer)).Inv := by
  by_cases hp : (w.providers p).isSome
  · obtain ⟨hc, hpn, -⟩ := hi.fresh w.next (Nat.le_refl _)
    simp only [ProviderWorld.step, hp, if_true]
    refine hi.frame (· = w.next) (Nat.le_succ _) (fun o h => h ▸ Nat.lt_succ_self _)
      (fun o ho => by simp [callsFor_append_tag, ho]) (fun o h => .inl (h ▸ hpn))
      (fun o h => ?_) (fun o s h hs => ?_)
    · subst h
      simpa [ProviderWorld.held, callsFor_append_tag, hc, hpn, Option.map_map,
        Function.comp_def] using providerCreateDisplay_balanced arch env request width height stride
    · subst h
      simp only [ObjMap.set_apply, if_true, Option.map_eq_some'] at hs
      obtain ⟨d, hd, rfl⟩ := hs
      exact providerCreateDisplay_usable_of_some hd
  · simpa [ProviderWorld.step, hp] using hi

/-- `provider_destroy_display` keeps the invariant. -/
theorem ProviderWorld.Inv.destroyDisplay (hi : w.Inv) (p d : ObjId) (env : SendEnv) :
    (w.step (.destroyDisplay p d env)).Inv := by
  cases hp : w.providers p with
  | none => simpa [ProviderWorld.step, hp] using hi
  | some l =>
    cases hs : w.displays d with
    | none => simpa [ProviderWorld.step, hp, hs] using hi
    | some s =>
      have hdp : w.providers d = none := (hi.disjoint d).resolve_right (by simp [hs])
      have hpd : w.displays p = none := (hi.disjoint p).resolve_left (by simp [hp])
      have hne : p ≠ d := fun h => by simp [h, hdp] at hp
      simp only [ProviderWorld.step, hp, hs]
      refine hi.frame (fun o => o = p ∨ o = d) (Nat.le_refl _)
        (fun o h => h.elim (fun h => by rw [h]; exact hi.lt_of_provider hp)
          (fun h => by rw [h]; exact hi.lt_of_display hs))
        (fun o ho => by simp [callsFor_append_tag, not_or.1 ho]) (fun o h => .inr ?_)
        (fun o h => ?_) (fun o s' h hs' => ?_)
      · rcases h with rfl | rfl <;> simp [hne, hpd]
      · rcases h with rfl | rfl
        · simpa [ProviderWorld.held, callsFor_append_tag, hne, hp] using hi.balanced o
        · have hb := hi.balanced o
          simp only [ProviderWorld.held, hdp, hs, Option.isSome_none, Bool.false_eq_true,
            if_false, List.nil_append, Option.map_some', Option.getD_some] at hb
          simpa [ProviderWorld.held, callsFor_append_tag, Ne.symm hne, hdp, providerDestroyDisplay]
            using hb.destroy
      · rcases h with rfl | rfl
        · simp [hne, hpd] at hs'
        · simp at hs'

/-- Every display operation keeps the invariant. -/
theorem ProviderWorld.Inv.displayOp (hi : w.Inv) (d : ObjId) (op : DisplayOp) :
    (w.step (.displayOp d op)).Inv := by
  cases hs : w.displays d with
  | none =>
    refine hi.frame (fun _ => False) (Nat.le_refl _) (fun _ h => h.elim)
      (fun o _ => ⟨rfl, ?_, rfl⟩) (fun _ h => h.elim) (fun _ h => h.elim) (fun _ _ h => h.elim)
    by_cases hod : o = d <;> simp [ProviderWorld.step, hod, hs]
  | some s =>
    refine hi.frame (· = d) (Nat.le_refl _) (fun o h => by rw [h]; exact hi.lt_of_display hs)
      (fun o ho => by simp [ProviderWorld.step, ho]) (fun o h => .inl ?_) (fun o h => ?_)
      (fun o s' h hs' => ?_) <;> subst h
    · exact (hi.disjoint o).resolve_right (by simp [hs])
    · simpa [ProviderWorld.step, ProviderWorld.held, hs, DisplaySession.step_held] using
        hi.balanced o
    · simp only [ProviderWorld.step, ObjMap.set_apply, if_true, hs, Option.map_some',
        Option.some.injEq] at hs'
      exact hs' ▸ (hi.usable o s hs).of_links (s.step_links op)

/-- Every step keeps the invariant. -/
theorem ProviderWorld.Inv.step (hi : w.Inv) : ∀ op, (w.step op).Inv
  | .createProvider env capacity => hi.createProvider env capacity
  | .destroyProvider p => hi.destroyProvider p
  | .createDisplay p arch env request width height stride capacity cursorBuffer =>
    hi.createDisplay p arch env request width height stride capacity cursorBuffer
  | .destroyDisplay p d env => hi.destroyDisplay p d env
  | .displayOp d op => hi.displayOp d op

end Steps

/-- Every run keeps the invariant. -/
theorem ProviderWorld.run_inv (ops : List ProviderOp) :
    ∀ w : ProviderWorld, w.Inv → (w.run ops).Inv := by
  induction ops with
  | nil => exact fun _ h => h
  | cons op ops ih => exact fun w h => ih _ (h.step op)

/-- **No object's resources leak or are released twice.** Over every run of
`create_pv_display_provider_with_conn_id`, `provider_create_display`, the display operations,
`provider_destroy_display` and `provider_destroy`, whatever the allocator and the transport
answer, every object has acquired, per resource, exactly what it has released and what it still
holds: a live provider its allocation and control channel, a live display its allocation and
connections, an object destroyed or never made nothing. Every live display is usable. The
buffers `__send_packet` allocates within one call are not objects' resources here. -/
theorem ProviderWorld.run_resources (ops : List ProviderOp) :
    let w := ProviderWorld.init.run ops
    (∀ o, Balanced (callsFor o w.calls) (w.held o)) ∧
      ∀ o s, w.displays o = some s → s.display.Usable :=
  let hi := ProviderWorld.run_inv ops _ ProviderWorld.init_inv
  ⟨hi.balanced, hi.usable⟩

end PvDisplayHelper
