import PvDisplayHelper.Ivc.Link

/-!
# PV display helper — the listening servers of a display backend

`pv_display_backend_start_servers` makes sure that a server listens on each of the backend's
four ports, the framebuffer's, the event channel's, the dirty rectangles' and the cursor
image's, in that order: it takes one that `libivc_find_listening_server` finds, or starts one
with `libivc_start_listening_server`. When a start fails, it jumps into a chain of labels that
shuts servers down, then clears the four `*_server_listening` flags and returns `-EINVAL`.

The labels are one step off: a failed framebuffer start shuts down the event server, which was
not looked at yet, and a failed event start shuts nothing down, so a framebuffer server that the
call started stays listening. The later labels shut down every earlier server, found or started.

* `pvDisplayBackendStartServers_spec` — what a call does to the listening set: on success it
  adds the four servers; on failure it leaves a sublist of the old set with the framebuffer
  server added, keeps every server it did not look up, and clears the four flags.
-/

namespace PvDisplayHelper

/-! ## Model -/

/-- A listening server, as libivc looks it up here (the connection id is always
`CONNECTIONID_ANY`). -/
structure ServerKey where
  domid : UInt16
  port : UInt32
  deriving DecidableEq, Repr

/-- The fields of a `struct pv_display_backend` that `pv_display_backend_start_servers` reads and
writes; a server pointer is the key of the server it points to. -/
structure BackendServers where
  domid : UInt16
  eventPort : UInt32
  framebufferPort : UInt32
  dirtyRectanglesPort : UInt32
  cursorBitmapPort : UInt32
  framebufferServer : Option ServerKey
  eventServer : Option ServerKey
  dirtyRectanglesServer : Option ServerKey
  cursorImageServer : Option ServerKey
  framebufferServerListening : Bool
  eventServerListening : Bool
  dirtyRectanglesServerListening : Bool
  cursorImageServerListening : Bool
  deriving DecidableEq, Repr

/-- `libivc_find_listening_server`. -/
def findListeningServer (listening : List ServerKey) (key : ServerKey) : Option ServerKey :=
  if key ∈ listening then some key else none

/-- `libivc_start_listening_server`; `starts` says which starts the transport lets succeed. -/
def startListeningServer (starts : ServerKey → Bool) (listening : List ServerKey)
    (key : ServerKey) : Option (List ServerKey) :=
  if starts key then some (key :: listening) else none

/-- `libivc_shutdownIvcServer`, which leaves a NULL server alone. -/
def shutdownIvcServer (listening : List ServerKey) : Option ServerKey → List ServerKey
  | none => listening
  | some key => listening.erase key

/-- One find-else-start block of `pv_display_backend_start_servers`: the server and the listening
set, or `none` when the start fails (the server pointer then keeps the NULL it was found as). -/
def findOrStartServer (starts : ServerKey → Bool) (listening : List ServerKey)
    (key : ServerKey) : Option (ServerKey × List ServerKey) :=
  match findListeningServer listening key with
  | some server => some (server, listening)
  | none => (startListeningServer starts listening key).map (key, ·)

/-- The four server pointers and the four flags, as the code sets them. -/
def BackendServers.withServers (d : BackendServers) (fb ev dr cu : Option ServerKey)
    (flag : Bool) : BackendServers :=
  { d with
    framebufferServer := fb, eventServer := ev, dirtyRectanglesServer := dr,
    cursorImageServer := cu, cursorImageServerListening := flag,
    dirtyRectanglesServerListening := flag, framebufferServerListening := flag,
    eventServerListening := flag }

/-- `pv_display_backend_start_servers`, from its first `libivc_find_listening_server` to its
return, each failed start jumping to its label as the code does. -/
def pvDisplayBackendStartServers (starts : ServerKey → Bool) (d : BackendServers)
    (listening : List ServerKey) : Int × BackendServers × List ServerKey :=
  match findOrStartServer starts listening ⟨d.domid, d.framebufferPort⟩ with
  | none =>
    -- framebuffer_server_fail: tears down the event server
    (-einval, d.withServers none d.eventServer d.dirtyRectanglesServer d.cursorImageServer false,
      shutdownIvcServer listening d.eventServer)
  | some (fb, l₁) =>
  match findOrStartServer starts l₁ ⟨d.domid, d.eventPort⟩ with
  | none =>
    -- event_server_fail: tears down nothing
    (-einval, d.withServers fb none d.dirtyRectanglesServer d.cursorImageServer false, l₁)
  | some (ev, l₂) =>
  match findOrStartServer starts l₂ ⟨d.domid, d.dirtyRectanglesPort⟩ with
  | none =>
    -- dirty_server_fail: tears down the framebuffer server, then the event server
    (-einval, d.withServers fb ev none d.cursorImageServer false,
      shutdownIvcServer (shutdownIvcServer l₂ fb) ev)
  | some (dr, l₃) =>
  match findOrStartServer starts l₃ ⟨d.domid, d.cursorBitmapPort⟩ with
  | none =>
    -- cursor_server_fail: tears down the dirty rectangles server, then falls through
    (-einval, d.withServers fb ev dr none false,
      shutdownIvcServer (shutdownIvcServer (shutdownIvcServer l₃ dr) fb) ev)
  | some (cu, l₄) => (0, d.withServers fb ev dr cu true, l₄)

/-! ## One block -/

/-- A server found or started is the one asked for, and the listening set gains it. -/
theorem findOrStartServer_eq_some {starts : ServerKey → Bool} {l : List ServerKey}
    {key server : ServerKey} {l' : List ServerKey}
    (h : findOrStartServer starts l key = some (server, l')) :
    server = key ∧ l' = l.insert key := by
  unfold findOrStartServer findListeningServer startListeningServer at h
  by_cases hk : key ∈ l
  · simp only [hk, if_true, Option.some.injEq, Prod.mk.injEq] at h
    exact ⟨h.1.symm, by rw [← h.2, List.insert_of_mem hk]⟩
  · by_cases hs : starts key <;>
      simp only [hk, hs, if_false, if_true, Option.map_some', Option.map_none',
        Option.some.injEq, Prod.mk.injEq, reduceCtorEq] at h
    exact ⟨h.1.symm, by rw [← h.2, List.insert_of_not_mem hk]⟩

/-- Inserting keeps every key already listening. -/
theorem sublist_insert (l : List ServerKey) (a : ServerKey) : List.Sublist l (l.insert a) := by
  by_cases h : a ∈ l
  · simp only [List.insert_of_mem h, List.Sublist.refl]
  · simp only [List.insert_of_not_mem h]; exact .cons a (.refl l)

/-- Shutting down a server just found or started leaves at most the servers there were. -/
theorem erase_insert_sublist (l : List ServerKey) (a : ServerKey) :
    List.Sublist ((l.insert a).erase a) l := by
  by_cases h : a ∈ l
  · simp only [List.insert_of_mem h]; exact List.erase_sublist a l
  · simp only [List.insert_of_not_mem h, List.erase_cons_head, List.Sublist.refl]

/-- What the dirty-rectangles label leaves: the framebuffer and event servers, found or
started, shut down. -/
theorem erase_two_sublist (l : List ServerKey) (fb ev : ServerKey) :
    List.Sublist ((((l.insert fb).insert ev).erase fb).erase ev) l := by
  rw [List.erase_comm]
  exact ((erase_insert_sublist _ ev).erase fb).trans (erase_insert_sublist l fb)

/-- What the cursor label leaves: the dirty rectangles server shut down too. -/
theorem erase_three_sublist (l : List ServerKey) (fb ev dr : ServerKey) :
    List.Sublist (((((((l.insert fb).insert ev).insert dr).erase dr).erase fb).erase ev)) l :=
  (((erase_insert_sublist _ dr).erase fb).erase ev).trans (erase_two_sublist l fb ev)

/-- `libivc_shutdownIvcServer` only removes servers. -/
theorem shutdownIvcServer_sublist (l : List ServerKey) (server : Option ServerKey) :
    List.Sublist (shutdownIvcServer l server) l := by
  cases server with
  | none => exact .refl l
  | some key => exact List.erase_sublist key l

/-- Shutting down one server leaves every other one listening. -/
theorem mem_shutdownIvcServer {l : List ServerKey} {k : ServerKey} (hk : k ∈ l)
    {server : Option ServerKey} (hs : server ≠ some k) : k ∈ shutdownIvcServer l server := by
  cases server with
  | none => exact hk
  | some key => exact (List.mem_erase_of_ne fun h => hs (by rw [h])).mpr hk

/-! ## The whole call -/

section Call

variable (starts : ServerKey → Bool) (d : BackendServers) (l : List ServerKey)

/-- The keys of the four servers, in the order the code looks them up. -/
def BackendServers.keys (d : BackendServers) : List ServerKey :=
  [⟨d.domid, d.framebufferPort⟩, ⟨d.domid, d.eventPort⟩, ⟨d.domid, d.dirtyRectanglesPort⟩,
    ⟨d.domid, d.cursorBitmapPort⟩]

/-- The result of a successful call: 0, the four servers and flags set, and the four servers
added to the listening set. -/
def StartSucceeded (r : Int × BackendServers × List ServerKey) : Prop :=
  r.1 = 0 ∧
    r.2.1 = d.withServers (some ⟨d.domid, d.framebufferPort⟩) (some ⟨d.domid, d.eventPort⟩)
      (some ⟨d.domid, d.dirtyRectanglesPort⟩) (some ⟨d.domid, d.cursorBitmapPort⟩) true ∧
    r.2.2 = d.keys.foldl (fun l k => l.insert k) l

/-- The result of a failed call: `-EINVAL`, the four flags cleared, a sublist of the old set
with the framebuffer server added, and every server of the old set kept that is neither one of
the four nor the event server the backend pointed to before the call. -/
def StartFailed (r : Int × BackendServers × List ServerKey) : Prop :=
  r.1 = -einval ∧ r.2.1.framebufferServerListening = false ∧
    r.2.1.eventServerListening = false ∧ r.2.1.dirtyRectanglesServerListening = false ∧
    r.2.1.cursorImageServerListening = false ∧
    List.Sublist r.2.2 (l.insert ⟨d.domid, d.framebufferPort⟩) ∧
    ∀ k ∈ l, k ∉ d.keys → d.eventServer ≠ some k → k ∈ r.2.2

/-- Every failure label returns `-EINVAL` with the four flags cleared, so a failed call is
`StartFailed` as soon as its listening set is. -/
theorem startFailed_intro {fb ev dr cu : Option ServerKey} {L : List ServerKey}
    (hsub : List.Sublist L (l.insert ⟨d.domid, d.framebufferPort⟩))
    (hmem : ∀ k ∈ l, k ≠ ⟨d.domid, d.framebufferPort⟩ → k ≠ ⟨d.domid, d.eventPort⟩ →
      k ≠ ⟨d.domid, d.dirtyRectanglesPort⟩ → d.eventServer ≠ some k → k ∈ L) :
    StartFailed d l (-einval, d.withServers fb ev dr cu false, L) := by
  refine ⟨rfl, rfl, rfl, rfl, rfl, hsub, fun k hk hn he => hmem k hk ?_ ?_ ?_ he⟩ <;>
    exact fun h => hn (h ▸ by simp [BackendServers.keys])

/-- **start_servers.** A call either succeeds, with the four flags set and the four servers
added to the listening set, or fails as `StartFailed` says. -/
theorem pvDisplayBackendStartServers_spec :
    StartSucceeded d l (pvDisplayBackendStartServers starts d l) ∨
      StartFailed d l (pvDisplayBackendStartServers starts d l) := by
  unfold pvDisplayBackendStartServers
  cases h₁ : findOrStartServer starts l ⟨d.domid, d.framebufferPort⟩ with
  | none =>
    -- framebuffer_server_fail
    exact .inr <| startFailed_intro d l
      ((shutdownIvcServer_sublist l _).trans (sublist_insert l _))
      fun k hk _ _ _ he => mem_shutdownIvcServer hk he
  | some p₁ =>
  obtain ⟨_, _⟩ := p₁
  obtain ⟨rfl, rfl⟩ := findOrStartServer_eq_some h₁
  dsimp only
  cases h₂ : findOrStartServer starts _ ⟨d.domid, d.eventPort⟩ with
  | none =>
    -- event_server_fail
    exact .inr <| startFailed_intro d l (.refl _) fun k hk _ _ _ _ => List.mem_insert_of_mem hk
  | some p₂ =>
  obtain ⟨_, _⟩ := p₂
  obtain ⟨rfl, rfl⟩ := findOrStartServer_eq_some h₂
  dsimp only
  cases h₃ : findOrStartServer starts _ ⟨d.domid, d.dirtyRectanglesPort⟩ with
  | none =>
    -- dirty_server_fail
    exact .inr <| startFailed_intro d l ((erase_two_sublist l _ _).trans (sublist_insert l _))
      fun k hk hfb hev _ _ => by simp [shutdownIvcServer, hfb, hev, hk]
  | some p₃ =>
  obtain ⟨_, _⟩ := p₃
  obtain ⟨rfl, rfl⟩ := findOrStartServer_eq_some h₃
  dsimp only
  cases h₄ : findOrStartServer starts _ ⟨d.domid, d.cursorBitmapPort⟩ with
  | none =>
    -- cursor_server_fail
    exact .inr <| startFailed_intro d l ((erase_three_sublist l _ _ _).trans (sublist_insert l _))
      fun k hk hfb hev hdr _ => by simp [shutdownIvcServer, hfb, hev, hdr, hk]
  | some p₄ =>
  obtain ⟨_, _⟩ := p₄
  obtain ⟨rfl, rfl⟩ := findOrStartServer_eq_some h₄
  dsimp only
  exact .inl ⟨rfl, rfl, rfl⟩

end Call

/-- A fresh backend of domain 1, with its event, framebuffer, dirty rectangles and cursor ports
at 1000 to 1003: when the event server fails to start, the framebuffer server the call started
stays listening; when the cursor server fails to start, the three servers that were found
listening are shut down. -/
theorem start_servers_failure_changes_listening_set :
    let d : BackendServers :=
      ⟨1, 1000, 1001, 1002, 1003, none, none, none, none, false, false, false, false⟩
    pvDisplayBackendStartServers (fun k => k.port != 1000) d [] =
        (-einval, d.withServers (some ⟨1, 1001⟩) none none none false, [⟨1, 1001⟩]) ∧
    (pvDisplayBackendStartServers (fun _ => false) d [⟨1, 1001⟩, ⟨1, 1000⟩, ⟨1, 1002⟩]).2.2 = [] := by
  decide

end PvDisplayHelper
