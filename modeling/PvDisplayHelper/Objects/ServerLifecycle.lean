import PvDisplayHelper.Objects.Servers

/-!
# PV display helper — a backend's servers from start to destroy

`consumer_destroy_display` first runs `disconnect_display`, then shuts down each server whose
`*_server_listening` flag is set, and frees the backend. The flags say only that
`pv_display_backend_start_servers` succeeded: a server it found listening, started by another
backend with the same domain and port, is shut down as if it were the backend's own, and a
server a failed call left listening is never shut down.

* `consumerDestroyDisplay_after_start` — after a successful `start_servers`, destroying the
  backend removes exactly its four servers from the listening set, which is the old set again
  when none of them was listening before; after a failed one it shuts nothing down.
* `consumerDestroyDisplay_shared_servers` — a second backend with the same domain and ports
  starts nothing and shares the first one's servers; destroying the first shuts all four down
  while the second's flags still say they listen.
-/

namespace PvDisplayHelper

/-- The server half of `consumer_destroy_display(consumer, display)`, after
`disconnect_display`: each server whose flag is set is shut down, the event server first, then
the dirty rectangles, cursor image and framebuffer servers. The backend is freed next, so what
the call leaves is the listening set. -/
def consumerDestroyDisplayServers (d : BackendServers) (listening : List ServerKey) :
    List ServerKey :=
  let l := if d.eventServerListening then shutdownIvcServer listening d.eventServer
    else listening
  let l := if d.dirtyRectanglesServerListening then shutdownIvcServer l d.dirtyRectanglesServer
    else l
  let l := if d.cursorImageServerListening then shutdownIvcServer l d.cursorImageServer else l
  if d.framebufferServerListening then shutdownIvcServer l d.framebufferServer else l

/-! ## The listening set as a set -/

/-- Inserting into a list without duplicates keeps it so. -/
theorem nodup_insert {l : List ServerKey} (a : ServerKey) (h : l.Nodup) : (l.insert a).Nodup := by
  by_cases ha : a ∈ l
  · rwa [List.insert_of_mem ha]
  · rw [List.insert_of_not_mem ha]
    exact List.nodup_cons.2 ⟨ha, h⟩

/-- A server already listening is found and nothing is started. -/
theorem findOrStartServer_of_mem {starts : ServerKey → Bool} {l : List ServerKey}
    {key : ServerKey} (h : key ∈ l) : findOrStartServer starts l key = some (key, l) := by
  simp [findOrStartServer, findListeningServer, h]

/-! ## How a start ends -/

/-- A call to `start_servers` returns 0 with the four flags set and the four servers inserted
into the listening set, or fails with the four flags cleared. -/
theorem pvDisplayBackendStartServers_cases (starts : ServerKey → Bool) (d : BackendServers)
    (l : List ServerKey) :
    let r := pvDisplayBackendStartServers starts d l
    StartSucceeded d l r ∨ r.1 ≠ 0 ∧ ∃ fb ev dr cu, r.2.1 = d.withServers fb ev dr cu false := by
  have hfail : ∀ fb ev dr cu (L : List ServerKey),
      (-einval, d.withServers fb ev dr cu false, L).1 ≠ 0 ∧ ∃ fb' ev' dr' cu',
        (-einval, d.withServers fb ev dr cu false, L).2.1 = d.withServers fb' ev' dr' cu' false :=
    fun _ _ _ _ _ => ⟨show -einval ≠ 0 by decide, _, _, _, _, rfl⟩
  unfold pvDisplayBackendStartServers
  cases h₁ : findOrStartServer starts l ⟨d.domid, d.framebufferPort⟩ with
  | none => exact .inr (hfail _ _ _ _ _)
  | some p₁ =>
  obtain ⟨_, _⟩ := p₁
  obtain ⟨rfl, rfl⟩ := findOrStartServer_eq_some h₁
  dsimp only
  cases h₂ : findOrStartServer starts _ ⟨d.domid, d.eventPort⟩ with
  | none => exact .inr (hfail _ _ _ _ _)
  | some p₂ =>
  obtain ⟨_, _⟩ := p₂
  obtain ⟨rfl, rfl⟩ := findOrStartServer_eq_some h₂
  dsimp only
  cases h₃ : findOrStartServer starts _ ⟨d.domid, d.dirtyRectanglesPort⟩ with
  | none => exact .inr (hfail _ _ _ _ _)
  | some p₃ =>
  obtain ⟨_, _⟩ := p₃
  obtain ⟨rfl, rfl⟩ := findOrStartServer_eq_some h₃
  dsimp only
  cases h₄ : findOrStartServer starts _ ⟨d.domid, d.cursorBitmapPort⟩ with
  | none => exact .inr (hfail _ _ _ _ _)
  | some p₄ =>
  obtain ⟨_, _⟩ := p₄
  obtain ⟨rfl, rfl⟩ := findOrStartServer_eq_some h₄
  dsimp only
  exact .inl ⟨rfl, rfl, rfl⟩

/-! ## Destroying a started backend -/

section Destroy

variable (d : BackendServers)

/-- The backend as a successful `start_servers` leaves it. -/
theorem consumerDestroyDisplayServers_started {L : List ServerKey} (hL : L.Nodup) :
    let started := d.withServers (some ⟨d.domid, d.framebufferPort⟩) (some ⟨d.domid, d.eventPort⟩)
      (some ⟨d.domid, d.dirtyRectanglesPort⟩) (some ⟨d.domid, d.cursorBitmapPort⟩) true
    (consumerDestroyDisplayServers started L).Nodup ∧
      ∀ k, k ∈ consumerDestroyDisplayServers started L ↔ k ∈ L ∧ k ∉ d.keys := by
  have h₁ := hL.erase ⟨d.domid, d.eventPort⟩
  have h₂ := h₁.erase ⟨d.domid, d.dirtyRectanglesPort⟩
  have h₃ := h₂.erase ⟨d.domid, d.cursorBitmapPort⟩
  simp only [consumerDestroyDisplayServers, BackendServers.withServers, if_true, shutdownIvcServer]
  refine ⟨h₃.erase _, fun k => ?_⟩
  rw [h₃.mem_erase_iff, h₂.mem_erase_iff, h₁.mem_erase_iff, hL.mem_erase_iff]
  simp only [BackendServers.keys, List.mem_cons, List.mem_singleton, List.not_mem_nil, or_false,
    not_or]
  exact ⟨fun ⟨a, b, c, e, f⟩ => ⟨f, a, e, c, b⟩, fun ⟨f, a, e, c, b⟩ => ⟨a, b, c, e, f⟩⟩

/-- Inserting the backend's four keys adds exactly those. -/
theorem mem_keys_insert {l : List ServerKey} {k : ServerKey} :
    k ∈ d.keys.foldl (fun l k => l.insert k) l ↔ k ∈ l ∨ k ∈ d.keys := by
  simp only [BackendServers.keys, List.foldl, List.mem_insert_iff, List.mem_cons,
    List.mem_singleton, List.not_mem_nil, or_false]
  constructor <;> rintro (h | h | h | h | h) <;> simp [h]

/-- Inserting the backend's four keys keeps a listening set free of duplicates. -/
theorem nodup_keys_insert {l : List ServerKey} (hl : l.Nodup) :
    (d.keys.foldl (fun l k => l.insert k) l).Nodup :=
  nodup_insert _ (nodup_insert _ (nodup_insert _ (nodup_insert _ hl)))

end Destroy

/-- **start_servers, then destroy.** From a listening set without duplicates: after a
successful `start_servers`, `consumer_destroy_display` leaves exactly the old set without the
backend's four servers, so the old set itself when none of them was listening before; after a
failed one it shuts nothing down, and whatever the failed call left listening stays. -/
theorem consumerDestroyDisplay_after_start (starts : ServerKey → Bool) (d : BackendServers)
    (l : List ServerKey) (hl : l.Nodup) :
    let r := pvDisplayBackendStartServers starts d l
    let l' := consumerDestroyDisplayServers r.2.1 r.2.2
    (r.1 = 0 → l'.Nodup ∧ ∀ k, k ∈ l' ↔ k ∈ l ∧ k ∉ d.keys) ∧ (r.1 ≠ 0 → l' = r.2.2) := by
  rcases pvDisplayBackendStartServers_cases starts d l with ⟨h0, hd, hL⟩ | ⟨h0, fb, ev, dr, cu, hd⟩
  · refine ⟨fun _ => ?_, fun h => absurd h0 h⟩
    rw [hd]
    obtain ⟨hn, hm⟩ := consumerDestroyDisplayServers_started d (hL ▸ nodup_keys_insert d hl)
    refine ⟨hn, fun k => ?_⟩
    rw [hm, hL, mem_keys_insert]
    exact ⟨fun ⟨h, hk⟩ => ⟨h.resolve_right hk, hk⟩, fun ⟨h, hk⟩ => ⟨.inl h, hk⟩⟩
  · refine ⟨fun h => absurd h h0, fun _ => ?_⟩
    rw [hd]
    rfl

/-- A backend of domain 1 on ports 1000 to 1003, started on an empty set with every start
succeeding, then destroyed. -/
theorem consumerDestroyDisplay_after_start_fresh :
    let d : BackendServers :=
      ⟨1, 1000, 1001, 1002, 1003, none, none, none, none, false, false, false, false⟩
    let r := pvDisplayBackendStartServers (fun _ => true) d []
    let l' := consumerDestroyDisplayServers r.2.1 r.2.2
    ([] : List ServerKey).Nodup ∧
      (r.1 = 0 → l'.Nodup ∧ ∀ k, k ∈ l' ↔ k ∈ [] ∧ k ∉ d.keys) ∧ (r.1 ≠ 0 → l' = r.2.2) :=
  ⟨List.nodup_nil, consumerDestroyDisplay_after_start (fun _ => true)
    ⟨1, 1000, 1001, 1002, 1003, none, none, none, none, false, false, false, false⟩ [] List.nodup_nil⟩

/-- **Shared servers.** A second backend with the domain and ports of one already started finds
all four servers listening: its `start_servers` returns 0, starts nothing and sets its four
flags. Destroying the first backend then shuts all four down, while the second's flags still say
they listen. -/
theorem consumerDestroyDisplay_shared_servers (starts : ServerKey → Bool) (d₁ d₂ : BackendServers)
    (l : List ServerKey) (hl : l.Nodup) (hkeys : d₂.keys = d₁.keys)
    (h₁ : (pvDisplayBackendStartServers starts d₁ l).1 = 0) :
    let r₁ := pvDisplayBackendStartServers starts d₁ l
    let r₂ := pvDisplayBackendStartServers starts d₂ r₁.2.2
    r₂.1 = 0 ∧ r₂.2.2 = r₁.2.2 ∧
      (r₂.2.1.framebufferServerListening = true ∧ r₂.2.1.eventServerListening = true ∧
        r₂.2.1.dirtyRectanglesServerListening = true ∧
        r₂.2.1.cursorImageServerListening = true) ∧
      ∀ k ∈ d₂.keys, k ∉ consumerDestroyDisplayServers r₁.2.1 r₂.2.2 := by
  rcases pvDisplayBackendStartServers_cases starts d₁ l with ⟨-, hd, hL⟩ | ⟨h0, -⟩
  · have hmem : ∀ k ∈ d₂.keys, k ∈ (pvDisplayBackendStartServers starts d₁ l).2.2 :=
      fun k hk => hL ▸ (mem_keys_insert d₁).2 (.inr (hkeys ▸ hk))
    have hdestroy := consumerDestroyDisplayServers_started d₁ (hL ▸ nodup_keys_insert d₁ hl)
    dsimp only
    rw [hd]
    generalize (pvDisplayBackendStartServers starts d₁ l).2.2 = L at hmem hdestroy ⊢
    have m₁ := hmem ⟨d₂.domid, d₂.framebufferPort⟩ (by simp [BackendServers.keys])
    have m₂ := hmem ⟨d₂.domid, d₂.eventPort⟩ (by simp [BackendServers.keys])
    have m₃ := hmem ⟨d₂.domid, d₂.dirtyRectanglesPort⟩ (by simp [BackendServers.keys])
    have m₄ := hmem ⟨d₂.domid, d₂.cursorBitmapPort⟩ (by simp [BackendServers.keys])
    have hr₂ : pvDisplayBackendStartServers starts d₂ L =
        (0, d₂.withServers (some ⟨d₂.domid, d₂.framebufferPort⟩) (some ⟨d₂.domid, d₂.eventPort⟩)
          (some ⟨d₂.domid, d₂.dirtyRectanglesPort⟩) (some ⟨d₂.domid, d₂.cursorBitmapPort⟩) true,
          L) := by
      simp only [pvDisplayBackendStartServers, findOrStartServer_of_mem m₁,
        findOrStartServer_of_mem m₂, findOrStartServer_of_mem m₃, findOrStartServer_of_mem m₄]
    rw [hr₂]
    exact ⟨rfl, rfl, ⟨rfl, rfl, rfl, rfl⟩, fun k hk₂ hk' =>
      ((hdestroy.2 k).1 hk').2 (hkeys ▸ hk₂)⟩
  · exact absurd h₁ h0

/-- Two backends of domain 1 on ports 1000 to 1003, the first started on an empty set. -/
theorem consumerDestroyDisplay_shared_servers_twice :
    let d : BackendServers :=
      ⟨1, 1000, 1001, 1002, 1003, none, none, none, none, false, false, false, false⟩
    let r₁ := pvDisplayBackendStartServers (fun _ => true) d []
    let r₂ := pvDisplayBackendStartServers (fun _ => true) d r₁.2.2
    (([] : List ServerKey).Nodup ∧ d.keys = d.keys ∧ r₁.1 = 0) ∧
      r₂.1 = 0 ∧ r₂.2.2 = r₁.2.2 ∧
      (r₂.2.1.framebufferServerListening = true ∧ r₂.2.1.eventServerListening = true ∧
        r₂.2.1.dirtyRectanglesServerListening = true ∧
        r₂.2.1.cursorImageServerListening = true) ∧
      ∀ k ∈ d.keys, k ∉ consumerDestroyDisplayServers r₁.2.1 r₂.2.2 :=
  ⟨⟨List.nodup_nil, rfl, by decide⟩, consumerDestroyDisplay_shared_servers (fun _ => true)
    ⟨1, 1000, 1001, 1002, 1003, none, none, none, none, false, false, false, false⟩
    ⟨1, 1000, 1001, 1002, 1003, none, none, none, none, false, false, false, false⟩
    [] List.nodup_nil rfl (by decide)⟩

end PvDisplayHelper
