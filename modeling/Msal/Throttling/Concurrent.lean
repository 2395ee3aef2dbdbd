import Msal.Throttling.Gate

/-! Concurrent `sendPostRequest` calls, on clients that share one cache manager. A call runs up to
its await in one step, `preProcess` and the network request together, and later resumes with its
network outcome; calls interleave only between those steps. The ghost log `sends` records, for
every request sent, the cache `preProcess` read and the cache it left. -/

namespace Msal.Throttling.Concurrent
open Msal.Throttling.Gate

variable {RequestThumbprint : Type}

structure PostCall (RequestThumbprint : Type) where
  client : BaseClient RequestThumbprint
  thumbprint : RequestThumbprint
  stage : PostStage

/-- A request sent to the network: by whom, when, and the cache before and after `preProcess`. -/
structure Send (RequestThumbprint : Type) where
  client : BaseClient RequestThumbprint
  thumbprint : RequestThumbprint
  now : Nat
  before : ThrottlingCache
  after : ThrottlingCache

structure System (RequestThumbprint : Type) where
  cache : ThrottlingCache
  calls : List (PostCall RequestThumbprint)
  sends : List (Send RequestThumbprint)

inductive Event (RequestThumbprint : Type)
  | start (client : BaseClient RequestThumbprint) (thumbprint : RequestThumbprint) (now : Nat)
  | answer (index : Nat) (outcome : NetworkOutcome) (now : Nat)

def System.step (sys : System RequestThumbprint) : Event RequestThumbprint → System RequestThumbprint
  | .start client thumbprint now =>
    let started := sendPostRequestStart client sys.cache thumbprint now
    { cache := started.1
      calls := sys.calls ++ [⟨client, thumbprint, started.2⟩]
      sends := match started.2 with
        | .awaitingNetwork => sys.sends ++ [⟨client, thumbprint, now, sys.cache, started.1⟩]
        | .returned _ => sys.sends }
  | .answer index outcome now =>
    match sys.calls[index]? with
    | some ⟨client, thumbprint, .awaitingNetwork⟩ =>
      let finished := sendPostRequestFinish client sys.cache thumbprint outcome now
      { sys with cache := finished.1, calls := sys.calls.set index ⟨client, thumbprint, .returned finished.2⟩ }
    | _ => sys

def run (initial : ThrottlingCache) (events : List (Event RequestThumbprint)) : System RequestThumbprint :=
  events.foldl System.step ⟨initial, [], []⟩

theorem sendPostRequestStart_sent (client : BaseClient RequestThumbprint) (cache : ThrottlingCache)
    (thumbprint : RequestThumbprint) (now : Nat)
    (sent : (sendPostRequestStart client cache thumbprint now).2 = .awaitingNetwork) :
    preProcess cache (client.throttling.throttlingKey thumbprint) now =
      .ok (sendPostRequestStart client cache thumbprint now).1 := by
  unfold sendPostRequestStart at sent ⊢
  split at sent
  · cases sent
  · next passed => simpa using passed

/-- A send record says `preProcess` returned normally for the request's own thumbprint in the
step that sent it, leaving no entry under its key. -/
def SentClear (send : Send RequestThumbprint) : Prop :=
  preProcess send.before (send.client.throttling.throttlingKey send.thumbprint) send.now = .ok send.after ∧
    send.after (send.client.throttling.throttlingKey send.thumbprint) = none

theorem sentClear_step (sys : System RequestThumbprint) (cleared : ∀ send ∈ sys.sends, SentClear send)
    (event : Event RequestThumbprint) : ∀ send ∈ (sys.step event).sends, SentClear send := by
  cases event with
  | start client thumbprint now =>
    simp only [System.step]
    split
    · next sent =>
      intro send listed
      rcases List.mem_append.mp listed with old | added
      · exact cleared send old
      · have passed := sendPostRequestStart_sent client sys.cache thumbprint now sent
        rw [List.mem_singleton.mp added]
        exact ⟨passed, (preProcess_ok_frame passed).1⟩
    · exact cleared
  | answer index outcome now =>
    simp only [System.step]
    split
    · exact cleared
    · exact cleared

/-- Which key one step may write, and how: a call's first step only deletes the entry under its own
key, through `preProcess`; its resumption only writes under its own key, through `postProcess` of the
response it was answered with. -/
theorem step_writes_own_key (sys : System RequestThumbprint) (event : Event RequestThumbprint) (key : String)
    (changed : (sys.step event).cache key ≠ sys.cache key) :
    (∃ client thumbprint now, event = .start client thumbprint now ∧
      key = client.throttling.throttlingKey thumbprint ∧ (sys.step event).cache key = none) ∨
    (∃ index outcome now client thumbprint response, event = .answer index outcome now ∧
      sys.calls[index]? = some ⟨client, thumbprint, .awaitingNetwork⟩ ∧
      key = client.throttling.throttlingKey thumbprint ∧ outcome = .response response ∧
      (sys.step event).cache = postProcess client.throttling sys.cache key response now) := by
  cases event with
  | start client thumbprint now =>
    refine .inl ⟨client, thumbprint, now, rfl, ?_⟩
    simp only [System.step, sendPostRequestStart] at changed ⊢
    split at changed
    · exact absurd rfl changed
    · next preProcessed passed =>
      obtain ⟨removed, kept⟩ := preProcess_ok_frame passed
      by_cases same : key = client.throttling.throttlingKey thumbprint
      · subst same
        simp only [passed]
        exact ⟨trivial, removed⟩
      · exact absurd (kept key same) changed
  | answer index outcome now =>
    refine .inr ?_
    simp only [System.step] at changed ⊢
    split at changed
    · next client thumbprint found =>
      simp only [found]
      cases outcome with
      | response response =>
        simp only [sendPostRequestFinish] at changed ⊢
        split at changed
        · exact absurd rfl changed
        · next readable =>
          have own : key = client.throttling.throttlingKey thumbprint := by
            by_contra differ
            exact changed (postProcess_frame _ _ _ _ _ key differ)
          refine ⟨index, .response response, now, client, thumbprint, response, rfl, found, own, rfl, ?_⟩
          rw [if_neg readable, own]
      | _ => exact absurd rfl changed
    · exact absurd rfl changed

/-- Concurrent `sendPostRequest` calls on one cache, in any order: each request is sent in the step where
`preProcess` returned normally, with no entry then under its key; each step writes only under its own
call's key, by `preProcess` deleting an expired entry or by `postProcess` after its own result. -/
theorem concurrent_sendPostRequest (initial : ThrottlingCache) (events : List (Event RequestThumbprint)) :
    (∀ send ∈ (run initial events).sends,
      preProcess send.before (send.client.throttling.throttlingKey send.thumbprint) send.now = .ok send.after ∧
        send.after (send.client.throttling.throttlingKey send.thumbprint) = none) ∧
    ∀ event key, ((run initial events).step event).cache key ≠ (run initial events).cache key →
      (∃ client thumbprint now, event = .start client thumbprint now ∧
        key = client.throttling.throttlingKey thumbprint ∧ ((run initial events).step event).cache key = none) ∨
      (∃ index outcome now client thumbprint response, event = .answer index outcome now ∧
        (run initial events).calls[index]? = some ⟨client, thumbprint, .awaitingNetwork⟩ ∧
        key = client.throttling.throttlingKey thumbprint ∧ outcome = .response response ∧
        ((run initial events).step event).cache =
          postProcess client.throttling (run initial events).cache key response now) := by
  refine ⟨?_, step_writes_own_key _⟩
  suffices steps : ∀ sys : System RequestThumbprint, (∀ send ∈ sys.sends, SentClear send) →
      ∀ send ∈ (events.foldl System.step sys).sends, SentClear send from
    steps _ (fun _ => nofun)
  induction events with
  | nil => exact fun _ cleared => cleared
  | cons event events ih => exact fun sys cleared => ih _ (sentClear_step sys cleared event)

theorem preProcess_deletes_expired_entry :
    (run (ThrottlingCache.empty.setItem "token-request" ⟨50, none, none, none⟩)
        [.start fixedClient "token-request" 100]).cache "token-request" = none ∧
    (run (ThrottlingCache.empty.setItem "token-request" ⟨50, none, none, none⟩)
        [.start fixedClient "token-request" 100]).calls.map (·.stage) = [.awaitingNetwork] :=
  ⟨rfl, rfl⟩

end Msal.Throttling.Concurrent
