import Msal.KeyStore.Interleaving
import Msal.KeyStore.Sequential
import Mathlib.Data.List.Perm.Basic

/-! Interleaved `CryptoOps` calls against the same calls made one after another. A call reaches the
store at one await: `setItem`, `removeItem`, `deleteDatabase`, or the `getItem` of a lookup. Its other
awaits neither read nor write the store, except `removeTokenBindingKey`'s `containsKey`, which reads it
once more. So a run behaves as its calls made one after another, each with the answers it got, in the
order they reached the store; only a removal can tell the two apart, when a `getPublicKeyThumbprint`
stores its key again between its two awaits. The lookups of `signJwt` and `getAsymmetricPublicKey`
then find a key exactly as they would in that order. -/

namespace Msal.KeyStore.Linearization
open Msal.Json.Stringify Msal.KeyStore.Operations Msal.KeyStore.Interleaving Msal.KeyStore.Sequential

variable {Key : Type}

/-! ### Where a call reaches the store -/

/-- Whether a call stands at the await where it reaches the store. -/
def touches : Call Key → Bool
  | .getPublicKeyThumbprint _ _ (.setItem ..) => true
  | .removeTokenBindingKey _ .removeItem => true
  | .clearKeystore (.deleteDatabase _) => true
  | .signJwt _ _ .getItem => true
  | .getAsymmetricPublicKey _ .getItem => true
  | _ => false

/-- A call past the await where it reached the store. -/
def Touched : Call Key → Prop
  | .getPublicKeyThumbprint _ _ (.returned _) => True
  | .removeTokenBindingKey _ .containsKey | .removeTokenBindingKey _ (.returned _) => True
  | .clearKeystore (.returned _) => True
  | .signJwt _ _ (.exportJwk _) | .signJwt _ _ (.sign ..) | .signJwt _ _ (.returned _) => True
  | .getAsymmetricPublicKey _ (.exportJwk _) | .getAsymmetricPublicKey _ (.returned _) => True
  | _ => False

theorem touches_of_touched {call : Call Key} (touched : Touched call) : touches call = false := by
  rcases call with ⟨_, _, _ | _ | _ | _ | _ | _ | _⟩ | ⟨_, _ | _ | _⟩ | ⟨_ | _⟩ | ⟨_, _, _ | _ | _ | _⟩ |
    ⟨_, _ | _ | _⟩ <;> first | rfl | exact absurd touched id

variable (ops : CryptoOps Key)

/-- An await that does not reach the store, other than `containsKey`, leaves the store as it is and
goes on the same way whatever the store holds. -/
theorem resume_apart (cache other : CryptoKeyStore Key) (answer : Answer Key) (call : Call Key)
    (apart : touches call = false) (notChecking : ∀ kid, call ≠ .removeTokenBindingKey kid .containsKey) :
    (call.resume ops cache answer).1 = cache ∧ (call.resume ops cache answer).2 = (call.resume ops other answer).2 := by
  rcases call with ⟨request, keyType, stage⟩ | ⟨kid, stage⟩ | ⟨stage⟩ | ⟨payload, kid, stage⟩ | ⟨keyThumbprint, stage⟩
  · cases stage with
    | generateKeyPair => rcases answer with ⟨_ | _, _ | ⟨_ | _, _ | _⟩, _⟩ <;> exact ⟨rfl, rfl⟩
    | setItem => cases apart
    | _ => exact ⟨rfl, rfl⟩
  · cases stage with
    | removeItem => cases apart
    | containsKey => exact absurd rfl (notChecking kid)
    | returned => exact ⟨rfl, rfl⟩
  · cases stage with
    | deleteDatabase => cases apart
    | returned => exact ⟨rfl, rfl⟩
  · cases stage with
    | getItem => cases apart
    | _ => exact ⟨rfl, rfl⟩
  · cases stage with
    | getItem => cases apart
    | _ => exact ⟨rfl, rfl⟩

/-- The await where a call reaches the store leaves it past that await. -/
theorem touched_of_touches (cache : CryptoKeyStore Key) (answer : Answer Key) (call : Call Key)
    (touching : touches call = true) : Touched (call.resume ops cache answer).2.1 := by
  rcases call with ⟨request, keyType, stage⟩ | ⟨kid, stage⟩ | ⟨stage⟩ | ⟨payload, kid, stage⟩ | ⟨keyThumbprint, stage⟩
  · cases stage with
    | setItem => rcases answer with ⟨_ | _, _, _⟩ <;> trivial
    | _ => cases touching
  · cases stage with
    | removeItem => rcases answer with ⟨_ | _, _, _⟩ <;> trivial
    | _ => cases touching
  · cases stage with
    | deleteDatabase => rcases answer with ⟨_ | _, _, _⟩ <;> trivial
    | returned => cases touching
  · cases stage with
    | getItem =>
      simp only [Call.resume, SignStage.resume]
      split <;> trivial
    | _ => cases touching
  · cases stage with
    | getItem =>
      simp only [Call.resume, PublicKeyStage.resume]
      split <;> trivial
    | _ => cases touching

/-- A call past its store access stays past it, and reaches the store no more. -/
theorem resume_touched (cache : CryptoKeyStore Key) (answer : Answer Key) (call : Call Key)
    (touched : Touched call) :
    (call.resume ops cache answer).1 = cache ∧ Touched (call.resume ops cache answer).2.1 := by
  rcases call with ⟨request, keyType, stage⟩ | ⟨kid, stage⟩ | ⟨stage⟩ | ⟨payload, kid, stage⟩ | ⟨keyThumbprint, stage⟩
  · cases stage with
    | returned => exact ⟨rfl, trivial⟩
    | _ => exact absurd touched id
  · cases stage with
    | removeItem => exact absurd touched id
    | _ => rcases answer with ⟨_ | _, _, _⟩ <;> exact ⟨rfl, trivial⟩
  · cases stage with
    | deleteDatabase => exact absurd touched id
    | returned => exact ⟨rfl, trivial⟩
  · cases stage with
    | getItem => exact absurd touched id
    | exportJwk =>
      refine ⟨rfl, ?_⟩
      simp only [Call.resume, SignStage.resume, resolving]
      split <;> (try split) <;> trivial
    | _ => rcases answer with ⟨_ | _, _, _⟩ <;> exact ⟨rfl, trivial⟩
  · cases stage with
    | getItem => exact absurd touched id
    | _ => rcases answer with ⟨_ | _, _, _⟩ <;> exact ⟨rfl, trivial⟩

/-- Only a removal's `removeItem` leads to its `containsKey`. -/
theorem removeItem_of_resume {cache : CryptoKeyStore Key} {answer : Answer Key} {call : Call Key} {kid : String}
    (reached : (call.resume ops cache answer).2.1 = .removeTokenBindingKey kid .containsKey) :
    call = .removeTokenBindingKey kid .removeItem := by
  obtain ⟨_ | _, keyPair, deleted⟩ := answer <;>
    rcases call with ⟨_, _, _⟩ | ⟨_, _ | _ | _⟩ | ⟨_⟩ | ⟨_, _, _⟩ | ⟨_, _⟩ <;>
    simp_all [Call.resume, RemoveStage.resume, resolving]

/-! ### Calls made alone -/

theorem operationOf_resume (cache : CryptoKeyStore Key) (answer : Answer Key) (call : Call Key) :
    operationOf (call.resume ops cache answer).2.1 = operationOf call := by
  cases call <;> rfl

theorem operationOf_start (operation : Operation) : operationOf (operation.start : Call Key) = operation := by
  cases operation <;> rfl

/-- One more answer resumes a call made alone once more, from where its earlier answers left it. -/
theorem perform_append (cache : CryptoKeyStore Key) (operation : Operation) (answers : List (Answer Key))
    (answer : Answer Key) :
    perform ops cache operation (answers ++ [answer]) =
      (((perform ops cache operation answers).2.resume ops (perform ops cache operation answers).1 answer).1,
        ((perform ops cache operation answers).2.resume ops (perform ops cache operation answers).1 answer).2.1) := by
  unfold perform
  generalize (operation.start : Call Key) = call
  induction answers generalizing cache call with
  | nil => rfl
  | cons first answers ih => exact ih _ _

/-- A removal made alone that stands at its `containsKey` has removed its key. -/
theorem perform_containsKey (cache : CryptoKeyStore Key) (kid : String) (answers : List (Answer Key))
    (reached : (perform ops cache (.removeTokenBindingKey kid) answers).2 = .removeTokenBindingKey kid .containsKey) :
    (perform ops cache (.removeTokenBindingKey kid) answers).1.asymmetricKeys kid = none := by
  rcases answers with _ | ⟨⟨_ | error, keyPair, deleted⟩, answers⟩
  · cases reached
  · have removed : perform ops cache (.removeTokenBindingKey kid) (⟨none, keyPair, deleted⟩ :: answers) =
        resumeAll ops { cache with asymmetricKeys := cache.asymmetricKeys.removeItem kid }
          (.removeTokenBindingKey kid .containsKey) answers := rfl
    rw [removed, resumeAll_settled ops _ (.removeTokenBindingKey kid .containsKey) answers trivial]
    simp
  · have thrown : perform ops cache (.removeTokenBindingKey kid) (⟨some error, keyPair, deleted⟩ :: answers) =
        (cache, .removeTokenBindingKey kid (.returned (.error (.platform error)))) :=
      resumeAll_done ops _ _ answers trivial
    rw [thrown] at reached
    cases reached

theorem generated_of_live {kid : String} {effect : Effect} (live : effect.live kid false = true) :
    effect = .generated kid := by
  cases effect <;> simp_all [Effect.live]

theorem effect_generated {answers : List (Answer Key)} {call : Call Key} {kid : String}
    (generated : effect answers call = .generated kid) :
    ∃ request keyType, call = .getPublicKeyThumbprint request keyType (.returned (.ok kid)) := by
  unfold effect at generated
  split at generated
  · next request keyType key => cases generated; exact ⟨request, keyType, rfl⟩
  · split at generated <;> cases generated
  · cases generated
  · cases generated

/-! ### Calls made one after another, against the interleaving -/

/-- A call of an interleaving, with its answers, ends as it does made alone from `cache`; or it is a removal
that reports its key stored where alone it reports it gone, and a later thumbprint call returned that key. -/
def EndsAlone (cache : CryptoKeyStore Key) (call : Call Key) (answers : List (Answer Key))
    (later : List (Call Key × List (Answer Key))) : Prop :=
  call = (perform ops cache (operationOf call) answers).2 ∨
    ∃ kid, call = .removeTokenBindingKey kid (.returned (.ok false)) ∧
      (perform ops cache (operationOf call) answers).2 = .removeTokenBindingKey kid (.returned (.ok true)) ∧
      ∃ request keyType, .getPublicKeyThumbprint request keyType (.returned (.ok kid)) ∈ later.map Prod.fst

/-- The calls of `history`, each with the answers it got, made one after another from `cache`, leave
`final`, and each ends as it does alone at its place. -/
def Replays : CryptoKeyStore Key → List (Call Key × List (Answer Key)) → CryptoKeyStore Key → Prop
  | cache, [], final => final = cache
  | cache, (call, answers) :: later, final =>
    EndsAlone ops cache call answers later ∧ Replays (perform ops cache (operationOf call) answers).1 later final

theorem endsAlone_append {cache : CryptoKeyStore Key} {call : Call Key} {answers : List (Answer Key)}
    {later : List (Call Key × List (Answer Key))} (more : List (Call Key × List (Answer Key)))
    (ends : EndsAlone ops cache call answers later) : EndsAlone ops cache call answers (later ++ more) := by
  rcases ends with same | ⟨kid, returned, alone, request, keyType, stored⟩
  · exact .inl same
  · exact .inr ⟨kid, returned, alone, request, keyType, by rw [List.map_append]; exact List.mem_append_left _ stored⟩

theorem replays_append {cache middle final : CryptoKeyStore Key} {earlier later : List (Call Key × List (Answer Key))}
    (first : Replays ops cache earlier middle) (second : Replays ops middle later final) :
    Replays ops cache (earlier ++ later) final := by
  induction earlier generalizing cache with
  | nil => cases first; exact second
  | cons entry earlier ih => exact ⟨endsAlone_append ops later first.1, ih first.2⟩

/-- The store a replayed history leaves is the one any fold that performs its calls in turn leaves. -/
theorem replays_foldl {β : Type} (step : CryptoKeyStore Key × β → Operation × List (Answer Key) → CryptoKeyStore Key × β)
    (stepStore : ∀ state call, (step state call).1 = (perform ops state.1 call.1 call.2).1)
    {history : List (Call Key × List (Answer Key))} {final : CryptoKeyStore Key} :
    ∀ state : CryptoKeyStore Key × β, Replays ops state.1 history final →
      ((history.map fun entry => (operationOf entry.1, entry.2)).foldl step state).1 = final := by
  induction history with
  | nil => exact fun _ replays => replays.symm
  | cons entry history ih =>
    intro state replays
    refine ih _ ?_
    rw [stepStore]
    exact replays.2

/-- The call at any place of a replayed history ends as it does alone from the store the calls before it
leave, by any fold that performs them in turn. -/
theorem endsAlone_foldl {β : Type} (step : CryptoKeyStore Key × β → Operation × List (Answer Key) → CryptoKeyStore Key × β)
    (stepStore : ∀ state call, (step state call).1 = (perform ops state.1 call.1 call.2).1)
    {before after : List (Call Key × List (Answer Key))} {call : Call Key} {answers : List (Answer Key)}
    {final : CryptoKeyStore Key} :
    ∀ state : CryptoKeyStore Key × β, Replays ops state.1 (before ++ (call, answers) :: after) final →
      EndsAlone ops ((before.map fun entry => (operationOf entry.1, entry.2)).foldl step state).1 call answers after := by
  induction before with
  | nil => exact fun _ replays => replays.1
  | cons entry before ih =>
    intro state replays
    refine ih _ ?_
    rw [stepStore]
    exact replays.2

/-- A key gone before some calls and stored after them was stored by one of them: a
`getPublicKeyThumbprint` that returned it. -/
theorem replays_restored {cache final : CryptoKeyStore Key} {later : List (Call Key × List (Answer Key))}
    {kid : String} (replays : Replays ops cache later final) (gone : cache.asymmetricKeys kid = none)
    (stored : final.asymmetricKeys kid ≠ none) :
    ∃ request keyType, .getPublicKeyThumbprint request keyType (.returned (.ok kid)) ∈ later.map Prod.fst := by
  induction later generalizing cache with
  | nil => exact absurd (replays ▸ gone) stored
  | cons entry later ih =>
    obtain ⟨call, answers⟩ := entry
    obtain ⟨ends, rest⟩ := replays
    by_cases stillGone : (perform ops cache (operationOf call) answers).1.asymmetricKeys kid = none
    · obtain ⟨request, keyType, member⟩ := ih rest stillGone
      exact ⟨request, keyType, List.mem_cons_of_mem _ member⟩
    · have live := perform_live ops cache (operationOf call) answers kid
      rw [gone, Option.isSome_none, Option.ne_none_iff_isSome.mp stillGone] at live
      obtain ⟨request, keyType, made⟩ := effect_generated (generated_of_live live.symm)
      rcases ends with same | ⟨_, _, alone, -⟩
      · exact ⟨request, keyType, by rw [same, made]; exact List.mem_cons_self _ _⟩
      · rw [made] at alone
        cases alone

/-- A call's place in the order moves its `getPublicKeyThumbprint` entries along when one entry gets one
more answer, as long as a returned thumbprint stays returned. -/
theorem mem_calls_set {entries : List (Call Key × List (Answer Key))} {order : List Nat} {index : Nat}
    {call call' : Call Key} {answers answers' : List (Answer Key)} (found : entries[index]? = some (call, answers))
    (kept : ∀ request keyType kid, call = .getPublicKeyThumbprint request keyType (.returned (.ok kid)) → call' = call)
    {request : SignedHttpRequestParameters} {keyType : Option CryptoKeyTypes} {kid : String}
    (member : .getPublicKeyThumbprint request keyType (.returned (.ok kid)) ∈ (order.filterMap (entries[·]?)).map Prod.fst) :
    .getPublicKeyThumbprint request keyType (.returned (.ok kid)) ∈
      (order.filterMap ((entries.set index (call', answers'))[·]?)).map Prod.fst := by
  obtain ⟨⟨stored, storedAnswers⟩, listed, named⟩ := List.mem_map.mp member
  obtain ⟨position, inOrder, atPosition⟩ := List.mem_filterMap.mp listed
  simp only at named
  subst named
  by_cases same : index = position
  · subst same
    rw [found, Option.some.injEq, Prod.mk.injEq] at atPosition
    have unchanged := kept request keyType kid atPosition.1
    refine List.mem_map.mpr ⟨(call', answers'), List.mem_filterMap.mpr ⟨index, inOrder, ?_⟩, ?_⟩
    · exact List.getElem?_set_self (List.getElem?_eq_some_iff.mp found).1
    · show call' = _
      rw [unchanged, atPosition.1]
  · exact List.mem_map.mpr ⟨_, List.mem_filterMap.mpr ⟨position, inOrder, by rw [List.getElem?_set_ne same, atPosition]⟩, rfl⟩

/-- Replaying the order after one call in it got one more answer: the call's own place changes as
`update` says, and every other place only sees the call moved along. -/
theorem replays_set {entries : List (Call Key × List (Answer Key))} {index : Nat} {call call' : Call Key}
    {answers answers' : List (Answer Key)} {final : CryptoKeyStore Key} (found : entries[index]? = some (call, answers))
    (kept : ∀ request keyType kid, call = .getPublicKeyThumbprint request keyType (.returned (.ok kid)) → call' = call)
    (update : ∀ cache later, EndsAlone ops cache call answers later →
      Replays ops (perform ops cache (operationOf call) answers).1 later final →
      EndsAlone ops cache call' answers' later ∧
        (perform ops cache (operationOf call') answers').1 = (perform ops cache (operationOf call) answers).1) :
    ∀ {order : List Nat}, order.Nodup → index ∈ order → ∀ {cache : CryptoKeyStore Key},
      Replays ops cache (order.filterMap (entries[·]?)) final →
      Replays ops cache (order.filterMap ((entries.set index (call', answers'))[·]?)) final := by
  intro order distinct member
  induction order with
  | nil => exact absurd member (List.not_mem_nil _)
  | cons head order ih =>
    intro cache replays
    obtain ⟨fresh, distinct⟩ := List.nodup_cons.mp distinct
    by_cases here : head = index
    · subst here
      have unchanged : order.filterMap ((entries.set head (call', answers'))[·]?) = order.filterMap (entries[·]?) :=
        List.filterMap_congr fun other listed => List.getElem?_set_ne fun same => fresh (by rw [same]; exact listed)
      simp only [List.filterMap_cons, found, List.getElem?_set_self (List.getElem?_eq_some_iff.mp found).1,
        unchanged] at replays ⊢
      obtain ⟨ends, store⟩ := update cache _ replays.1 replays.2
      exact ⟨ends, store ▸ replays.2⟩
    · have later := (List.mem_cons.mp member).resolve_left (Ne.symm here)
      simp only [List.filterMap_cons, List.getElem?_set_ne (Ne.symm here)] at replays ⊢
      rcases entry : entries[head]? with _ | ⟨headCall, headAnswers⟩ <;> simp only [entry] at replays ⊢
      · exact ih distinct later replays
      · obtain ⟨ends, rest⟩ := replays
        refine ⟨?_, ih distinct later rest⟩
        rcases ends with same | ⟨kid, returned, alone, request, keyType, stored⟩
        · exact .inl same
        · exact .inr ⟨kid, returned, alone, request, keyType, mem_calls_set found kept stored⟩

/-! ### The interleaving with its ghost -/

/-- A run of interleaved calls with its ghost: the answers each call got, by call, and the calls in the
order they reached the store. -/
structure Traced (Key : Type) where
  system : System Key
  answers : List (List (Answer Key))
  order : List Nat

def Traced.step (traced : Traced Key) : Event Key → Traced Key
  | .start operation => ⟨traced.system.step ops (.start operation), traced.answers ++ [[]], traced.order⟩
  | .resume index answer =>
    match traced.system.calls[index]? with
    | none => traced
    | some call =>
      ⟨traced.system.step ops (.resume index answer), traced.answers.modify (· ++ [answer]) index,
        if touches call then traced.order ++ [index] else traced.order⟩

/-- The run of the interleaving, with its ghost. -/
def tracedRun (events : List (Event Key)) : Traced Key := events.foldl (Traced.step ops) ⟨System.init, [], []⟩

/-- Each call of the run with the answers it got. -/
def Traced.entries (traced : Traced Key) : List (Call Key × List (Answer Key)) :=
  traced.system.calls.zip traced.answers

/-- The run's calls with their answers as one history: those that reached the store, in the order they
reached it, then the others. -/
def Traced.history (traced : Traced Key) : List (Call Key × List (Answer Key)) :=
  (traced.order ++ (List.range traced.system.calls.length).filter fun index => !decide (index ∈ traced.order)).filterMap
    (traced.entries[·]?)

theorem tracedRun_system (events : List (Event Key)) : (tracedRun ops events).system = run ops events := by
  suffices steps : ∀ start : Traced Key,
      (events.foldl (Traced.step ops) start).system = events.foldl (System.step ops) start.system from
    steps _
  induction events with
  | nil => exact fun _ => rfl
  | cons event events ih =>
    intro start
    rw [List.foldl_cons, List.foldl_cons, ih]
    congr 1
    cases event with
    | start operation => rfl
    | resume index answer =>
      simp only [Traced.step]
      split
      · next absent => simp [System.step, absent]
      · rfl

theorem step_resume (traced : Traced Key) {index : Nat} (answer : Answer Key) {call : Call Key}
    (found : traced.system.calls[index]? = some call) :
    traced.step ops (.resume index answer) =
      ⟨⟨(call.resume ops traced.system.cache answer).1,
          traced.system.calls.set index (call.resume ops traced.system.cache answer).2.1,
          traced.system.generated ++ (call.resume ops traced.system.cache answer).2.2.toList⟩,
        traced.answers.modify (· ++ [answer]) index,
        if touches call then traced.order ++ [index] else traced.order⟩ := by
  simp only [Traced.step, System.step, found]

/-- The entries after a resume: the resumed call at its next await, with one more answer. -/
theorem zip_set_modify {calls : List (Call Key)} {answers : List (List (Answer Key))} {index : Nat}
    {call : Call Key} {callAnswers : List (Answer Key)} (next : Call Key) (answer : Answer Key)
    (found : calls[index]? = some call) (got : answers[index]? = some callAnswers) :
    (calls.set index next).zip (answers.modify (· ++ [answer]) index) =
      (calls.zip answers).set index (next, callAnswers ++ [answer]) := by
  have inCalls := (List.getElem?_eq_some_iff.mp found).1
  have inAnswers := (List.getElem?_eq_some_iff.mp got).1
  apply List.ext_getElem?
  intro position
  by_cases same : index = position
  · subst same
    rw [List.getElem?_set_self (by simp [inCalls, inAnswers]), List.getElem?_zip_eq_some]
    exact ⟨List.getElem?_set_self inCalls, by simp [List.getElem?_modify, got]⟩
  · simp only [List.zip_eq_zipWith, List.getElem?_zipWith, List.getElem?_set_ne same, List.getElem?_modify,
      if_neg same, Option.map_eq_map, Option.map_id']

/-- What a run's ghost keeps: one answer list per call; the calls in the order, once each and past their
store access, replay to the run's store; every other call, made alone, leaves any store as it is and
ends where it stands, short of a `containsKey`. -/
structure Linearized (traced : Traced Key) : Prop where
  lengths : traced.answers.length = traced.system.calls.length
  distinct : traced.order.Nodup
  bounded : ∀ index ∈ traced.order, index < traced.system.calls.length
  touched : ∀ index ∈ traced.order, ∀ call answers, traced.entries[index]? = some (call, answers) → Touched call
  replays : Replays ops .empty (traced.order.filterMap (traced.entries[·]?)) traced.system.cache
  alone : ∀ index, index ∉ traced.order → ∀ call answers, traced.entries[index]? = some (call, answers) →
    ∀ cache, perform ops cache (operationOf call) answers = (cache, call)
  notChecking : ∀ index, index ∉ traced.order → ∀ call answers, traced.entries[index]? = some (call, answers) →
    ∀ kid, call ≠ .removeTokenBindingKey kid .containsKey

theorem linearized_init : Linearized ops (⟨System.init, [], []⟩ : Traced Key) where
  lengths := rfl
  distinct := List.nodup_nil
  bounded := nofun
  touched := nofun
  replays := rfl
  alone := fun _ _ _ _ found => by simp [Traced.entries, System.init] at found
  notChecking := fun _ _ _ _ found => by simp [Traced.entries, System.init] at found

theorem linearized_start {traced : Traced Key} (inv : Linearized ops traced) (operation : Operation) :
    Linearized ops (traced.step ops (.start operation)) := by
  have entries : (traced.step ops (.start operation)).entries = traced.entries ++ [(operation.start, [])] :=
    List.zip_append inv.lengths.symm
  have size : traced.entries.length = traced.system.calls.length := by simp [Traced.entries, inv.lengths]
  have earlier : ∀ index, index < traced.system.calls.length →
      (traced.step ops (.start operation)).entries[index]? = traced.entries[index]? := fun index below => by
    rw [entries, List.getElem?_append_left (by omega)]
  have added : ∀ index call answers, index ∉ traced.order →
      (traced.step ops (.start operation)).entries[index]? = some (call, answers) →
      traced.entries[index]? = some (call, answers) ∨ (call = operation.start ∧ answers = []) := by
    intro index call answers _ found
    by_cases below : index < traced.system.calls.length
    · exact .inl ((earlier index below).symm.trans found)
    · rw [entries, List.getElem?_append_right (by omega)] at found
      obtain ⟨_, listed⟩ := List.getElem?_eq_some_iff.mp found
      simp only [List.getElem_singleton, Prod.mk.injEq] at listed
      exact .inr ⟨listed.1.symm, listed.2.symm⟩
  refine ⟨?_, inv.distinct, fun index member => ?_, fun index member => ?_, ?_, ?_, ?_⟩
  · simp only [Traced.step, System.step, List.length_append, List.length_singleton, inv.lengths]
  · have := inv.bounded index member
    simp only [Traced.step, System.step, List.length_append, List.length_singleton]
    omega
  · rw [earlier index (inv.bounded index member)]
    exact inv.touched index member
  · show Replays ops .empty (traced.order.filterMap fun index => (traced.step ops (.start operation)).entries[index]?)
      traced.system.cache
    rw [List.filterMap_congr fun index member => earlier index (inv.bounded index member)]
    exact inv.replays
  · intro index outside call answers found cache
    rcases added index call answers outside found with old | ⟨rfl, rfl⟩
    · exact inv.alone index outside call answers old cache
    · rw [operationOf_start]
      rfl
  · intro index outside call answers found kid
    rcases added index call answers outside found with old | ⟨rfl, rfl⟩
    · exact inv.notChecking index outside call answers old kid
    · cases operation <;> nofun

theorem entries_resume (traced : Traced Key) {index : Nat} (answer : Answer Key) {call : Call Key}
    {callAnswers : List (Answer Key)} (found : traced.system.calls[index]? = some call)
    (got : traced.answers[index]? = some callAnswers) :
    (traced.step ops (.resume index answer)).entries =
      traced.entries.set index ((call.resume ops traced.system.cache answer).2.1, callAnswers ++ [answer]) := by
  rw [step_resume ops traced answer found]
  exact zip_set_modify _ answer found got

/-- One more answer to a call past its store access, against the same call made alone from `start`: it
still ends as there and leaves the same store; or it is a removal that read its key back stored at
`final`, which a `getPublicKeyThumbprint` after it in the order had stored again. -/
theorem endsAlone_resume {call : Call Key} {answers : List (Answer Key)} {start final : CryptoKeyStore Key}
    {later : List (Call Key × List (Answer Key))} (answer : Answer Key) (touched : Touched call)
    (ends : EndsAlone ops start call answers later)
    (rest : Replays ops (perform ops start (operationOf call) answers).1 later final) :
    EndsAlone ops start (call.resume ops final answer).2.1 (answers ++ [answer]) later ∧
      (perform ops start (operationOf (call.resume ops final answer).2.1) (answers ++ [answer])).1 =
        (perform ops start (operationOf call) answers).1 := by
  unfold EndsAlone at ends ⊢
  rw [operationOf_resume, perform_append]
  set alone := perform ops start (operationOf call) answers
  rcases ends with same | ⟨kid, returned, aloneReturned, stored⟩
  · rw [← same]
    by_cases checking : ∃ kid, call = .removeTokenBindingKey kid .containsKey
    · obtain ⟨kid, rfl⟩ := checking
      have gone : alone.1.asymmetricKeys kid = none := perform_containsKey ops start kid answers same.symm
      obtain ⟨_ | error, keyPair, deleted⟩ := answer
      · by_cases present : final.asymmetricKeys kid = none
        · exact ⟨.inl (by simp [Call.resume, RemoveStage.resume, resolving, present, gone]), rfl⟩
        · refine ⟨.inr ⟨kid, ?_, ?_, replays_restored ops rest gone present⟩, rfl⟩ <;>
            simp [Call.resume, RemoveStage.resume, resolving, gone, Option.ne_none_iff_isSome.mp present]
      · exact ⟨.inl rfl, rfl⟩
    · push_neg at checking
      obtain ⟨keptAlone, alike⟩ := resume_apart ops alone.1 final answer call (touches_of_touched touched) checking
      exact ⟨.inl (congrArg Prod.fst alike).symm, keptAlone⟩
  · subst returned
    rw [aloneReturned]
    exact ⟨.inr ⟨kid, rfl, rfl, stored⟩, rfl⟩

section Resume
variable {traced : Traced Key} (inv : Linearized ops traced) {index : Nat} (answer : Answer Key) {call : Call Key}
  {callAnswers : List (Answer Key)} (found : traced.system.calls[index]? = some call)
  (got : traced.answers[index]? = some callAnswers)
include inv found got

omit inv in
theorem resumed_entry :
    (traced.step ops (.resume index answer)).entries[index]? =
      some ((call.resume ops traced.system.cache answer).2.1, callAnswers ++ [answer]) := by
  have entry : traced.entries[index]? = some (call, callAnswers) := List.getElem?_zip_eq_some.mpr ⟨found, got⟩
  rw [entries_resume ops traced answer found got, List.getElem?_set_self (List.getElem?_eq_some_iff.mp entry).1]

omit inv in
theorem other_entry {other : Nat} (differ : other ≠ index) :
    (traced.step ops (.resume index answer)).entries[other]? = traced.entries[other]? := by
  rw [entries_resume ops traced answer found got, List.getElem?_set_ne (Ne.symm differ)]

omit got in
theorem resumed_lengths :
    (traced.step ops (.resume index answer)).answers.length = (traced.step ops (.resume index answer)).system.calls.length ∧
      (traced.step ops (.resume index answer)).system.calls.length = traced.system.calls.length := by
  rw [step_resume ops traced answer found]
  simp [inv.lengths]

/-- A resume of a call that has not reached the store and does not reach it now. -/
theorem linearized_resume_apart (outside : index ∉ traced.order) (apart : touches call = false) :
    Linearized ops (traced.step ops (.resume index answer)) := by
  have entry : traced.entries[index]? = some (call, callAnswers) := List.getElem?_zip_eq_some.mpr ⟨found, got⟩
  have notChecking := inv.notChecking index outside call callAnswers entry
  have stepped := step_resume ops traced answer found
  have order : (traced.step ops (.resume index answer)).order = traced.order := by simp [stepped, apart]
  have cache : (traced.step ops (.resume index answer)).system.cache = traced.system.cache := by
    rw [stepped]
    exact (resume_apart ops _ traced.system.cache answer call apart notChecking).1
  have apartFrom : ∀ other ∈ traced.order, other ≠ index := fun other member same => outside (same ▸ member)
  obtain ⟨lengths, size⟩ := resumed_lengths ops inv answer found
  refine ⟨lengths, order ▸ inv.distinct, ?_, ?_, ?_, ?_, ?_⟩
  · rw [order, size]
    exact inv.bounded
  · rw [order]
    intro other member
    rw [other_entry ops answer found got (apartFrom other member)]
    exact inv.touched other member
  · rw [order, cache, List.filterMap_congr fun other member =>
      other_entry ops answer found got (apartFrom other member)]
    exact inv.replays
  · rw [order]
    intro other outsideToo otherCall otherAnswers otherFound start
    by_cases same : other = index
    · subst same
      rw [resumed_entry ops answer found got, Option.some.injEq, Prod.mk.injEq] at otherFound
      obtain ⟨rfl, rfl⟩ := otherFound
      obtain ⟨kept, alike⟩ := resume_apart ops start traced.system.cache answer call apart notChecking
      rw [operationOf_resume, perform_append, inv.alone other outside call callAnswers entry start, kept, alike]
    · rw [other_entry ops answer found got same] at otherFound
      exact inv.alone other outsideToo otherCall otherAnswers otherFound start
  · rw [order]
    intro other outsideToo otherCall otherAnswers otherFound kid checking
    by_cases same : other = index
    · subst same
      rw [resumed_entry ops answer found got, Option.some.injEq, Prod.mk.injEq] at otherFound
      rw [← otherFound.1] at checking
      rw [removeItem_of_resume ops checking] at apart
      cases apart
    · rw [other_entry ops answer found got same] at otherFound
      exact inv.notChecking other outsideToo otherCall otherAnswers otherFound kid checking

/-- A resume of a call at the await where it reaches the store: the call joins the order. -/
theorem linearized_resume_touching (outside : index ∉ traced.order) (touching : touches call = true) :
    Linearized ops (traced.step ops (.resume index answer)) := by
  have entry : traced.entries[index]? = some (call, callAnswers) := List.getElem?_zip_eq_some.mpr ⟨found, got⟩
  have stepped := step_resume ops traced answer found
  have order : (traced.step ops (.resume index answer)).order = traced.order ++ [index] := by simp [stepped, touching]
  have cache : (traced.step ops (.resume index answer)).system.cache = (call.resume ops traced.system.cache answer).1 := by
    rw [stepped]
  have alone : perform ops traced.system.cache (operationOf (call.resume ops traced.system.cache answer).2.1)
      (callAnswers ++ [answer]) =
        ((call.resume ops traced.system.cache answer).1, (call.resume ops traced.system.cache answer).2.1) := by
    rw [operationOf_resume, perform_append, inv.alone index outside call callAnswers entry]
  have apartFrom : ∀ other, other ∉ traced.order ++ [index] → other ∉ traced.order ∧ other ≠ index := by
    intro other outsideToo
    simpa [not_or] using outsideToo
  obtain ⟨lengths, size⟩ := resumed_lengths ops inv answer found
  refine ⟨lengths, ?_, ?_, ?_, ?_, ?_, ?_⟩
  · rw [order, List.nodup_append]
    exact ⟨inv.distinct, List.nodup_singleton index, List.disjoint_singleton.mpr outside⟩
  · rw [order, size]
    intro other member
    rcases List.mem_append.mp member with old | added
    · exact inv.bounded other old
    · rw [List.mem_singleton.mp added]
      exact (List.getElem?_eq_some_iff.mp found).1
  · rw [order]
    intro other member otherCall otherAnswers otherFound
    rcases List.mem_append.mp member with old | added
    · rw [other_entry ops answer found got fun same => outside (same ▸ old)] at otherFound
      exact inv.touched other old otherCall otherAnswers otherFound
    · rw [List.mem_singleton.mp added, resumed_entry ops answer found got, Option.some.injEq,
        Prod.mk.injEq] at otherFound
      exact otherFound.1 ▸ touched_of_touches ops traced.system.cache answer call touching
  · rw [order, List.filterMap_append, List.filterMap_congr fun other member =>
      other_entry ops answer found got fun same => outside (same ▸ member), cache]
    refine replays_append ops inv.replays ?_
    simp only [List.filterMap_cons, List.filterMap_nil, resumed_entry ops answer found got]
    exact ⟨.inl (by rw [alone]), by rw [alone]; rfl⟩
  · rw [order]
    intro other outsideToo otherCall otherAnswers otherFound
    obtain ⟨old, differ⟩ := apartFrom other outsideToo
    rw [other_entry ops answer found got differ] at otherFound
    exact inv.alone other old otherCall otherAnswers otherFound
  · rw [order]
    intro other outsideToo otherCall otherAnswers otherFound
    obtain ⟨old, differ⟩ := apartFrom other outsideToo
    rw [other_entry ops answer found got differ] at otherFound
    exact inv.notChecking other old otherCall otherAnswers otherFound

/-- A resume of a call past its store access: its place in the order gets one more answer. -/
theorem linearized_resume_touched (member : index ∈ traced.order) :
    Linearized ops (traced.step ops (.resume index answer)) := by
  have entry : traced.entries[index]? = some (call, callAnswers) := List.getElem?_zip_eq_some.mpr ⟨found, got⟩
  have touched := inv.touched index member call callAnswers entry
  obtain ⟨kept, stillTouched⟩ := resume_touched ops traced.system.cache answer call touched
  have stepped := step_resume ops traced answer found
  have order : (traced.step ops (.resume index answer)).order = traced.order := by
    simp [stepped, touches_of_touched touched]
  have cache : (traced.step ops (.resume index answer)).system.cache = traced.system.cache := by
    rw [stepped]
    exact kept
  have apartFrom : ∀ other, other ∉ traced.order → other ≠ index := fun other outside same => outside (same ▸ member)
  obtain ⟨lengths, size⟩ := resumed_lengths ops inv answer found
  refine ⟨lengths, order ▸ inv.distinct, ?_, ?_, ?_, ?_, ?_⟩
  · rw [order, size]
    exact inv.bounded
  · rw [order]
    intro other otherMember otherCall otherAnswers otherFound
    by_cases same : other = index
    · subst same
      rw [resumed_entry ops answer found got, Option.some.injEq, Prod.mk.injEq] at otherFound
      exact otherFound.1 ▸ stillTouched
    · rw [other_entry ops answer found got same] at otherFound
      exact inv.touched other otherMember otherCall otherAnswers otherFound
  · rw [order, cache, entries_resume ops traced answer found got]
    refine replays_set ops entry ?_ ?_ inv.distinct member inv.replays
    · rintro request keyType kid rfl
      rfl
    · exact fun start later ends rest => endsAlone_resume ops answer touched ends rest
  · rw [order]
    intro other outside otherCall otherAnswers otherFound
    rw [other_entry ops answer found got (apartFrom other outside)] at otherFound
    exact inv.alone other outside otherCall otherAnswers otherFound
  · rw [order]
    intro other outside otherCall otherAnswers otherFound
    rw [other_entry ops answer found got (apartFrom other outside)] at otherFound
    exact inv.notChecking other outside otherCall otherAnswers otherFound

end Resume

theorem linearized_step {traced : Traced Key} (inv : Linearized ops traced) (event : Event Key) :
    Linearized ops (traced.step ops event) := by
  cases event with
  | start operation => exact linearized_start ops inv operation
  | resume index answer =>
    rcases found : traced.system.calls[index]? with _ | call
    · have unchanged : traced.step ops (.resume index answer) = traced := by simp [Traced.step, found]
      rw [unchanged]
      exact inv
    rcases got : traced.answers[index]? with _ | callAnswers
    · have within := (List.getElem?_eq_some_iff.mp found).1
      rw [List.getElem?_eq_none_iff, inv.lengths] at got
      omega
    by_cases member : index ∈ traced.order
    · exact linearized_resume_touched ops inv answer found got member
    · cases touching : touches call
      · exact linearized_resume_apart ops inv answer found got member touching
      · exact linearized_resume_touching ops inv answer found got member touching

theorem linearized_run (events : List (Event Key)) : Linearized ops (tracedRun ops events) := by
  suffices steps : ∀ start : Traced Key, Linearized ops start →
      Linearized ops (events.foldl (Traced.step ops) start) from
    steps _ (linearized_init ops)
  induction events with
  | nil => exact fun _ inv => inv
  | cons event events ih => exact fun start inv => ih _ (linearized_step ops inv event)

/-! ### Runs as calls made one after another -/

/-- Calls that have not reached the store replay from any store to that store. -/
theorem replays_alone {entries : List (Call Key × List (Answer Key))} {cache : CryptoKeyStore Key}
    (indices : List Nat)
    (alone : ∀ index ∈ indices, ∀ call answers, entries[index]? = some (call, answers) →
      perform ops cache (operationOf call) answers = (cache, call)) :
    Replays ops cache (indices.filterMap (entries[·]?)) cache := by
  induction indices with
  | nil => rfl
  | cons index indices ih =>
    have later := ih fun other member => alone other (List.mem_cons_of_mem _ member)
    rw [List.filterMap_cons]
    rcases found : entries[index]? with _ | ⟨call, answers⟩
    · exact later
    · have same := alone index (List.mem_cons_self _ _) call answers found
      exact ⟨.inl (by rw [same]), by rw [same]; exact later⟩

theorem filterMap_range_getElem? {α : Type} (entries : List α) :
    (List.range entries.length).filterMap (entries[·]?) = entries := by
  induction entries using List.reverseRecOn with
  | nil => rfl
  | append_singleton entries last ih =>
    rw [List.length_append, List.length_singleton, List.range_succ, List.filterMap_append,
      List.filterMap_congr fun index member => List.getElem?_append_left (List.mem_range.mp member), ih,
      List.filterMap_cons_some (List.getElem?_concat_length entries last)]
    rfl

/-- The run's history is its calls with their answers, and it replays from the empty store to the run's
store. -/
theorem linearization (events : List (Event Key)) :
    (tracedRun ops events).history.Perm ((run ops events).calls.zip (tracedRun ops events).answers) ∧
      Replays ops .empty (tracedRun ops events).history (run ops events).cache := by
  have inv := linearized_run ops events
  rw [← tracedRun_system ops events]
  set traced := tracedRun ops events
  set size := traced.system.calls.length
  let rest := (List.range size).filter fun index => !decide (index ∈ traced.order)
  have replays : Replays ops .empty ((traced.order ++ rest).filterMap (traced.entries[·]?)) traced.system.cache := by
    rw [List.filterMap_append]
    refine replays_append ops inv.replays (replays_alone ops rest fun index member => ?_)
    have outside : index ∉ traced.order := by simpa using (List.mem_filter.mp member).2
    exact fun call answers found => inv.alone index outside call answers found _
  have indices : (traced.order ++ rest).Perm (List.range size) := by
    refine List.Perm.trans (List.Perm.append_right rest ?_)
      (List.filter_append_perm (fun index => decide (index ∈ traced.order)) (List.range size))
    refine (List.perm_ext_iff_of_nodup inv.distinct ((List.nodup_range size).filter _)).mpr fun index => ?_
    simp only [List.mem_filter, List.mem_range, decide_eq_true_eq]
    exact ⟨fun member => ⟨inv.bounded index member, member⟩, And.right⟩
  have entries : traced.entries.length = size := by simp [Traced.entries, inv.lengths, size]
  refine ⟨?_, replays⟩
  have permuted := indices.filterMap (traced.entries[·]?)
  rwa [← entries, filterMap_range_getElem?] at permuted

/-- Any interleaving of `CryptoOps` calls on one key store is its history: its calls made one after another
in the order they reached the store, each with the answers it got. They replay to the run's store, so its
keys are those the abstract model registers for that history. -/
theorem run_linearizable (events : List (Event Key)) :
    let history := (tracedRun ops events).history
    history.Perm ((run ops events).calls.zip (tracedRun ops events).answers) ∧
      Replays ops .empty history (run ops events).cache ∧
      (runSequential ops (history.map fun entry => (operationOf entry.1, entry.2))).1 = (run ops events).cache ∧
      ∀ kid, ((run ops events).cache.asymmetricKeys kid).isSome =
        registered kid (runSequential ops (history.map fun entry => (operationOf entry.1, entry.2))).2 := by
  obtain ⟨permuted, replays⟩ := linearization ops events
  have store : (runSequential ops ((tracedRun ops events).history.map fun entry => (operationOf entry.1, entry.2))).1 =
      (run ops events).cache :=
    replays_foldl ops _ (fun _ _ => by rfl) _ replays
  refine ⟨permuted, replays, store, fun kid => ?_⟩
  rw [← runSequential_registered ops _ kid, store]

example :
    (run fixedOps [.start (.removeTokenBindingKey "k"), .resume 0 resolved,
        .start (.getPublicKeyThumbprint ⟨none, none⟩ none), .resume 1 ⟨none, some ⟨some 1, some 2⟩, false⟩,
        .resume 1 resolved, .resume 1 resolved, .resume 1 resolved, .resume 1 resolved, .resume 1 resolved,
        .resume 0 resolved]).calls =
      [.removeTokenBindingKey "k" (.returned (.ok false)),
        .getPublicKeyThumbprint ⟨none, none⟩ none (.returned (.ok "k"))] ∧
    (perform fixedOps .empty (.removeTokenBindingKey "k") [resolved, resolved]).2 =
      .removeTokenBindingKey "k" (.returned (.ok true)) :=
  ⟨rfl, rfl⟩

theorem absent_iff_not_registered (history : List (Operation × List (Answer Key))) (kid : String) :
    (runSequential ops history).1.asymmetricKeys kid = none ↔ registered kid (runSequential ops history).2 = false := by
  rw [← runSequential_registered ops history kid]
  cases (runSequential ops history).1.asymmetricKeys kid <;> simp

/-- Each call of a run's history ends as it does made alone after the calls before it. -/
theorem history_endsAlone (events : List (Event Key)) {before after : List (Call Key × List (Answer Key))}
    {call : Call Key} {answers : List (Answer Key)}
    (placed : (tracedRun ops events).history = before ++ (call, answers) :: after) :
    EndsAlone ops (runSequential ops (before.map fun entry => (operationOf entry.1, entry.2))).1 call answers after := by
  have replays := (linearization ops events).2
  rw [placed] at replays
  exact endsAlone_foldl ops _ (fun _ _ => by rfl) _ replays

/-- The lookups of `signJwt` and `getAsymmetricPublicKey` after some calls of a run's history: one throws
`SigningKeyNotFoundInStorage` exactly when it goes through and the calls before it leave its key unregistered. -/
theorem history_lookup_not_found (events : List (Event Key)) {before after : List (Call Key × List (Answer Key))}
    {call : Call Key} {answers : List (Answer Key)} {kid : String}
    (placed : (tracedRun ops events).history = before ++ (call, answers) :: after)
    (lookup : lookedUp (operationOf call) = some kid) :
    some call = thrownBy (.browserAuth .signingKeyNotFoundInStorage) (operationOf call) ↔
      firstResolves answers ∧
        registered kid (runSequential ops (before.map fun entry => (operationOf entry.1, entry.2))).2 = false := by
  rcases history_endsAlone ops events placed with same | ⟨_, rfl, -⟩
  · rw [← absent_iff_not_registered, ← perform_lookup_not_found ops _ _ answers lookup, ← same]
  · cases lookup

/-- In any interleaving of `CryptoOps` calls, `signJwt(kid)` and `getAsymmetricPublicKey(kid)` throw
`SigningKeyNotFoundInStorage` exactly when their lookup goes through and `kid` is not registered after
the calls before them in the run's history, the order the calls reached the store. -/
theorem interleaved_signing_keys (events : List (Event Key)) (before after : List (Call Key × List (Answer Key)))
    (answers : List (Answer Key)) :
    let effects := (runSequential ops (before.map fun entry => (operationOf entry.1, entry.2))).2
    (∀ payload kid stage, (tracedRun ops events).history = before ++ (.signJwt payload kid stage, answers) :: after →
      (stage = .returned (.error (.browserAuth .signingKeyNotFoundInStorage)) ↔
        firstResolves answers ∧ registered kid effects = false)) ∧
    ∀ keyThumbprint stage,
      (tracedRun ops events).history = before ++ (.getAsymmetricPublicKey keyThumbprint stage, answers) :: after →
        (stage = .returned (.error (.browserAuth .signingKeyNotFoundInStorage)) ↔
          firstResolves answers ∧ registered keyThumbprint effects = false) := by
  refine ⟨fun _ _ _ placed => ?_, fun _ _ placed => ?_⟩ <;>
    simpa [thrownBy, operationOf] using history_lookup_not_found ops events placed rfl

/-! ### The thumbprint a call returns -/

/-- Past its `generateKeyPair`, a `getPublicKeyThumbprint` call generates no key pair and never stands
there again. -/
theorem resume_past_generateKeyPair (request : SignedHttpRequestParameters) (keyType : Option CryptoKeyTypes)
    (cache : CryptoKeyStore Key) (answer : Answer Key) {stage : ThumbprintStage Key} (past : stage ≠ .generateKeyPair) :
    (stage.resume ops request keyType cache answer).2.1 ≠ .generateKeyPair ∧
      (stage.resume ops request keyType cache answer).2.2 = none := by
  obtain ⟨_ | _, keyPair, deleted⟩ := answer <;> cases stage <;> simp_all [ThumbprintStage.resume, resolving]

/-- A `getPublicKeyThumbprint` call made alone past its `generateKeyPair` keeps its invariant. -/
theorem resumeAll_thumbprintValid {generated : List (KeyGeneration Key)} (cache : CryptoKeyStore Key)
    (request : SignedHttpRequestParameters) (keyType : Option CryptoKeyTypes) (stage : ThumbprintStage Key)
    (answers : List (Answer Key)) (past : stage ≠ .generateKeyPair)
    (valid : ThumbprintValid ops generated request keyType stage) :
    ∃ last, (resumeAll ops cache (.getPublicKeyThumbprint request keyType stage) answers).2 =
      .getPublicKeyThumbprint request keyType last ∧ ThumbprintValid ops generated request keyType last := by
  induction answers generalizing cache stage with
  | nil => exact ⟨stage, rfl, valid⟩
  | cons answer answers ih =>
    obtain ⟨stillPast, generatesNone⟩ := resume_past_generateKeyPair ops request keyType cache answer past
    have next : ThumbprintValid ops (generated ++ (stage.resume ops request keyType cache answer).2.2.toList) request
        keyType (stage.resume ops request keyType cache answer).2.1 :=
      thumbprintValid_resume request keyType answer stage valid
    rw [generatesNone, Option.toList_none, List.append_nil] at next
    exact ih _ _ stillPast next

/-- A `getPublicKeyThumbprint` call made alone that returns `kid` got both halves of a key pair in its
first answer, and `kid` is that public key's thumbprint. -/
theorem perform_thumbprint_returned (cache : CryptoKeyStore Key) (request : SignedHttpRequestParameters)
    (keyType : Option CryptoKeyTypes) (answers : List (Answer Key)) {kid : String}
    (returned : (perform ops cache (.getPublicKeyThumbprint request keyType) answers).2 =
      .getPublicKeyThumbprint request keyType (.returned (.ok kid))) :
    ∃ publicKey privateKey deleted later, answers = ⟨none, some ⟨some publicKey, some privateKey⟩, deleted⟩ :: later ∧
      kid = ops.publicKeyThumbprint publicKey := by
  rcases answers with _ | ⟨⟨_ | error, keyPair, deleted⟩, later⟩
  · simp [perform, resumeAll, Operation.start] at returned
  · obtain ⟨publicKey, privateKey, rfl⟩ : ∃ publicKey privateKey, keyPair = some ⟨some publicKey, some privateKey⟩ := by
      rcases keyPair with _ | ⟨_ | publicKey, _ | privateKey⟩ <;>
        simp_all [perform, resumeAll, Operation.start, Call.resume, ThumbprintStage.resume, resumeAll_done, Done]
    obtain ⟨last, ended, valid⟩ := resumeAll_thumbprintValid ops cache request keyType
      (.exportPublicKey publicKey privateKey) later nofun
      (List.mem_singleton_self (KeyGeneration.mk request keyType publicKey privateKey))
    have performed : (perform ops cache (.getPublicKeyThumbprint request keyType)
        (⟨none, some ⟨some publicKey, some privateKey⟩, deleted⟩ :: later)).2 = .getPublicKeyThumbprint request keyType last :=
      ended
    rw [performed, Call.getPublicKeyThumbprint.injEq] at returned
    obtain ⟨-, -, rfl⟩ := returned
    obtain ⟨_, _, own, hashed⟩ := valid
    cases List.mem_singleton.mp own
    exact ⟨publicKey, privateKey, deleted, later, rfl, hashed⟩
  · simp [perform, resumeAll, Operation.start, Call.resume, ThumbprintStage.resume, resumeAll_done, Done] at returned

/-- The thumbprint a `getPublicKeyThumbprint` call of an interleaving returns is that of the public key in
its own first answer, the one its `generateKeyPair` resolved with, whatever ran between its awaits. -/
theorem getPublicKeyThumbprint_returns_own_thumbprint (events : List (Event Key)) (index : Nat)
    (request : SignedHttpRequestParameters) (keyType : Option CryptoKeyTypes) (kid : String)
    (returned : (run ops events).calls[index]? = some (.getPublicKeyThumbprint request keyType (.returned (.ok kid)))) :
    ∃ publicKey privateKey deleted later,
      (tracedRun ops events).answers[index]? = some (⟨none, some ⟨some publicKey, some privateKey⟩, deleted⟩ :: later) ∧
      let publicJwk := (ops.browserCrypto.exportJwk publicKey).toJs
      kid = ops.hashString
        (getJwkString [("e", get publicJwk "e"), ("kty", get publicJwk "kty"), ("n", get publicJwk "n")]) := by
  have lengths := (linearized_run ops events).lengths
  rw [tracedRun_system] at lengths
  have bounded : index < (tracedRun ops events).answers.length := by
    rw [lengths]
    exact (List.getElem?_eq_some_iff.mp returned).1
  obtain ⟨answers, got⟩ : ∃ answers, (tracedRun ops events).answers[index]? = some answers :=
    ⟨_, List.getElem?_eq_getElem bounded⟩
  have entry : ((run ops events).calls.zip (tracedRun ops events).answers)[index]? =
      some (.getPublicKeyThumbprint request keyType (.returned (.ok kid)), answers) :=
    List.getElem?_zip_eq_some.mpr ⟨returned, got⟩
  obtain ⟨before, after, placed⟩ :=
    List.append_of_mem ((linearization ops events).1.mem_iff.mpr (List.mem_iff_getElem?.mpr ⟨index, entry⟩))
  rcases history_endsAlone ops events placed with same | ⟨_, wrong, -⟩
  · obtain ⟨publicKey, privateKey, deleted, later, rfl, hashed⟩ :=
      perform_thumbprint_returned ops _ request keyType answers same.symm
    exact ⟨publicKey, privateKey, deleted, later, got, hashed⟩
  · cases wrong

theorem getPublicKeyThumbprint_returns_own_thumbprint_after_one_call :
    (run fixedOps generateThenSign).calls[0]? =
        some (.getPublicKeyThumbprint ⟨some "POST", some "https://a"⟩ none (.returned (.ok "k"))) ∧
      ∃ publicKey privateKey deleted later,
        (tracedRun fixedOps generateThenSign).answers[0]? =
          some (⟨none, some ⟨some publicKey, some privateKey⟩, deleted⟩ :: later) ∧
        let publicJwk := (fixedOps.browserCrypto.exportJwk publicKey).toJs
        "k" = fixedOps.hashString
          (getJwkString [("e", get publicJwk "e"), ("kty", get publicJwk "kty"), ("n", get publicJwk "n")]) :=
  ⟨rfl, getPublicKeyThumbprint_returns_own_thumbprint fixedOps generateThenSign 0 _ none "k" rfl⟩

end Msal.KeyStore.Linearization
