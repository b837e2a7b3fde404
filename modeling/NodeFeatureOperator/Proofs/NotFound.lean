import NodeFeatureOperator.Api.Session
import NodeFeatureOperator.Proofs.Retrying
import NodeFeatureOperator.Proofs.Timing

/-!
# What is missing when something is deleted

That there is nothing to delete is no failure of a deletion. A server says so in two ways, though:
by the code of a refusal, which is what the call for a deletion is judged by, and by its reason,
which is what a look-up is judged by. Where the two disagree, a deletion fails for want of the
object that it is to delete. `MissesOnly` says of a computation on any store which errors of that
sort it can end with, and `Store.Frank` what it takes of the store; the simulated cluster and a
session are such stores. `notFound_surfaces` says when a deletion does fail like this.
-/

namespace NodeFeatureOperator

open StoreM

/-! ## Errors for want of something -/

namespace Error

/-- The error is that of a look-up under a key of `K` which the server has refused, for some other
reason than that there is nothing. -/
def Looked (K : Key → Prop) (e : Error) : Prop :=
  ∃ k r, K k ∧ e = .object "get" k (.refused r) ∧ r.reason ≠ "NotFound"

/-- The error is that of a look-up, of a creation or a replacement, or of the listing of instances.
It is no error of a deletion. -/
inductive Lacking : Error → Prop
  | looked {e : Error} (h : e.Looked fun _ => True) : Lacking e
  | created (key : Key) (cause : ApiFailure) : Lacking (.object "create" key cause)
  | updated (key : Key) (cause : ApiFailure) : Lacking (.object "update" key cause)
  | listed (cause : ApiFailure) : Lacking (.api cause)

theorem Looked.mono {K L : Key → Prop} {e : Error} (hKL : ∀ k, K k → L k) (h : e.Looked K) :
    e.Looked L := by
  obtain ⟨k, r, hk, he, hreason⟩ := h
  exact ⟨k, r, hKL k hk, he, hreason⟩

theorem Looked.lacking {K : Key → Prop} {e : Error} (h : e.Looked K) : e.Lacking :=
  .looked (h.mono fun _ _ => trivial)

end Error

/-- Whenever the computation fails for want of something, its error is one of `P`. -/
def MissesOnly {σ α : Type} (P : Error → Prop) (m : StoreM σ α) : Prop :=
  ∀ s e s', m s = .error e s' → e.isNotFound = true → P e

namespace MissesOnly

variable {σ α β : Type} {P Q : Error → Prop} {m n : StoreM σ α} {f : α → StoreM σ β}

theorem mono (hPQ : ∀ e, P e → Q e) (h : MissesOnly P m) : MissesOnly Q m :=
  fun s e s' hm he => hPQ e (h s e s' hm he)

theorem pure (a : α) : MissesOnly P (pure a : StoreM σ α) := by
  intro s e s' h
  cases h

theorem throw {e : Error} (h : e.isNotFound = false) : MissesOnly P (throw e : StoreM σ α) := by
  intro s e' s' hrun he
  cases hrun
  cases h.symm.trans he

theorem ofExcept {r : Except Error α} (h : ∀ e, r = .error e → e.isNotFound = false) :
    MissesOnly P (StoreM.ofExcept r : StoreM σ α) := by
  cases r with
  | ok a => exact pure a
  | error e => exact throw (h e rfl)

theorem bestEffort {m : StoreM σ Unit} : MissesOnly P m.bestEffort := by
  intro s e s' h
  cases (bestEffort_run m s).symm.trans h

theorem attempt : MissesOnly P m.attempt := by
  intro s e s' h
  cases hm : m s with
  | ok a s₁ => cases (attempt_of_ok hm).symm.trans h
  | error e₁ s₁ => cases (attempt_of_error hm).symm.trans h

theorem ite {p : Prop} [Decidable p] (hm : MissesOnly P m) (hn : MissesOnly P n) :
    MissesOnly P (if p then m else n) := by
  split
  · exact hm
  · exact hn

theorem bind (hm : MissesOnly P m) (hf : ∀ a, MissesOnly P (f a)) : MissesOnly P (m >>= f) := by
  intro s e s' h he
  rcases bind_error.1 h with hfirst | ⟨a, s₁, -, hrest⟩
  · exact hm s e s' hfirst he
  · exact hf a s₁ e s' hrest he

end MissesOnly

/-! ## Any store -/

/-- How a store says that something is missing. -/
structure Store.Frank (σ : Type) [Store σ] : Prop where
  get : ∀ key, MissesOnly (Error.Looked (· = key))
    (Store.get key : StoreM σ (Option ManagedObject))
  create : ∀ o, MissesOnly Error.Lacking (Store.create o : StoreM σ ManagedObject)
  update : ∀ o, MissesOnly Error.Lacking (Store.update o : StoreM σ ManagedObject)
  list : MissesOnly Error.Lacking (Store.listInstances : StoreM σ (List Instance))
  pause : ∀ d, MissesOnly (fun _ => False) (Store.pause d : StoreM σ Unit)

theorem benign_error {answer : Except Error Unit} {e : Error} (h : benign answer = .error e) :
    e.isNotFound = false := by
  unfold benign at h
  split at h
  · cases h
  · split at h
    · cases h
    · next hfound =>
      cases h
      exact Bool.eq_false_iff.2 hfound

section

variable {σ : Type} [Store σ] {key : Key} {policy : RetryPolicy} {p : Pass}

/-- That an object is missing is no failure to the call for its deletion, but to the look-up before
it may be one. -/
theorem deleteOnce_misses {s s' : σ} {e : Error} (he : e.isNotFound = true) :
    deleteOnce key s = .error e s' ↔
      (Store.get key : StoreM σ (Option ManagedObject)) s = .error e s' := by
  constructor
  · intro h
    rcases bind_error.1 h with hexists | ⟨present, s₁, -, hdelete⟩
    · rcases bind_error.1 hexists with hget | ⟨_, _, -, hpure⟩
      · exact hget
      · cases hpure
    · have hbenign : MissesOnly (fun _ => False) (do
          let answer ← StoreM.attempt (Store.delete key : StoreM σ Unit)
          StoreM.ofExcept (benign answer)) :=
        MissesOnly.attempt.bind fun _ => .ofExcept fun _ => benign_error
      exact (MissesOnly.ite hbenign (.pure _) s₁ e s' hdelete he).elim
  · intro h
    exact bind_of_error (bind_of_error h)

namespace Store.Frank

theorem keyExists (h : Store.Frank σ) (key : Key) :
    MissesOnly (Error.Looked (· = key)) (keyExists key : StoreM σ Bool) :=
  (h.get key).bind fun _ => .pure _

theorem deleteOnce (h : Store.Frank σ) (key : Key) :
    MissesOnly (Error.Looked (· = key)) (deleteOnce key : StoreM σ Unit) :=
  fun s e s' hrun he => h.get key s e s' ((deleteOnce_misses he).1 hrun) he

theorem deleteTries (h : Store.Frank σ) (policy : RetryPolicy) (key : Key) (n : Nat) :
    MissesOnly (Error.Looked (· = key)) (deleteTries policy key n : StoreM σ Unit) := by
  have hpause (d : Duration) :
      MissesOnly (Error.Looked (· = key)) (Store.pause d : StoreM σ Unit) :=
    (h.pause d).mono fun _ => False.elim
  induction n with
  | zero => exact (hpause _).bind fun _ => .throw rfl
  | succ n ih =>
    refine (h.deleteOnce key).bind fun _ => (h.keyExists key).bind fun present => .ite ?_ (.pure _)
    exact .ite ((hpause _).bind fun _ => ih) ih

theorem deleteAll (h : Store.Frank σ) (policy : RetryPolicy) (keys : List Key) :
    MissesOnly (Error.Looked (· ∈ keys)) (deleteAll policy keys : StoreM σ Unit) := by
  induction keys with
  | nil => exact .pure _
  | cons key keys ih =>
    refine ((h.deleteTries policy key _).mono fun _ he => he.mono ?_).bind fun _ =>
      ih.mono fun _ he => he.mono fun _ => List.mem_cons_of_mem _
    rintro k rfl
    exact List.mem_cons_self

theorem remaining (h : Store.Frank σ) (keys : List Key) :
    MissesOnly (Error.Looked (· ∈ keys)) (remaining keys : StoreM σ (List Key)) := by
  induction keys with
  | nil => exact .pure _
  | cons key keys ih =>
    refine ((h.keyExists key).mono fun _ he => he.mono ?_).bind fun _ =>
      (ih.mono fun _ he => he.mono fun _ => List.mem_cons_of_mem _).bind fun _ => .pure _
    rintro k rfl
    exact List.mem_cons_self

theorem apply (h : Store.Frank σ) (p : Pass) (r : Resource) :
    MissesOnly Error.Lacking (p.apply r : StoreM σ Applied) := by
  unfold Pass.apply
  refine (MissesOnly.ofExcept fun _ h => (Registry.render_inner h).isNotFound).bind fun wished => ?_
  refine ((h.get _).mono fun _ => Error.Looked.lacking).bind fun found => ?_
  cases found with
  | none =>
    refine (MissesOnly.ofExcept fun _ h => (ManagedObject.own_inner h).isNotFound).bind fun o => ?_
    exact (h.create o).bind fun _ => MissesOnly.bestEffort.bind fun _ => .pure _
  | some live =>
    refine (MissesOnly.ofExcept fun _ h => (ManagedObject.converged_inner h).isNotFound).bind
      fun o => ?_
    refine .ite (.pure _) ((h.update o).bind fun _ => ?_)
    exact MissesOnly.bestEffort.bind fun _ => .pure _

theorem applyAll (h : Store.Frank σ) (p : Pass) (rs : List Resource) :
    MissesOnly Error.Lacking (p.applyAll rs : StoreM σ Unit) := by
  induction rs with
  | nil => exact .pure _
  | cons r rs ih => exact (h.apply p r).bind fun _ => ih

theorem pruneStep (h : Store.Frank σ) (p : Pass) (job : ManagedObject) :
    MissesOnly Error.Lacking (p.pruneStep job : StoreM σ PruneState) := by
  rw [Pass.pruneStep_eq]
  refine .ite (.throw rfl) (.ite ?_ (.ite ?_ (.pure _)))
  · exact ((h.deleteAll _ _).mono fun _ => Error.Looked.lacking).bind fun _ => .pure _
  · exact (MissesOnly.ite .bestEffort (.pure _)).bind fun _ => .throw rfl

theorem prune (h : Store.Frank σ) (p : Pass) :
    MissesOnly Error.Lacking (p.prune : StoreM σ PruneState) := by
  refine .ite (.pure _) (((h.get _).mono fun _ => Error.Looked.lacking).bind fun found => ?_)
  cases found with
  | none => exact (h.applyAll p _).bind fun _ => .pure _
  | some job => exact h.pruneStep p job

theorem finalize (h : Store.Frank σ) (p : Pass) :
    MissesOnly Error.Lacking (p.finalize : StoreM σ Action) := by
  refine (h.list.bind fun _ => .pure _).bind fun shared => ?_
  refine ((h.deleteAll _ _).mono fun _ => Error.Looked.lacking).bind fun _ => ?_
  refine ((h.remaining _).mono fun _ => Error.Looked.lacking).bind fun left => .ite (.pure _) ?_
  refine (h.prune p).bind fun state => ?_
  cases state with
  | inProgress => exact .pure _
  | done => exact .ite (MissesOnly.attempt.bind fun _ => .pure _) (.pure _)

end Store.Frank

end

/-! ## The simulated cluster -/

namespace Cluster

variable {verb : Verb} {key : Key} {c : Cluster} {e : Error}

theorem injected?_refused (h : c.injected? verb key = some e) :
    ∃ code, c.failures.lookup (verb, key) = some code ∧
      e = .object verb.toText key (refusal code "Injected") := by
  obtain ⟨code, hlookup, rfl⟩ := Option.map_eq_some_iff.1 h
  exact ⟨code, hlookup, rfl⟩

theorem frank : Store.Frank Cluster where
  get key := by
    intro c e c' h _
    rw [get_run] at h
    split at h
    · next hinjected =>
      cases h
      obtain ⟨code, -, rfl⟩ := injected?_refused hinjected
      exact ⟨key, _, rfl, rfl, by simp⟩
    · cases h
  create o := by
    intro c e c' h _
    rw [create_run] at h
    split at h
    · next hinjected =>
      cases h
      obtain ⟨code, -, rfl⟩ := injected?_refused hinjected
      exact .created _ _
    · dsimp only at h
      split at h
      · cases h
        exact .created _ _
      · cases h
  update o := by
    intro c e c' h _
    rw [update_run] at h
    split at h
    · next hinjected =>
      cases h
      obtain ⟨code, -, rfl⟩ := injected?_refused hinjected
      exact .updated _ _
    · dsimp only at h
      split at h
      · cases h
        exact .updated _ _
      · split at h
        · cases h
          exact .updated _ _
        · cases h
  list := by
    intro c e c' h
    cases h
  pause d := by
    intro c e c' h
    cases h

/-- A look-up fails for want of an object exactly if it is made to fail with the code for it. -/
theorem get_misses_iff (key : Key) (c : Cluster) :
    (∃ e c', (Store.get key : StoreM Cluster (Option ManagedObject)) c = .error e c' ∧
      e.isNotFound = true) ↔ c.failures.lookup (.get, key) = some 404 := by
  rw [get_run]
  unfold injected?
  cases c.failures.lookup (.get, key) with
  | none => simp
  | some code =>
    simp [Error.isNotFound, Error.code?, ApiFailure.code?, refusal]

end Cluster

/-! ## Sessions with an API server -/

namespace Api.Session

variable {α : Type} {key : Key} {s s' : Session} {e : Error} {cause : ApiFailure}

theorem wrapped_error {wrap : ApiFailure → Error} {m : Exchange α} :
    wrapped wrap m s = .error e s' ↔ ∃ cause, m s = .error cause s' ∧ e = wrap cause := by
  unfold wrapped
  cases m s with
  | ok a s₁ => simp
  | error cause s₁ => simp [eq_comm, and_comm]

theorem orNothing_refused {m : Exchange α} {r : Refusal} :
    orNothing m s = .error (.refused r) s' ↔
      m s = .error (.refused r) s' ∧ r.reason ≠ "NotFound" := by
  unfold orNothing
  cases m s with
  | ok a s₁ => simp
  | error cause s₁ =>
    cases cause with
    | refused r₁ =>
      by_cases hreason : r₁.reason = "NotFound"
      · simp only [hreason, if_true]
        constructor
        · rintro ⟨⟩
        · rintro ⟨⟨⟩, hother⟩
          exact (hother hreason).elim
      · simp only [hreason, if_false]
        constructor
        · rintro ⟨⟩
          exact ⟨rfl, hreason⟩
        · rintro ⟨⟨⟩, -⟩
          rfl
    | _ => simp

/-- What the next request is answered. -/
def next (s : Session) : Response := s.answers.head?.getD .unavailable

/-- What comes of a request with a target: the next answer is used up. -/
theorem send_run {target : Target} {path : String} (h : Target.parse? path = some target)
    (method : Method) (body : Option (String × Json)) (s : Session) :
    let r := s.next
    let asked : Session := { s with
      answers := s.answers.tail
      requests := s.requests ++ [⟨method, target, body.map (·.1), body.map (·.2)⟩] }
    send method path body s =
      match r.refusal? with
      | some refusal => .error (.refused refusal) asked
      | none => .ok r.body asked := by
  intro r asked
  have hanswer : answer { s with requests := asked.requests } = .ok r asked := by
    obtain ⟨answers, requests, reporter, elapsed, clock⟩ := s
    cases answers <;> rfl
  unfold send
  rw [h]
  change EStateM.bind answer _ { s with requests := asked.requests } = _
  unfold EStateM.bind
  rw [hanswer]
  dsimp only
  cases r.refusal? <;> rfl

/-- A request is refused exactly if it has a target and the next answer is a refusal. -/
theorem ask_refused_iff {read? : Json → Option α} {method : Method} {path : String}
    {body : Option (String × Json)} {refusal : Refusal} :
    (∃ s', ask read? method path body s = .error (.refused refusal) s') ↔
      (Target.parse? path).isSome ∧ s.next.refusal? = some refusal := by
  change (∃ s', EStateM.bind (send method path body) _ s = _) ↔ _
  unfold EStateM.bind
  cases h : Target.parse? path with
  | none =>
    have hsend : send method path body s = .error (.badRequest "invalid uri character") s := by
      unfold send
      rw [h]
      rfl
    simp [hsend]
  | some target =>
    rw [send_run h]
    cases (s.next).refusal? with
    | some r => simp
    | none =>
      refine iff_of_false ?_ (by simp)
      rintro ⟨s', hrun⟩
      dsimp only at hrun
      cases hread : (Json.parse? (s.next).body).bind read? with
      | none =>
        rw [hread] at hrun
        cases hrun
      | some a =>
        rw [hread] at hrun
        cases hrun

theorem encoded_found {o : ManagedObject} (h : encoded o s = .error e s') :
    e.isNotFound = false := by
  unfold encoded at h
  cases hwritten : o.toFree? with
  | none =>
    rw [hwritten] at h
    cases h
    rfl
  | some d =>
    rw [hwritten] at h
    cases h

theorem decoded_found {kind : Kind} {d : FreeDocument} (h : decoded kind d s = .error e s') :
    e.isNotFound = false := by
  unfold decoded at h
  cases hread : d.toObject? kind with
  | none =>
    rw [hread] at h
    cases h
    rfl
  | some o =>
    rw [hread] at h
    cases h

/-- The request of a look-up. -/
def lookUp (key : Key) : Exchange FreeDocument := do
  ask FreeDocument.decode? .get (← member (objects key) key.name) none

theorem lookUp_refused_iff {refusal : Refusal} :
    (∃ s', lookUp key s = .error (.refused refusal) s') ↔
      key.name ≠ "" ∧ (Target.parse? (objects key ++ "/" ++ key.name)).isSome ∧
        s.next.refusal? = some refusal := by
  by_cases hname : key.name = ""
  · have hrun : lookUp key s = .error (.badRequest "A non-empty name is required") s := by
      unfold lookUp member
      rw [if_pos hname]
      rfl
    simp [hrun, hname]
  · have hrun : lookUp key s =
        ask FreeDocument.decode? .get (objects key ++ "/" ++ key.name) none s := by
      unfold lookUp member
      rw [if_neg hname]
      rfl
    rw [hrun, ask_refused_iff]
    simp [hname]

/-- A look-up fails for want of an object exactly if it is refused with the code for that, but for
another reason. -/
theorem get_misses :
    (Store.get key : StoreM Session (Option ManagedObject)) s = .error e s' ∧ e.isNotFound = true ↔
      ∃ r : Refusal, e = .object "get" key (.refused r) ∧ r.code = 404 ∧ r.reason ≠ "NotFound" ∧
        lookUp key s = .error (.refused r) s' := by
  constructor
  · rintro ⟨h, he⟩
    rcases bind_error.1 h with hwrapped | ⟨found, s₁, -, hdecoded⟩
    · obtain ⟨cause, hrun, rfl⟩ := wrapped_error.1 hwrapped
      cases cause with
      | refused r =>
        obtain ⟨hlook, hreason⟩ := orNothing_refused.1 hrun
        exact ⟨r, rfl, by simpa [Error.isNotFound, Error.code?, ApiFailure.code?] using he, hreason,
          hlook⟩
      | _ => cases he
    · cases found with
      | none => cases hdecoded
      | some d =>
        rcases bind_error.1 hdecoded with hread | ⟨_, _, -, hpure⟩
        · cases (decoded_found hread).symm.trans he
        · cases hpure
  · rintro ⟨r, rfl, hcode, hreason, hlook⟩
    refine ⟨bind_of_error (wrapped_error.2 ⟨_, orNothing_refused.2 ⟨hlook, hreason⟩, rfl⟩), ?_⟩
    simp [Error.isNotFound, Error.code?, ApiFailure.code?, hcode]

theorem frank : Store.Frank Session where
  get key := by
    intro s e s' h he
    obtain ⟨r, rfl, -, hreason, -⟩ := get_misses.1 ⟨h, he⟩
    exact ⟨key, r, rfl, rfl, hreason⟩
  create o := by
    refine MissesOnly.bind (fun s e s' h he => ?_) fun d => MissesOnly.bind (fun s e s' h _ => ?_)
      fun made => fun s e s' h he => ?_
    · cases (encoded_found h).symm.trans he
    · obtain ⟨cause, -, rfl⟩ := wrapped_error.1 h
      exact .created _ _
    · cases (decoded_found h).symm.trans he
  update o := by
    refine MissesOnly.bind (fun s e s' h he => ?_) fun d => MissesOnly.bind (fun s e s' h _ => ?_)
      fun made => fun s e s' h he => ?_
    · cases (encoded_found h).symm.trans he
    · obtain ⟨cause, -, rfl⟩ := wrapped_error.1 h
      exact .updated _ _
    · cases (decoded_found h).symm.trans he
  list := by
    intro s e s' h _
    obtain ⟨cause, -, rfl⟩ := wrapped_error.1 h
    exact .listed _
  pause d := by
    intro s e s' h
    cases h

/-- The next answer refuses a look-up of the object with the code for what is missing, but names
another reason. -/
def Disowns (s : Session) (key : Key) : Prop :=
  key.name ≠ "" ∧ (Target.parse? (objects key ++ "/" ++ key.name)).isSome ∧
    ∃ r ∈ s.next.refusal?, r.code = 404 ∧ r.reason ≠ "NotFound"

theorem get_misses_iff (key : Key) (s : Session) :
    (∃ e s', (Store.get key : StoreM Session (Option ManagedObject)) s = .error e s' ∧
      e.isNotFound = true) ↔ s.Disowns key := by
  constructor
  · rintro ⟨e, s', h⟩
    obtain ⟨r, -, hcode, hreason, hlook⟩ := get_misses.1 h
    obtain ⟨hname, htarget, hnext⟩ := lookUp_refused_iff.1 ⟨s', hlook⟩
    exact ⟨hname, htarget, r, hnext, hcode, hreason⟩
  · rintro ⟨hname, htarget, r, hnext, hcode, hreason⟩
    obtain ⟨s', hlook⟩ := lookUp_refused_iff.2 ⟨hname, htarget, hnext⟩
    exact ⟨_, s', get_misses.2 ⟨r, rfl, hcode, hreason, hlook⟩⟩

end Api.Session

/-! ## Deletions -/

open Api (Session)

/-- On the simulated cluster and in a session alike, a deletion fails for want of the object exactly
if it is the look-up that is refused, with the code for what is missing and for another reason. What
the call for the deletion is answered does not matter. So it is with the tries, and a whole teardown
fails for want of something only in a look-up like that, in what it does to create the prune job, or
when it lists the instances. -/
theorem notFound_surfaces (policy : RetryPolicy) (p : Pass) (key : Key) :
    (∀ c : Cluster, (∃ e c', (deleteOnce key : StoreM Cluster Unit) c = .error e c' ∧
      e.isNotFound = true) ↔ c.failures.lookup (.get, key) = some 404) ∧
    (∀ c : Cluster, (∃ e c', (deleteWithRetry policy key : StoreM Cluster Unit) c = .error e c' ∧
      e.isNotFound = true) ↔ c.failures.lookup (.get, key) = some 404) ∧
    (∀ s : Session, (∃ e s', (deleteOnce key : StoreM Session Unit) s = .error e s' ∧
      e.isNotFound = true) ↔ s.Disowns key) ∧
    MissesOnly (Error.Looked (· = key)) (deleteWithRetry policy key : StoreM Session Unit) ∧
    MissesOnly Error.Lacking (p.finalize : StoreM Cluster Action) ∧
    MissesOnly Error.Lacking (p.finalize : StoreM Session Action) := by
  have honce (c : Cluster) : (∃ e c', (deleteOnce key : StoreM Cluster Unit) c = .error e c' ∧
      e.isNotFound = true) ↔ c.failures.lookup (.get, key) = some 404 := by
    rw [← Cluster.get_misses_iff]
    exact exists₂_congr fun e c' => and_congr_left deleteOnce_misses
  refine ⟨honce, fun c => ?_, fun s => ?_, Session.frank.deleteTries policy key _,
    Cluster.frank.finalize p, Session.frank.finalize p⟩
  · rw [← honce]
    refine exists₂_congr fun e c' => and_congr_left fun he => ?_
    constructor
    · intro h
      rcases deleteWithRetry_error h with rfl | hdelete
      · cases he
      · exact hdelete
    · exact bind_of_error
  · rw [← Session.get_misses_iff]
    exact exists₂_congr fun e s' => and_congr_left deleteOnce_misses

/-- A bare 404, as a server answers where it does not know the kind, makes a deletion fail for want
of the object when it comes to the look-up, and so does a failure with that code which is injected
into the look-up of what is not there. To the call for the deletion the same answer is no
failure. -/
theorem deleteOnce_of_bare_notFound :
    let key := Key.namespaced .configMap "a" "nfd-worker"
    let bare : Api.Response := ⟨404, "404 page not found"⟩
    let found : Api.Response := ⟨200,
      "\x7b\"kind\":\"ConfigMap\",\"metadata\":\x7b\"name\":\"nfd-worker\"\x7d\x7d"⟩
    let session (answers : List Api.Response) : Session := { answers, reporter := default }
    let cluster : Cluster := { failures := [((.get, key), 404)] }
    (∃ e, (deleteOnce key : StoreM Session Unit).answer (session [bare]) = .error e ∧
      e.isNotFound = true) ∧
    (∃ e, (deleteOnce key : StoreM Cluster Unit).answer cluster = .error e ∧
      e.isNotFound = true ∧ Table.get? cluster.objects key = none) ∧
    (deleteOnce key : StoreM Session Unit).answer (session [found, bare]) = .ok () := by
  intro key bare found session cluster
  refine ⟨⟨.object "get" key (.refused ⟨"404 Not Found", "\"404 page not found\"",
    "Failed to parse error data", 404⟩), ?_, rfl⟩,
    ⟨.object "get" key (Cluster.refusal 404 "Injected"), ?_, rfl, rfl⟩, ?_⟩
  all_goals decide +kernel

end NodeFeatureOperator
