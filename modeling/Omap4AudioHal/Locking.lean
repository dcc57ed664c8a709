import Omap4AudioHal.RateFamily
import Mathlib.Logic.Relation

/-!
# Locking

Every entry point of the HAL as the sequence of `pthread_mutex_lock` and `pthread_mutex_unlock`
calls it makes on `adev->lock` and the stream locks, and threads making such calls in any
interleaving.

## The order

The structures' note on mutex acquisition order: `adev->lock` first, then a stream lock. The
starts take the lock of the other direction's active stream inside the stream's own, but always
under `adev->lock`; and a thread that holds a stream lock without `adev->lock` (the data paths of
`out_write` and `in_read`) only releases it. `Disciplined` says this of the steps left to a
thread: `adev->lock` taken with nothing held, a stream lock taken under `adev->lock` and not
already held, only held mutexes released, nothing held at the end. Every path of every entry
point is disciplined (`LockPath.disciplined`).

## Threads

`n` threads share the mutexes. At each step a scheduler lets one thread start a call, if it is
idle, or take its next lock step; a thread asking for a mutex another thread holds waits. In every
state each thread is disciplined and no mutex has two holders (`Inv`). A thread asking for
`adev->lock` then holds nothing, and one asking for a stream lock holds `adev->lock`, so the thread
it waits for holds stream locks only and asks for nothing. Waiting lowers a rank (nothing held: 2,
`adev->lock`: 1, stream locks only: 0): no thread waits on itself through a cycle
(`hal_locks_never_deadlock`), and some busy thread can always move.
-/

namespace Omap4AudioHal

/-! ## Mutexes and lock steps -/

/-- A mutex of the HAL: `adev->lock`, or the `lock` of output stream `o` or input stream `i`. -/
inductive Mutex
  | adev
  | out (o : Nat)
  | inp (i : Nat)
  deriving DecidableEq, Repr

/-- A call of `pthread_mutex_lock` or `pthread_mutex_unlock`. -/
inductive LockOp
  | lock (m : Mutex)
  | unlock (m : Mutex)
  deriving DecidableEq, Repr

/-! ## The lock steps of each entry point -/

/-- The rate-group check of `start_output_stream`: the active input's lock, if there is an active
input. -/
def startOutputStreamLocks : Option Nat → List LockOp
  | some i => [.lock (.inp i), .unlock (.inp i)]
  | none => []

/-- The rate-group check of `start_input_stream`: the active output's lock, if there is an active
output. -/
def startInputStreamLocks : Option Nat → List LockOp
  | some o => [.lock (.out o), .unlock (.out o)]
  | none => []

/-- What decides the lock steps of one pass of `out_write`: the start, with the active input it
finds, when the stream is in standby; and whether the pass ends in `-EPIPE`. -/
structure WritePassPath where
  start : Option (Option Nat)
  epipe : Bool
  deriving DecidableEq, Repr

/-- One pass of `out_write`, from `do_over`: `adev->lock` and the stream's lock; the start;
`adev->lock` released (before `goto exit` when the start fails, after reading `sco_on`
otherwise); the stream's lock released at `exit`, also after a failed `create_resampler` or
`malloc`; and after `-EPIPE` the standby under both locks, before `goto do_over`. -/
def outWritePassLocks (o : Nat) (p : WritePassPath) : List LockOp :=
  [.lock .adev, .lock (.out o)] ++
    (match p.start with
      | some activeIn => startOutputStreamLocks activeIn
      | none => []) ++
    [.unlock .adev, .unlock (.out o)] ++
    (if p.epipe then [.lock .adev, .lock (.out o), .unlock (.out o), .unlock .adev] else [])

/-- `out_write`: its passes, one after another. -/
def outWriteLocks (o : Nat) : List WritePassPath → List LockOp
  | [] => []
  | p :: ps => outWritePassLocks o p ++ outWriteLocks o ps

/-- `in_read`: `adev->lock` and the stream's lock; the start, with the active output it finds,
when the stream is in standby; `adev->lock` released after the start; the stream's lock released
at `exit`, on every path. -/
def inReadLocks (i : Nat) (start : Option (Option Nat)) : List LockOp :=
  [.lock .adev, .lock (.inp i)] ++
    (match start with
      | some activeOut => startInputStreamLocks activeOut
      | none => []) ++
    [.unlock .adev, .unlock (.inp i)]

/-- `out_standby` and `in_standby`: the standby under `adev->lock` and the stream's lock `m`. -/
def standbyLocks (m : Mutex) : List LockOp :=
  [.lock .adev, .lock m, .unlock m, .unlock .adev]

def outStandbyLocks (o : Nat) : List LockOp := standbyLocks (.out o)

def inStandbyLocks (i : Nat) : List LockOp := standbyLocks (.inp i)

/-- `adev_close_output_stream` runs `out_standby`. -/
def adevCloseOutputStreamLocks (o : Nat) : List LockOp := outStandbyLocks o

/-- `adev_close_input_stream` runs `in_standby`. -/
def adevCloseInputStreamLocks (i : Nat) : List LockOp := inStandbyLocks i

/-- `out_set_parameters` and `in_set_parameters`: `adev->lock` around the routing change, and the
stream's lock `m` around its standby when the change switches SCO on or off. -/
def setParametersLocks (m : Mutex) (scoChange : Bool) : List LockOp :=
  [.lock .adev] ++ (if scoChange then [.lock m, .unlock m] else []) ++ [.unlock .adev]

def outSetParametersLocks (o : Nat) (scoChange : Bool) : List LockOp :=
  setParametersLocks (.out o) scoChange

def inSetParametersLocks (i : Nat) (scoChange : Bool) : List LockOp :=
  setParametersLocks (.inp i) scoChange

/-- `adev->lock` around an update of the routing, when the call gets that far. -/
def adevLocks (taken : Bool) : List LockOp :=
  if taken then [.lock .adev, .unlock .adev] else []

/-- `adev_open_output_stream` takes `adev->lock` once past `calloc` and `create_resampler`. -/
def adevOpenOutputStreamLocks (routed : Bool) : List LockOp := adevLocks routed

/-- `adev_open_input_stream` takes `adev->lock` once past the channel-mask check and `calloc`;
the `malloc` and `create_resampler` that may fail come after. -/
def adevOpenInputStreamLocks (routed : Bool) : List LockOp := adevLocks routed

/-- `adev_set_parameters` takes `adev->lock` when the orientation key is present; the screen
state is written without it. -/
def adevSetParametersLocks (orientation : Bool) : List LockOp := adevLocks orientation

/-- The branches of an entry point that decide its lock steps. `adev_set_mic_mute` takes no
lock. -/
inductive LockPath
  | outWrite (o : Nat) (passes : List WritePassPath)
  | outStandby (o : Nat)
  | outSetParameters (o : Nat) (scoChange : Bool)
  | inRead (i : Nat) (start : Option (Option Nat))
  | inStandby (i : Nat)
  | inSetParameters (i : Nat) (scoChange : Bool)
  | setParameters (orientation : Bool)
  | openOutputStream (routed : Bool)
  | closeOutputStream (o : Nat)
  | openInputStream (routed : Bool)
  | closeInputStream (i : Nat)
  | setMicMute
  deriving DecidableEq, Repr

/-- The lock steps of a path. -/
def LockPath.trace : LockPath → List LockOp
  | .outWrite o passes => outWriteLocks o passes
  | .outStandby o => outStandbyLocks o
  | .outSetParameters o scoChange => outSetParametersLocks o scoChange
  | .inRead i start => inReadLocks i start
  | .inStandby i => inStandbyLocks i
  | .inSetParameters i scoChange => inSetParametersLocks i scoChange
  | .setParameters orientation => adevSetParametersLocks orientation
  | .openOutputStream routed => adevOpenOutputStreamLocks routed
  | .closeOutputStream o => adevCloseOutputStreamLocks o
  | .openInputStream routed => adevOpenInputStreamLocks routed
  | .closeInputStream i => adevCloseInputStreamLocks i
  | .setMicMute => []

/-! ## The order, for one thread -/

/-- Whether a thread holding `held` may ask for `m`: `adev->lock` only with nothing held, a
stream lock only under `adev->lock` and not one it holds. -/
def MayLock (held : List Mutex) : Mutex → Prop
  | .adev => held = []
  | m => Mutex.adev ∈ held ∧ m ∉ held

/-- The lock steps `ops`, made by a thread holding `held`, keep the order and release everything
by their end. -/
def Disciplined : List Mutex → List LockOp → Prop
  | held, [] => held = []
  | held, .lock m :: ops => MayLock held m ∧ Disciplined (m :: held) ops
  | held, .unlock m :: ops => m ∈ held ∧ Disciplined (held.erase m) ops

section Order

variable {held : List Mutex} {m : Mutex}

theorem MayLock.not_mem (h : MayLock held m) : m ∉ held := by
  cases m with
  | adev => simp only [MayLock] at h; simp [h]
  | out o => exact h.2
  | inp i => exact h.2

/-- A thread asks for a stream lock only under `adev->lock`. -/
theorem MayLock.adev_mem (h : MayLock held m) (hm : m ≠ .adev) : Mutex.adev ∈ held := by
  cases m with
  | adev => exact absurd rfl hm
  | out o => exact h.1
  | inp i => exact h.1

theorem Disciplined.append {a b : List LockOp} (ha : Disciplined held a) (hb : Disciplined [] b) :
    Disciplined held (a ++ b) := by
  induction a generalizing held with
  | nil => rw [ha]; exact hb
  | cons op a ih =>
    cases op with
    | lock m => exact ⟨ha.1, ih ha.2⟩
    | unlock m => exact ⟨ha.1, ih ha.2⟩

theorem disciplined_standbyLocks (hm : m ≠ .adev) : Disciplined [] (standbyLocks m) := by
  cases m <;> simp_all [standbyLocks, Disciplined, MayLock]

theorem disciplined_setParametersLocks (hm : m ≠ .adev) (scoChange : Bool) :
    Disciplined [] (setParametersLocks m scoChange) := by
  cases m <;> cases scoChange <;> simp_all [setParametersLocks, Disciplined, MayLock]

theorem disciplined_adevLocks (taken : Bool) : Disciplined [] (adevLocks taken) := by
  cases taken <;> simp [adevLocks, Disciplined, MayLock]

theorem disciplined_outWritePassLocks (o : Nat) (p : WritePassPath) :
    Disciplined [] (outWritePassLocks o p) := by
  obtain ⟨start, epipe⟩ := p
  rcases start with _ | _ | i <;> cases epipe <;>
    simp [outWritePassLocks, startOutputStreamLocks, Disciplined, MayLock]

theorem disciplined_outWriteLocks (o : Nat) :
    ∀ ps : List WritePassPath, Disciplined [] (outWriteLocks o ps)
  | [] => rfl
  | p :: ps => (disciplined_outWritePassLocks o p).append (disciplined_outWriteLocks o ps)

theorem disciplined_inReadLocks (i : Nat) (start : Option (Option Nat)) :
    Disciplined [] (inReadLocks i start) := by
  rcases start with _ | _ | o <;>
    simp [inReadLocks, startInputStreamLocks, Disciplined, MayLock]

/-- **Every path of every entry point keeps the order and releases what it takes**: on success,
on a failed start, on a failed `create_resampler` or `malloc`, and through every `-EPIPE`
retry. -/
theorem LockPath.disciplined : ∀ p : LockPath, Disciplined [] p.trace
  | .outWrite o passes => disciplined_outWriteLocks o passes
  | .outStandby _ => disciplined_standbyLocks Mutex.noConfusion
  | .outSetParameters _ scoChange => disciplined_setParametersLocks Mutex.noConfusion scoChange
  | .inRead i start => disciplined_inReadLocks i start
  | .inStandby _ => disciplined_standbyLocks Mutex.noConfusion
  | .inSetParameters _ scoChange => disciplined_setParametersLocks Mutex.noConfusion scoChange
  | .setParameters orientation => disciplined_adevLocks orientation
  | .openOutputStream routed => disciplined_adevLocks routed
  | .closeOutputStream _ => disciplined_standbyLocks Mutex.noConfusion
  | .openInputStream routed => disciplined_adevLocks routed
  | .closeInputStream _ => disciplined_standbyLocks Mutex.noConfusion
  | .setMicMute => rfl

end Order

/-! ## Threads -/

/-- A thread: the mutexes it holds and the lock steps left of its current call. -/
structure Thread where
  held : List Mutex
  todo : List LockOp
  deriving DecidableEq, Repr

/-- `n` threads. -/
abbrev Machine (n : Nat) := Fin n → Thread

/-- No thread holds anything or has a call under way. -/
def Machine.init (n : Nat) : Machine n := fun _ ↦ ⟨[], []⟩

/-- What the scheduler lets thread `t` do: start a call along path `p`, or take its next step. -/
inductive Sched (n : Nat)
  | start (t : Fin n) (p : LockPath)
  | next (t : Fin n)

/-- One scheduling decision. A call starts only on an idle thread; a lock step waits, leaving
everything as it is, while another thread holds the mutex. -/
def Machine.step {n : Nat} (M : Machine n) : Sched n → Machine n
  | .start t p => if (M t).todo = [] then Function.update M t ⟨(M t).held, p.trace⟩ else M
  | .next t =>
    match (M t).todo with
    | [] => M
    | .lock m :: ops =>
      if ∀ u, m ∉ (M u).held then Function.update M t ⟨m :: (M t).held, ops⟩ else M
    | .unlock m :: ops => Function.update M t ⟨(M t).held.erase m, ops⟩

/-- The state after a schedule: any interleaving of the threads' steps. -/
def Machine.run {n : Nat} (M : Machine n) : List (Sched n) → Machine n
  | [] => M
  | s :: ss => (M.step s).run ss

section Machine

variable {n : Nat} {M : Machine n}

/-- No mutex has two holders. -/
def Exclusive (M : Machine n) : Prop :=
  ∀ t u m, m ∈ (M t).held → m ∈ (M u).held → t = u

/-- What holds in every state: each thread's remaining steps keep the order, and no mutex has
two holders. -/
structure Inv (M : Machine n) : Prop where
  disciplined : ∀ t, Disciplined (M t).held (M t).todo
  exclusive : Exclusive M

theorem Inv.init : Inv (Machine.init n) :=
  ⟨fun _ ↦ rfl, fun _ _ _ h ↦ by simp [Machine.init] at h⟩

theorem exclusive_update_of_subset (hex : Exclusive M) {t : Fin n} {th : Thread}
    (hsub : ∀ x ∈ th.held, x ∈ (M t).held) : Exclusive (Function.update M t th) := by
  intro a b x ha hb
  simp only [Function.update_apply] at ha hb
  split_ifs at ha hb with h₁ h₂ h₂
  · exact h₁.trans h₂.symm
  · exact h₁ ▸ hex t b x (hsub x ha) hb
  · exact h₂ ▸ hex a t x ha (hsub x hb)
  · exact hex a b x ha hb

theorem exclusive_update_lock (hex : Exclusive M) {t : Fin n} {m : Mutex}
    (hfree : ∀ u, m ∉ (M u).held) (ops : List LockOp) :
    Exclusive (Function.update M t ⟨m :: (M t).held, ops⟩) := by
  intro a b x ha hb
  simp only [Function.update_apply] at ha hb
  split_ifs at ha hb with h₁ h₂ h₂
  · exact h₁.trans h₂.symm
  · rcases List.mem_cons.mp ha with rfl | hx
    · exact absurd hb (hfree b)
    · exact h₁.trans (hex t b x hx hb)
  · rcases List.mem_cons.mp hb with rfl | hx
    · exact absurd ha (hfree a)
    · exact (hex a t x ha hx).trans h₂.symm
  · exact hex a b x ha hb

theorem disciplined_update (hM : ∀ t, Disciplined (M t).held (M t).todo) {t : Fin n}
    {th : Thread} (ht : Disciplined th.held th.todo) :
    ∀ u, Disciplined (Function.update M t th u).held (Function.update M t th u).todo := by
  intro u
  by_cases hu : u = t
  · subst hu; simpa using ht
  · simpa [hu] using hM u

/-- Every scheduling decision keeps the invariant. -/
theorem Inv.step (h : Inv M) (s : Sched n) : Inv (M.step s) := by
  cases s with
  | start t p =>
    simp only [Machine.step]
    split_ifs with ht
    · have hheld : (M t).held = [] := by simpa [ht, Disciplined] using h.disciplined t
      refine ⟨disciplined_update h.disciplined ?_, exclusive_update_of_subset h.exclusive
        fun _ hx ↦ hx⟩
      simpa [hheld] using p.disciplined
    · exact h
  | next t =>
    have hd := h.disciplined t
    simp only [Machine.step]
    split
    · exact h
    · next m ops ht =>
      rw [ht] at hd
      split_ifs with hfree
      · exact ⟨disciplined_update h.disciplined hd.2, exclusive_update_lock h.exclusive hfree ops⟩
      · exact h
    · next m ops ht =>
      rw [ht] at hd
      exact ⟨disciplined_update h.disciplined hd.2,
        exclusive_update_of_subset h.exclusive fun _ hx ↦ List.mem_of_mem_erase hx⟩

theorem Inv.run (h : Inv M) (ss : List (Sched n)) : Inv (M.run ss) := by
  induction ss generalizing M with
  | nil => exact h
  | cons s ss ih => exact ih (h.step s)

/-! ## No waiting in a circle -/

/-- Thread `t` waits for thread `u`: its next step asks for a mutex that `u` holds. -/
def WaitsFor (M : Machine n) (t u : Fin n) : Prop :=
  ∃ m ops, (M t).todo = .lock m :: ops ∧ m ∈ (M u).held

/-- Nothing held: 2; `adev->lock` held: 1; only stream locks held: 0. -/
def Thread.rank (th : Thread) : Nat :=
  if th.held = [] then 2 else if Mutex.adev ∈ th.held then 1 else 0

theorem Inv.mayLock (h : Inv M) {t : Fin n} {m : Mutex} {ops : List LockOp}
    (ht : (M t).todo = .lock m :: ops) : MayLock (M t).held m := by
  have hd := h.disciplined t
  rw [ht] at hd
  exact hd.1

/-- **A waiting thread waits for a thread of lower rank.** Asking for `adev->lock`, it holds
nothing; asking for a stream lock, it holds `adev->lock`, so the holder it waits for does not. -/
theorem Inv.rank_lt (h : Inv M) {t u : Fin n} (hw : WaitsFor M t u) : (M u).rank < (M t).rank := by
  obtain ⟨m, ops, ht, hu⟩ := hw
  have hmay := h.mayLock ht
  have hne : (M u).held ≠ [] := List.ne_nil_of_mem hu
  by_cases hm : m = .adev
  · subst hm
    simp only [MayLock] at hmay
    simp [Thread.rank, hmay, hne, hu]
  · have hadev := hmay.adev_mem hm
    have htu : t ≠ u := fun e ↦ hmay.not_mem (e ▸ hu)
    have hnu : Mutex.adev ∉ (M u).held := fun hu' ↦ htu (h.exclusive t u _ hadev hu')
    simp [Thread.rank, List.ne_nil_of_mem hadev, hadev, hne, hnu]

theorem Inv.rank_lt_of_transGen (h : Inv M) {t u : Fin n} (hw : Relation.TransGen (WaitsFor M) t u) :
    (M u).rank < (M t).rank := by
  induction hw with
  | single hw => exact h.rank_lt hw
  | tail _ hw ih => exact (h.rank_lt hw).trans ih

/-- What the locking must give in a state: a thread between calls holds nothing, no thread asks
for a mutex it holds, and no threads wait for one another in a circle. -/
structure LockSafe (M : Machine n) : Prop where
  released : ∀ t, (M t).todo = [] → (M t).held = []
  no_self_request : ∀ t m ops, (M t).todo = .lock m :: ops → m ∉ (M t).held
  no_cycle : ∀ t, ¬ Relation.TransGen (WaitsFor M) t t

theorem Inv.lockSafe (h : Inv M) : LockSafe M where
  released t ht := by simpa [ht, Disciplined] using h.disciplined t
  no_self_request _ _ _ ht := (h.mayLock ht).not_mem
  no_cycle _ hc := lt_irrefl _ (h.rank_lt_of_transGen hc)

/-! ## Progress -/

/-- Thread `t` can take its next step: an unlock, or a lock of a mutex no thread holds. -/
def Enabled (M : Machine n) (t : Fin n) : Prop :=
  match (M t).todo with
  | [] => False
  | .lock m :: _ => ∀ u, m ∉ (M u).held
  | .unlock _ :: _ => True

/-- An enabled thread's next step goes through. -/
theorem Machine.step_next_of_enabled {t : Fin n} (h : Enabled M t) :
    (M.step (.next t) t).todo = (M t).todo.tail := by
  unfold Enabled at h
  cases ht : (M t).todo with
  | nil => rw [ht] at h; exact h.elim
  | cons op ops =>
    rw [ht] at h
    cases op with
    | lock m => simp [Machine.step, ht, h]
    | unlock m => simp [Machine.step, ht]

/-- Some busy thread can move: following whom a blocked thread waits for lowers the rank, and
the chain ends at a thread that can step. -/
theorem Inv.progress (h : Inv M) {t : Fin n} (ht : (M t).todo ≠ []) : ∃ u, Enabled M u := by
  obtain ⟨r, hr⟩ : ∃ r, (M t).rank = r := ⟨_, rfl⟩
  induction r using Nat.strong_induction_on generalizing t with
  | _ r ih =>
    match htodo : (M t).todo with
    | [] => exact absurd htodo ht
    | .unlock m :: ops => exact ⟨t, by simp [Enabled, htodo]⟩
    | .lock m :: ops =>
      by_cases hfree : ∀ u, m ∉ (M u).held
      · exact ⟨t, by simp only [Enabled, htodo]; exact hfree⟩
      · obtain ⟨u, hu⟩ := not_forall_not.mp hfree
        have hbusy : (M u).todo ≠ [] := fun e ↦ by
          simp [h.lockSafe.released u e] at hu
        exact ih _ (hr ▸ h.rank_lt ⟨m, ops, htodo, hu⟩) hbusy rfl

end Machine

/-- **No deadlock, no self-request, every call releases its locks.** For any number of threads,
any calls along any of their paths, and any interleaving of their lock steps, no thread asks for
a mutex it holds, no threads wait for one another in a circle, and a thread whose call has
returned holds nothing. -/
theorem hal_locks_never_deadlock (n : Nat) (sched : List (Sched n)) :
    LockSafe ((Machine.init n).run sched) :=
  (Inv.init.run sched).lockSafe

/-- **Some thread can always move.** After any schedule, if a thread has a call under way, some
thread's next step can go through. -/
theorem busy_threads_can_move (n : Nat) (sched : List (Sched n)) (t : Fin n)
    (ht : ((Machine.init n).run sched t).todo ≠ []) :
    ∃ u, Enabled ((Machine.init n).run sched) u :=
  (Inv.init.run sched).progress ht

/-- An output writer holding both its locks while a reader waits for `adev->lock`. -/
def writerAndReader : List (Sched 2) :=
  [.start 0 (.outWrite 0 [⟨some (some 0), false⟩]), .next 0, .next 0,
   .start 1 (.inRead 0 (some (some 0))), .next 1]

theorem writer_and_reader_can_move :
    ((Machine.init 2).run writerAndReader 1).todo ≠ [] ∧
      ∃ u, Enabled ((Machine.init 2).run writerAndReader) u :=
  ⟨by decide, busy_threads_can_move 2 writerAndReader 1 (by decide)⟩

end Omap4AudioHal
