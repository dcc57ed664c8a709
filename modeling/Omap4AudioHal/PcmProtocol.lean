import Omap4AudioHal.Bookkeeping

/-!
# The PCM call protocol

tinyalsa hands out a handle per `pcm_open`. A handle may be written to (`pcm_mmap_write`), read
from (`pcm_read`) and closed only while it is open, and a stream whose handle is open must not
open another one, or the first is lost. This module checks every collaborator call of the HAL
against that contract, one PCM at a time, over every run from `adev_open`.

## A checked replay

`pcmReplay d x b evs` replays the calls `evs` on the PCM of stream `x` in direction `d`, open or
closed (`b`) at the start, and fails (`none`) at the first call the contract forbids. Calls on
other PCMs, resampler resets and sleeps pass through.

## The open PCMs are the streams out of standby

`Hal.live` says which streams are out of standby. Every call of the HAL replays, on every PCM,
from the live streams of the state it starts in to the live streams of the state it leaves
(`Tracks.apply`). A start that fails closes the handle it has just opened and leaves the stream
in standby, with the closed handle still in `pcm`; a start that succeeds leaves the stream out of
standby; a transfer only happens on a stream that is out of standby at that point; a standby
closes exactly when the stream was out of it. The only fact about the state this needs is that
nothing lives under the next stream number, which `Books` carries.

Over a whole run the replay from `adev_open`, where nothing is open, therefore never fails, and
ends on the streams then out of standby (`pcm_calls_follow_open_transfer_close`). In particular
a stream freed by `adev_close_output_stream` or `adev_close_input_stream` has closed its PCM.
-/

namespace Omap4AudioHal

/-! ## What a call does to a PCM -/

/-- What a collaborator call does to the PCM it names. -/
inductive PcmCall
  | opens
  | closes
  | transfers
  deriving DecidableEq, Repr

/-- The PCM a call names, by direction and stream number, and what the call does to it; `none`
for the calls that name no PCM. -/
def Event.pcmCall : Event → Option (Dir × Nat × PcmCall)
  | .pcmOpen d x _ _ _ => some (d, x, .opens)
  | .pcmClose d x => some (d, x, .closes)
  | .mmapWrite o _ _ => some (.output, o, .transfers)
  | .pcmRead i _ _ => some (.input, i, .transfers)
  | .resamplerReset _ _ => none
  | .usleep _ => none

/-- The contract on one handle: whether it is open after the call, `none` for an open of an open
handle and for a close or a transfer on a closed one. -/
def PcmCall.next : PcmCall → Bool → Option Bool
  | .opens, false => some true
  | .closes, true => some false
  | .transfers, true => some true
  | _, _ => none

/-- One call, replayed on the PCM of stream `x` in direction `d`. -/
def Event.onPcm (e : Event) (d : Dir) (x : Nat) (b : Bool) : Option Bool :=
  match e.pcmCall with
  | some (d', x', c) => if d' = d ∧ x' = x then c.next b else some b
  | none => some b

/-- The calls `evs` replayed on the PCM of stream `x` in direction `d`, open (`b`) or not at the
start: whether it is open at the end, or `none` at the first call the contract forbids. -/
def pcmReplay (d : Dir) (x : Nat) : Bool → List Event → Option Bool
  | b, [] => some b
  | b, e :: es => (e.onPcm d x b).bind (pcmReplay d x · es)

theorem pcmReplay_append (d : Dir) (x : Nat) (b : Bool) (es₁ es₂ : List Event) :
    pcmReplay d x b (es₁ ++ es₂) = (pcmReplay d x b es₁).bind (pcmReplay d x · es₂) := by
  induction es₁ generalizing b with
  | nil => rfl
  | cons e es ih =>
    show (e.onPcm d x b).bind (pcmReplay d x · (es ++ es₂)) =
      ((e.onPcm d x b).bind (pcmReplay d x · es)).bind (pcmReplay d x · es₂)
    simp only [ih, Option.bind_assoc]

/-- A call that names no PCM, or transfers on the PCM of stream `x` in direction `d`. -/
def Event.TransfersOn (e : Event) (d : Dir) (x : Nat) : Prop :=
  e.pcmCall = none ∨ e.pcmCall = some (d, x, .transfers)

/-! ## The streams out of standby -/

/-- The PCMs that should be open: those of the streams out of standby. -/
def Hal.live (s : Hal) : Dir → Nat → Bool
  | .output, o => (s.outs o).any (!·.standby)
  | .input, i => (s.ins i).any (!·.standby)

/-- `L` with the PCM of stream `x` in direction `d` open (`b`) or closed. -/
def setLive (L : Dir → Nat → Bool) (d : Dir) (x : Nat) (b : Bool) : Dir → Nat → Bool :=
  fun d' x' ↦ if d' = d ∧ x' = x then b else L d' x'

section SetLive

variable {L : Dir → Nat → Bool} {d : Dir} {x : Nat} {b : Bool}

theorem setLive_of_eq (h : L d x = b) : setLive L d x b = L := by
  funext d' x'
  by_cases hd : d' = d ∧ x' = x
  · obtain ⟨rfl, rfl⟩ := hd
    simp [setLive, h]
  · simp [setLive, hd]

@[simp] theorem setLive_setLive (b' : Bool) : setLive (setLive L d x b) d x b' = setLive L d x b' := by
  funext d' x'
  simp only [setLive]
  split_ifs <;> rfl

@[simp] theorem setLive_self : setLive L d x b d x = b := by simp [setLive]

end SetLive

namespace Hal

variable (s : Hal) (o i : Nat)

theorem live_setOut (y : StreamOut) : (s.setOut o y).live = setLive s.live .output o (!y.standby) := by
  funext d x
  cases d
  · by_cases hx : x = o <;> simp [live, setLive, setOut_outs, hx]
  · simp [live, setLive]

theorem live_setIn (y : StreamIn) : (s.setIn i y).live = setLive s.live .input i (!y.standby) := by
  funext d x
  cases d
  · simp [live, setLive]
  · by_cases hx : x = i <;> simp [live, setLive, setIn_ins, hx]

theorem live_eraseOut :
    { s with outs := Function.update s.outs o none }.live = setLive s.live .output o false := by
  funext d x
  cases d
  · by_cases hx : x = o <;> simp [live, setLive, Function.update_apply, hx]
  · simp [live, setLive]

theorem live_eraseIn :
    { s with ins := Function.update s.ins i none }.live = setLive s.live .input i false := by
  funext d x
  cases d
  · simp [live, setLive]
  · by_cases hx : x = i <;> simp [live, setLive, Function.update_apply, hx]

end Hal

/-! ## Replays between two sets of open PCMs -/

/-- The calls `evs`, replayed on every PCM, take the open ones from `L` to `L'` without breaking
the contract. -/
def Tracks (L : Dir → Nat → Bool) (evs : List Event) (L' : Dir → Nat → Bool) : Prop :=
  ∀ d x, pcmReplay d x (L d x) evs = some (L' d x)

namespace Tracks

variable {L L₁ L₂ : Dir → Nat → Bool} {evs e₁ e₂ : List Event} {d : Dir} {x : Nat}

theorem nil (L : Dir → Nat → Bool) : Tracks L [] L := fun _ _ ↦ rfl

theorem append (h₁ : Tracks L e₁ L₁) (h₂ : Tracks L₁ e₂ L₂) : Tracks L (e₁ ++ e₂) L₂ :=
  fun d x ↦ by rw [pcmReplay_append, h₁ d x]; exact h₂ d x

/-- A single call on the PCM of stream `x` that the contract allows. -/
theorem single {e : Event} {c : PcmCall} {b : Bool} (he : e.pcmCall = some (d, x, c))
    (hc : c.next (L d x) = some b) : Tracks L [e] (setLive L d x b) := by
  intro d' x'
  by_cases hd : d = d' ∧ x = x'
  · obtain ⟨rfl, rfl⟩ := hd
    simp [pcmReplay, Event.onPcm, he, hc]
  · have hd' : ¬(d' = d ∧ x' = x) := fun ⟨h₁, h₂⟩ ↦ hd ⟨h₁.symm, h₂.symm⟩
    simp only [pcmReplay, Event.onPcm, he, if_neg hd, setLive, if_neg hd', Option.some_bind]

theorem closed (h : L d x = true) : Tracks L [.pcmClose d x] (setLive L d x false) :=
  single rfl (by rw [h]; rfl)

theorem opened (h : L d x = false) (card device : Nat) (config : PcmConfig) :
    Tracks L [.pcmOpen d x card device config] (setLive L d x true) :=
  single rfl (by rw [h]; rfl)

/-- Calls that name no PCM but the open one of stream `x`, and only transfer on it, leave every
PCM as it was. -/
theorem transfers (h : L d x = true) (he : ∀ e ∈ evs, e.TransfersOn d x) : Tracks L evs L := by
  intro d' x'
  induction evs with
  | nil => rfl
  | cons e es ih =>
    have hstep : e.onPcm d' x' (L d' x') = some (L d' x') := by
      rcases he e (List.mem_cons_self _ _) with hc | hc <;> simp only [Event.onPcm, hc]
      split_ifs with hd
      · obtain ⟨rfl, rfl⟩ := hd
        rw [h]; rfl
      · rfl
    simp only [pcmReplay, hstep, Option.some_bind]
    exact ih fun e' he' ↦ he e' (List.mem_cons_of_mem _ he')

theorem sleep (L : Dir → Nat → Bool) (t : Nat) : Tracks L [.usleep t] L := fun _ _ ↦ rfl

theorem resets (L : Dir → Nat → Bool) (c : Bool) (d : Dir) (x : Nat) :
    Tracks L (if c then [.resamplerReset d x] else []) L := by
  split <;> exact fun _ _ ↦ rfl

end Tracks

/-! ## Standby and start -/

section Primitives

variable {s : Hal} {o i : Nat} {out : StreamOut} {inp : StreamIn}

theorem tracks_doOutStandby (s : Hal) (o : Nat) :
    Tracks s.live (doOutStandby s o).events (doOutStandby s o).hal.live := by
  unfold doOutStandby
  split
  next out hx =>
    split_ifs with hsb
    · exact .nil _
    · show Tracks s.live _ (s.setOut o _).live
      rw [Hal.live_setOut]
      exact .closed (by simp [Hal.live, hx, hsb])
  · exact .nil _

theorem tracks_doInStandby (s : Hal) (i : Nat) :
    Tracks s.live (doInStandby s i).events (doInStandby s i).hal.live := by
  unfold doInStandby
  split
  next inp hx =>
    split_ifs with hsb
    · exact .nil _
    · show Tracks s.live _ (s.setIn i _).live
      rw [Hal.live_setIn]
      exact .closed (by simp [Hal.live, hx, hsb])
  · exact .nil _

/-- After a standby the stream's PCM is not meant to be open. -/
theorem doOutStandby_live_self (s : Hal) (o : Nat) :
    (doOutStandby s o).hal.live .output o = false := by
  unfold doOutStandby
  split
  next out hx =>
    split_ifs with hsb
    · simp [Hal.live, hx, hsb]
    · show (s.setOut o _).live .output o = false
      simp [Hal.live_setOut]
  next hx => simp [Hal.live, hx]

theorem doInStandby_live_self (s : Hal) (i : Nat) :
    (doInStandby s i).hal.live .input i = false := by
  unfold doInStandby
  split
  next inp hx =>
    split_ifs with hsb
    · simp [Hal.live, hx, hsb]
    · show (s.setIn i _).live .input i = false
      simp [Hal.live_setIn]
  next hx => simp [Hal.live, hx]

theorem tracks_inStandbyOnClash (s : Hal) (r : Nat) :
    Tracks s.live (inStandbyOnClash s r).events (inStandbyOnClash s r).hal.live := by
  unfold inStandbyOnClash
  repeat' split
  all_goals first | exact .nil _ | exact tracks_doInStandby s _

theorem tracks_outStandbyOnClash (s : Hal) (r : Nat) :
    Tracks s.live (outStandbyOnClash s r).events (outStandbyOnClash s r).hal.live := by
  unfold outStandbyOnClash
  repeat' split
  all_goals first | exact .nil _ | exact tracks_doOutStandby s _

/-- A start of a stream in standby opens its PCM, and closes it again if it is not ready. -/
theorem tracks_startOutputStream (hx : s.outs o = some out) (hsb : out.standby = true)
    (ready : Bool) :
    Tracks s.live (startOutputStream s o ready).events
      (setLive (startOutputStream s o ready).hal.live .output o ready) := by
  set c := inStandbyOnClash s (outputGeometry s.adev.outDevice out).stream.pcmConfig.rate
  have hc : c.hal.outs o = some out := by rw [inStandbyOnClash_outs, hx]
  have hoff : c.hal.live .output o = false := by simp [Hal.live, hc, hsb]
  have hst : (c.hal.setOut o (outputStarted s.adev.outDevice out ready)).live = c.hal.live := by
    rw [Hal.live_setOut, outputStarted_standby, hsb]
    exact setLive_of_eq hoff
  have hopen := (tracks_inStandbyOnClash s _).append
    (Tracks.opened hoff (outputGeometry s.adev.outDevice out).card
      (outputGeometry s.adev.outDevice out).device
      (outputGeometry s.adev.outDevice out).stream.pcmConfig)
  cases ready
  · simp only [startOutputStream, hx, Bool.false_eq_true, if_false]
    have h := hopen.append (.closed setLive_self)
    rwa [setLive_setLive, ← hst] at h
  · simp only [startOutputStream, hx, if_true]
    show Tracks _ _ (setLive (c.hal.setOut o _).live _ _ _)
    rw [hst]
    exact hopen.append (.resets _ _ _ _)

theorem tracks_startInputStream (hx : s.ins i = some inp) (hsb : inp.standby = true)
    (ready : Bool) :
    Tracks s.live (startInputStream s i ready).events
      (setLive (startInputStream s i ready).hal.live .input i ready) := by
  set c := outStandbyOnClash s (inputGeometry s.adev.inDevice inp).stream.pcmConfig.rate
  have hc : c.hal.ins i = some inp := by rw [outStandbyOnClash_ins, hx]
  have hoff : c.hal.live .input i = false := by simp [Hal.live, hc, hsb]
  have hst : (c.hal.setIn i (inputStarted s.adev.inDevice inp ready)).live = c.hal.live := by
    rw [Hal.live_setIn, inputStarted_standby, hsb]
    exact setLive_of_eq hoff
  have hopen := (tracks_outStandbyOnClash s _).append
    (Tracks.opened hoff (inputGeometry s.adev.inDevice inp).card
      (inputGeometry s.adev.inDevice inp).device
      (inputGeometry s.adev.inDevice inp).stream.pcmConfig)
  cases ready
  · simp only [startInputStream, hx, Bool.false_eq_true, if_false]
    have h := hopen.append (.closed setLive_self)
    rwa [setLive_setLive, ← hst] at h
  · simp only [startInputStream, hx, if_true]
    show Tracks _ _ (setLive (c.hal.setIn i _).live _ _ _)
    rw [hst]
    exact hopen.append (.resets _ _ _ _)

end Primitives

/-! ## The data paths transfer on their own stream only -/

section DataPaths

theorem throttleSleeps_pcmCall (t : Nat) (ks : List (Option Nat)) :
    ∀ e ∈ throttleSleeps t ks, e.pcmCall = none := by
  induction ks with
  | nil => simp [throttleSleeps]
  | cons k ks ih =>
    rcases k with _ | kf
    · simp [throttleSleeps]
    · unfold throttleSleeps
      split_ifs
      · exact List.forall_mem_cons.2 ⟨rfl, ih⟩
      · simp

theorem writeBody_transfersOn (o : Nat) (scoOn : Bool) (a : WriteAttempt) (out : StreamOut)
    (l : WriteLocals) : ∀ e ∈ (writeBody o scoOn a out l).events, e.TransfersOn .output o := by
  have hw : ∀ out l, ∀ e ∈ (throttleAndWrite o scoOn a out l).events, e.TransfersOn .output o :=
    fun out l ↦ List.forall_mem_append.2 ⟨fun e he ↦ .inl (by
      split at he
      · simp at he
      · exact throttleSleeps_pcmCall _ _ e he), by simp [Event.TransfersOn, Event.pcmCall]⟩
  dsimp only [writeBody]
  split_ifs
  · simp
  · exact hw _ _
  · exact hw _ _

/-- The sleep of a failed transfer names no PCM. -/
theorem sleepIf_transfersOn (c : Prop) [Decidable c] (t : Nat) (d : Dir) (x : Nat) :
    ∀ e ∈ (if c then [Event.usleep t] else []), e.TransfersOn d x := by
  split <;> simp [Event.TransfersOn, Event.pcmCall]

theorem getNextBuffer_transfersOn (inp : StreamIn) (i n : Nat) (rd : PcmRead) :
    ∀ e ∈ (getNextBuffer inp i n rd).events, e.TransfersOn .input i := by
  unfold getNextBuffer
  split
  · simp
  · split_ifs <;> simp [Event.TransfersOn, Event.pcmCall]

theorem pullAll_transfersOn (i : Nat) (inp : StreamIn) (ps : List (Nat × PcmRead)) :
    ∀ e ∈ (pullAll i inp ps).2.1, e.TransfersOn .input i := by
  induction ps generalizing inp with
  | nil => simp [pullAll]
  | cons p ps ih =>
    simp only [pullAll]
    split
    · exact getNextBuffer_transfersOn inp i p.1 p.2
    · exact List.forall_mem_append.2 ⟨getNextBuffer_transfersOn inp i p.1 p.2, ih _⟩

theorem readFramesLoop_transfersOn (i frames : Nat) (inp : StreamIn) (client : Nat → UInt16)
    (wr : Nat) (rounds : List PullRound) :
    ∀ e ∈ (readFramesLoop i frames inp client wr rounds).events, e.TransfersOn .input i := by
  induction rounds generalizing inp client wr with
  | nil => unfold readFramesLoop; split_ifs <;> simp
  | cons r rest ih =>
    simp only [readFramesLoop]
    split_ifs
    · exact pullAll_transfersOn i inp r.pulls
    · exact List.forall_mem_append.2 ⟨pullAll_transfersOn i inp r.pulls, ih _ _ _⟩
    · simp

theorem readPath_transfersOn (inp : StreamIn) (i bytes : Nat) (client : Nat → UInt16)
    (env : ReadEnv) : ∀ e ∈ (readPath inp i bytes client env).events, e.TransfersOn .input i := by
  unfold readPath readFrames readStereo readMono
  split_ifs
  · exact readFramesLoop_transfersOn i _ inp client 0 env.rounds
  · simp [Event.TransfersOn, Event.pcmCall]
  · simp [Event.TransfersOn, Event.pcmCall]

theorem inReadData_transfersOn (s : Hal) (i : Nat) (inp : StreamIn) (client : Nat → UInt16)
    (bytes : Nat) (env : ReadEnv) (t : Nat) :
    ∀ e ∈ (inReadData s i inp client bytes env [.usleep t]).events, e.TransfersOn .input i := by
  have hr := readPath_transfersOn inp i bytes client env
  dsimp only [inReadData]
  split
  · exact hr
  · exact List.forall_mem_append.2 ⟨hr, sleepIf_transfersOn _ t _ _⟩

end DataPaths

/-! ## The entry points -/

section EntryPoints

variable {s : Hal}

/-- The data path of a write, from the stream's PCM open: transfers on that PCM only. -/
theorem tracks_writeData (s : Hal) (o bytes : Nat) (a : WriteAttempt) (l : WriteLocals)
    (y : StreamOut) :
    let b := writeBody o (scoOn s) a { y with standby := false } l
    Tracks (setLive s.live .output o true)
      (b.events ++ if b.ret ≠ 0 then [.usleep (outWriteDelay bytes)] else [])
      (s.setOut o b.stream).live := by
  have hb := writeBody_sameSetup o (scoOn s) a { y with standby := false } l
  dsimp only
  rw [Hal.live_setOut, hb.standby, Bool.not_false]
  exact .transfers setLive_self
    (List.forall_mem_append.2 ⟨writeBody_transfersOn _ _ _ _ _, sleepIf_transfersOn _ _ _ _⟩)

theorem tracks_outWritePass (s : Hal) (o bytes : Nat) (a : WriteAttempt) (l : WriteLocals) :
    Tracks s.live (outWritePass s o bytes a l).events (outWritePass s o bytes a l).hal.live := by
  cases hx : s.outs o with
  | none => simp only [outWritePass, hx]; exact .nil _
  | some out =>
    cases hsb : out.standby
    · rw [outWritePass_of_live hx hsb]
      have h := tracks_writeData s o bytes a l out
      rwa [setLive_of_eq (by simp [Hal.live, hx, hsb])] at h
    · have hst := tracks_startOutputStream hx hsb a.ready
      cases hr : a.ready
      · rw [outWritePass_of_open_fails hx hsb hr]
        rw [hr, setLive_of_eq (by simp [Hal.live, startOutputStream_outs_self hx, hsb])] at hst
        exact hst.append (.sleep _ _)
      · rw [outWritePass_of_opened hx hsb hr]
        rw [hr] at hst
        dsimp only
        rw [List.append_assoc]
        exact hst.append (tracks_writeData _ o bytes a l _)

theorem tracks_outWriteLoop (o bytes : Nat) (s : Hal) (l : WriteLocals)
    (as : List WriteAttempt) :
    Tracks s.live (outWriteLoop o bytes s l as).events (outWriteLoop o bytes s l as).hal.live := by
  induction as generalizing s l with
  | nil => exact .nil _
  | cons a as ih =>
    simp only [outWriteLoop]
    split_ifs
    · exact ((tracks_outWritePass s o bytes a l).append (tracks_doOutStandby _ o)).append (ih _ _)
    · exact tracks_outWritePass s o bytes a l

/-- The data path of a read, from the stream's PCM open: transfers on that PCM only. -/
theorem tracks_readData (s : Hal) (i : Nat) (inp : StreamIn) (client : Nat → UInt16)
    (bytes : Nat) (env : ReadEnv) (t : Nat) (hsb : inp.standby = false) :
    Tracks (setLive s.live .input i true)
      (inReadData s i inp client bytes env [.usleep t]).events
      (inReadData s i inp client bytes env [.usleep t]).hal.live := by
  have hr := readPath_sameSetup inp i bytes client env
  rw [inReadData_hal, Hal.live_setIn, hr.standby, hsb, Bool.not_false]
  exact .transfers setLive_self (inReadData_transfersOn _ _ _ _ _ _ _)

theorem tracks_inRead (s : Hal) (i : Nat) (client : Nat → UInt16) (bytes : Nat) (env : ReadEnv) :
    Tracks s.live (inRead s i client bytes env).events (inRead s i client bytes env).hal.live := by
  cases hx : s.ins i with
  | none => simp only [inRead, hx]; exact .nil _
  | some inp =>
    cases hsb : inp.standby
    · rw [inRead_of_live hx hsb]
      have h := tracks_readData s i inp client bytes env (inReadDelay bytes inp.requestedRate) hsb
      rwa [setLive_of_eq (by simp [Hal.live, hx, hsb])] at h
    · have hst := tracks_startInputStream hx hsb env.ready
      cases hr : env.ready
      · rw [inRead_of_open_fails hx hsb hr]
        rw [hr, setLive_of_eq (by simp [Hal.live, startInputStream_ins_self hx, hsb])] at hst
        exact hst.append (.sleep _ _)
      · rw [inRead_of_opened hx hsb hr]
        rw [hr] at hst
        exact hst.append (tracks_readData _ i _ client bytes env _ rfl)

theorem tracks_adevOpenOutputStream (hfresh : s.outs s.nextOut = none) (devices flags : UInt32)
    (env : OpenOutEnv) :
    Tracks s.live (adevOpenOutputStream s devices flags env).events
      (adevOpenOutputStream s devices flags env).hal.live := by
  unfold adevOpenOutputStream
  split_ifs
  · exact .nil _
  · exact .nil _
  · show Tracks s.live [] ({ s with adev := _ }.setOut s.nextOut _).live
    rw [Hal.live_setOut, setLive_of_eq]
    · exact .nil _
    · simp [Hal.live, hfresh, openedOutput]

theorem tracks_adevCloseOutputStream (s : Hal) (o : Nat) :
    Tracks s.live (adevCloseOutputStream s o).events (adevCloseOutputStream s o).hal.live := by
  unfold adevCloseOutputStream
  dsimp only
  rw [Hal.live_eraseOut, setLive_of_eq (doOutStandby_live_self s o)]
  exact tracks_doOutStandby s o

theorem tracks_adevOpenInputStream (hfresh : s.ins s.nextIn = none) (devices : UInt32)
    (rate : Nat) (mask : UInt32) (env : OpenInEnv) :
    Tracks s.live (adevOpenInputStream s devices rate mask env).events
      (adevOpenInputStream s devices rate mask env).hal.live := by
  unfold adevOpenInputStream
  by_cases h₁ : mask ≠ audioChannelInMono
  · simp only [if_pos h₁]; exact .nil _
  by_cases h₂ : (!env.callocOk) = true
  · simp only [if_neg h₁, if_pos h₂]; exact .nil _
  simp only [if_neg h₁, if_neg h₂]
  split_ifs
  · exact .nil _
  · exact .nil _
  · show Tracks s.live [] ({ s with adev := _ }.setIn s.nextIn _).live
    rw [Hal.live_setIn, setLive_of_eq]
    · exact .nil _
    · simp [Hal.live, hfresh, openedInput]

theorem tracks_adevCloseInputStream (s : Hal) (i : Nat) :
    Tracks s.live (adevCloseInputStream s i).events (adevCloseInputStream s i).hal.live := by
  unfold adevCloseInputStream
  dsimp only
  rw [Hal.live_eraseIn, setLive_of_eq (doInStandby_live_self s i)]
  exact tracks_doInStandby s i

theorem tracks_outSetParameters (s : Hal) (o : Nat) (routing : Option UInt32) :
    Tracks s.live (outSetParameters s o routing).events (outSetParameters s o routing).hal.live := by
  unfold outSetParameters
  split
  · exact .nil _
  · split_ifs
    · exact tracks_doOutStandby s o
    · exact .nil _
    · exact .nil _

theorem tracks_inSetParameters (s : Hal) (i : Nat) (routing : Option UInt32) :
    Tracks s.live (inSetParameters s i routing).events (inSetParameters s i routing).hal.live := by
  dsimp only [inSetParameters]
  split
  · exact .nil _
  · split_ifs
    · exact tracks_doInStandby s i
    · exact .nil _
    · exact .nil _

theorem adevSetParameters_live (s : Hal) (orientation screenState : Option String) :
    (adevSetParameters s orientation screenState).live = s.live := by
  cases orientation <;> cases screenState <;> dsimp only [adevSetParameters] <;>
    (try split_ifs) <;> rfl

/-- **Every call of the HAL keeps to the contract on every PCM**, and leaves open exactly the PCMs
of the streams it leaves out of standby. -/
theorem Tracks.apply (h : Books s) (c : HalCall) : Tracks s.live (c.apply s).2 (c.apply s).1.live := by
  cases c with
  | openOutputStream devices flags env =>
    exact tracks_adevOpenOutputStream (h.out.fresh _ le_rfl) devices flags env
  | closeOutputStream o => exact tracks_adevCloseOutputStream s o
  | openInputStream devices rate mask env =>
    exact tracks_adevOpenInputStream (h.inp.fresh _ le_rfl) devices rate mask env
  | closeInputStream i => exact tracks_adevCloseInputStream s i
  | outWrite o client bytes attempts => exact tracks_outWriteLoop o bytes s _ attempts
  | outStandby o => exact tracks_doOutStandby s o
  | outSetParameters o routing => exact tracks_outSetParameters s o routing
  | inRead i client bytes env => exact tracks_inRead s i client bytes env
  | inStandby i => exact tracks_doInStandby s i
  | inSetParameters i routing => exact tracks_inSetParameters s i routing
  | setParameters orientation screenState =>
    exact adevSetParameters_live s orientation screenState ▸ .nil _
  | setMicMute state => exact .nil _

theorem Tracks.run (h : Books s) (cs : List HalCall) :
    Tracks s.live (run s cs).2 (run s cs).1.live := by
  induction cs generalizing s with
  | nil => exact .nil _
  | cons c cs ih => exact (Tracks.apply h c).append (ih (h.apply c))

end EntryPoints

/-! ## Every run -/

/-- **The HAL keeps to tinyalsa's contract on every PCM.** Over every run from `adev_open`, the
calls on the PCM of any stream replay without a fault from a closed handle: no `pcm_mmap_write`
or `pcm_read` on a PCM that is not open, no second `pcm_open` of an open one, no `pcm_close` of a
closed one. At the end the PCMs left open are exactly those of the streams out of standby, so a
stream in standby, freed, or never opened holds no open PCM. -/
theorem pcm_calls_follow_open_transfer_close (cs : List HalCall) (d : Dir) (x : Nat) :
    pcmReplay d x false (run adevOpen cs).2 = some ((run adevOpen cs).1.live d x) := by
  have h := Tracks.run books_adevOpen cs d x
  cases d <;> exact h

end Omap4AudioHal
