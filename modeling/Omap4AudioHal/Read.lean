import Omap4AudioHal.Provider

/-!
# The read path

`in_read` starts a stream in standby and then takes one of three paths: through the resampler
(`read_frames`, which lets the converter pull periods from the provider), a direct read of twice
the bytes into the scratch buffer followed by a copy of the left channel (stereo PCM), or a direct
read into the client buffer (mono PCM). A muted read is cleared afterwards, and only when the
read path reported no error; on an error the call sleeps for the play time of the request. Either
way the client is told that all `bytes` were read.

## The converter

The capture converter of `audio_utils` is a collaborator. One call of `resample_from_provider`
is a `PullRound`: the frame counts it asks the provider for (each `get_next_buffer` is followed by
the `release_buffer` of the window it got, and a `NULL` window ends the pulling), the frame count
it reports back in `frames_rd`, and its samples. The loop hands it the room left in the client
buffer, `frames - frames_wr` frames from frame `frames_wr` on, and the converter writes there;
the count it reports is added to `frames_wr` as it is, so a converter that reports more than the
room it was handed ends the loop past the request. `read_frames` loops until `frames_wr` reaches
the request or the provider reports an error; its rounds are a list, and `none` means the list ran
out first.

## Accesses to the scratch buffer

Every path records the byte ranges of `in->buffer` it reads or writes, as `Span`s: the
direct stereo read, the left-channel copy, and every pull of the provider with its window.
-/

namespace Omap4AudioHal

/-- One call of the capture converter's `resample_from_provider`: its pulls (frame count asked
for, and what `pcm_read` does if the pull reads), the frame count it reports in `frames_rd`, and
the samples it produces. -/
structure PullRound where
  pulls : List (Nat × PcmRead)
  produced : Nat
  samples : Nat → UInt16

/-- What the endpoint and the converter do during one `in_read`. -/
structure ReadEnv where
  /-- `pcm_is_ready` of the handle `pcm_open` returns, if the stream starts. -/
  ready : Bool
  /-- The `pcm_read` of the direct paths. -/
  direct : PcmRead
  /-- The converter's calls, on the resampler path. -/
  rounds : List PullRound

/-- What a part of the read path leaves: the stream, the client's buffer, the collaborator calls,
the accesses to `in->buffer`, and the value (`none` when the converter's rounds ran out). -/
structure ReadStep (α : Type) where
  stream : StreamIn
  client : Nat → UInt16
  events : List Event
  spans : List Span
  ret : Option α

/-- The converter's pulls on the provider of input `i`: each get is followed by the release of
the frames it handed out, and the first `NULL` window ends them. -/
def pullAll (i : Nat) : StreamIn → List (Nat × PcmRead) → StreamIn × List Event × List Span
  | inp, [] => (inp, [], [])
  | inp, (n, rd) :: rest =>
    let g := getNextBuffer inp i n rd
    match g.buf.raw with
    | none => (g.stream, g.events, g.spans)
    | some _ =>
      let r := pullAll i (releaseBuffer g.stream g.buf.frameCount) rest
      (r.1, g.events ++ r.2.1, g.spans ++ r.2.2)

/-- `k` frames of `src` written into `dst` from frame `pos` on (the capture side is mono). -/
def writeFrames (dst src : Nat → UInt16) (pos k : Nat) : Nat → UInt16 :=
  fun j ↦ if pos ≤ j ∧ j < pos + k then src (j - pos) else dst j

/-- The loop of `read_frames`: `wr` is `frames_wr`, the frames counted so far out of `frames`.
A round's converter writes its samples into the room it is handed and its reported count is
added as it is. -/
def readFramesLoop (i frames : Nat) :
    StreamIn → (Nat → UInt16) → Nat → List PullRound → ReadStep Int
  | inp, client, wr, [] =>
    if wr < frames then ⟨inp, client, [], [], none⟩ else ⟨inp, client, [], [], some wr⟩
  | inp, client, wr, r :: rest =>
    if wr < frames then
      let p := pullAll i inp r.pulls
      let client := writeFrames client r.samples wr (min r.produced (frames - wr))
      if p.1.readStatus ≠ 0 then ⟨p.1, client, p.2.1, p.2.2, some p.1.readStatus⟩
      else
        let q := readFramesLoop i frames p.1 client (wr + r.produced) rest
        ⟨q.stream, q.client, p.2.1 ++ q.events, p.2.2 ++ q.spans, q.ret⟩
    else ⟨inp, client, [], [], some wr⟩

/-- `read_frames(in, buffer, frames)`, as `in_read` calls it: with a resampler. -/
def readFrames (inp : StreamIn) (i frames : Nat) (client : Nat → UInt16)
    (rounds : List PullRound) : ReadStep Int :=
  readFramesLoop i frames inp client 0 rounds

/-- The stereo path: `pcm_read(in->pcm, in->buffer, bytes * 2)`, then
`in_buffer[i] = in->buffer[i * 2]` for every requested frame. -/
def readStereo (inp : StreamIn) (i bytes : Nat) (client : Nat → UInt16) (rd : PcmRead) :
    ReadStep Int :=
  let buf := fillPrefix inp.buffer rd.data (pcmReadSamples inp.pcmConfig (bytes * 2))
  let framesRq := bytes / inFrameSize
  ⟨{ inp with buffer := buf }, fun j ↦ if j < framesRq then buf (2 * j) else client j,
    [.pcmRead i true (bytes * 2)],
    ⟨0, bytes * 2⟩ :: (List.range framesRq).map fun j ↦ ⟨4 * j, 4 * j + 2⟩, some rd.status⟩

/-- The mono path: `pcm_read(in->pcm, buffer, bytes)` straight into the client's buffer. -/
def readMono (inp : StreamIn) (i bytes : Nat) (client : Nat → UInt16) (rd : PcmRead) :
    ReadStep Int :=
  ⟨inp, fillPrefix client rd.data (pcmReadSamples inp.pcmConfig bytes),
    [.pcmRead i false bytes], [], some rd.status⟩

/-- The three paths of `in_read` after the start. -/
def readPath (inp : StreamIn) (i bytes : Nat) (client : Nat → UInt16) (env : ReadEnv) :
    ReadStep Int :=
  if inp.resampler.isSome then readFrames inp i (bytes / inFrameSize) client env.rounds
  else if inp.pcmConfig.channels = 2 then readStereo inp i bytes client env.direct
  else readMono inp i bytes client env.direct

/-! ## What the read path leaves alone -/

/-- Two states of an input stream that differ at most in the provider's period (the scratch
buffer, `frames_in` and `read_status`): the read path changes nothing else. -/
structure StreamIn.SameSetup (a b : StreamIn) : Prop where
  pcm : b.pcm = a.pcm
  pcmConfig : b.pcmConfig = a.pcmConfig
  standby : b.standby = a.standby
  requestedRate : b.requestedRate = a.requestedRate
  resampler : b.resampler = a.resampler
  bufferBytes : b.bufferBytes = a.bufferBytes

namespace StreamIn.SameSetup

theorem refl (a : StreamIn) : a.SameSetup a := ⟨rfl, rfl, rfl, rfl, rfl, rfl⟩

theorem trans {a b c : StreamIn} (h₁ : a.SameSetup b) (h₂ : b.SameSetup c) : a.SameSetup c :=
  ⟨h₂.pcm.trans h₁.pcm, h₂.pcmConfig.trans h₁.pcmConfig, h₂.standby.trans h₁.standby,
    h₂.requestedRate.trans h₁.requestedRate, h₂.resampler.trans h₁.resampler,
    h₂.bufferBytes.trans h₁.bufferBytes⟩

end StreamIn.SameSetup

theorem getNextBuffer_sameSetup (inp : StreamIn) (i n : Nat) (rd : PcmRead) :
    inp.SameSetup (getNextBuffer inp i n rd).stream := by
  unfold getNextBuffer
  split
  · exact ⟨rfl, rfl, rfl, rfl, rfl, rfl⟩
  · split_ifs <;> exact ⟨rfl, rfl, rfl, rfl, rfl, rfl⟩

theorem releaseBuffer_sameSetup (inp : StreamIn) (m : Nat) : inp.SameSetup (releaseBuffer inp m) :=
  ⟨rfl, rfl, rfl, rfl, rfl, rfl⟩

theorem pullAll_sameSetup (i : Nat) (inp : StreamIn) (ps : List (Nat × PcmRead)) :
    inp.SameSetup (pullAll i inp ps).1 := by
  induction ps generalizing inp with
  | nil => exact .refl inp
  | cons p ps ih =>
    have hg := getNextBuffer_sameSetup inp i p.1 p.2
    simp only [pullAll]
    split
    · exact hg
    · dsimp only
      exact hg.trans ((releaseBuffer_sameSetup _ _).trans (ih _))

theorem readFramesLoop_sameSetup (i frames : Nat) (inp : StreamIn) (client : Nat → UInt16)
    (wr : Nat) (rounds : List PullRound) :
    inp.SameSetup (readFramesLoop i frames inp client wr rounds).stream := by
  induction rounds generalizing inp client wr with
  | nil => unfold readFramesLoop; split_ifs <;> exact .refl inp
  | cons r rest ih =>
    simp only [readFramesLoop]
    split_ifs
    · exact pullAll_sameSetup i inp r.pulls
    · exact (pullAll_sameSetup i inp r.pulls).trans (ih _ _ _)
    · exact .refl inp

theorem readPath_sameSetup (inp : StreamIn) (i bytes : Nat) (client : Nat → UInt16)
    (env : ReadEnv) : inp.SameSetup (readPath inp i bytes client env).stream := by
  unfold readPath readFrames readStereo readMono
  split_ifs
  · exact readFramesLoop_sameSetup i _ inp client 0 env.rounds
  · exact ⟨rfl, rfl, rfl, rfl, rfl, rfl⟩
  · exact .refl inp

/-! ## The frames `read_frames` fills -/

section Loop

variable (i frames : Nat)

/-- The loop writes the client's frames only from its position `wr` on and below `frames`: a
round writes at most the `frames - wr` frames the converter was asked for. -/
theorem readFramesLoop_client_outside (inp : StreamIn) (client : Nat → UInt16) (wr : Nat)
    (rounds : List PullRound) {j : Nat} (hj : j < wr ∨ frames ≤ j) :
    (readFramesLoop i frames inp client wr rounds).client j = client j := by
  induction rounds generalizing inp client wr with
  | nil => unfold readFramesLoop; split_ifs <;> rfl
  | cons r rest ih =>
    simp only [readFramesLoop]
    have hw : writeFrames client r.samples wr (min r.produced (frames - wr)) j = client j :=
      if_neg (by omega)
    split_ifs
    · exact hw
    · rw [ih _ _ _ (by omega)]; exact hw
    · rfl

/-- The converter's side of `resample_from_provider`, round by round from `wr` frames counted:
until the request is filled, a round reports at least one frame and at most the room it was
handed. A round that reports no frame and no error would leave the C loop where it was. -/
def ConverterFits (frames : Nat) : Nat → List PullRound → Prop
  | _, [] => True
  | wr, r :: rest =>
    wr < frames → 0 < r.produced ∧ r.produced ≤ frames - wr ∧ ConverterFits frames (wr + r.produced) rest

instance ConverterFits.decidable (frames : Nat) :
    (wr : Nat) → (rounds : List PullRound) → Decidable (ConverterFits frames wr rounds)
  | _, [] => isTrue trivial
  | wr, r :: rest =>
    have := ConverterFits.decidable frames (wr + r.produced) rest
    inferInstanceAs (Decidable (wr < frames →
      0 < r.produced ∧ r.produced ≤ frames - wr ∧ ConverterFits frames (wr + r.produced) rest))

/-- **The loop returns.** With a converter that keeps to its side from `wr` on, and at least the
`frames - wr` rounds that then suffice, the loop returns the frames asked for, or the error the
provider recorded. -/
theorem readFramesLoop_returns (inp : StreamIn) (client : Nat → UInt16) (wr : Nat)
    (rounds : List PullRound) (hwr : wr ≤ frames) (hfit : ConverterFits frames wr rounds)
    (hlen : frames - wr ≤ rounds.length) :
    (readFramesLoop i frames inp client wr rounds).ret = some (frames : Int) ∨
      ((readFramesLoop i frames inp client wr rounds).stream.readStatus ≠ 0 ∧
        (readFramesLoop i frames inp client wr rounds).ret =
          some (readFramesLoop i frames inp client wr rounds).stream.readStatus) := by
  induction rounds generalizing inp client wr with
  | nil =>
    obtain rfl : wr = frames := by simp only [List.length_nil] at hlen; omega
    simp [readFramesLoop]
  | cons r rest ih =>
    by_cases hlt : wr < frames
    · obtain ⟨hpos, hroom, hrest⟩ := hfit hlt
      simp only [readFramesLoop, if_pos hlt]
      split_ifs with herr
      · exact .inr ⟨herr, rfl⟩
      · exact ih _ _ _ (by omega) hrest (by simp only [List.length_cons] at hlen; omega)
    · obtain rfl : wr = frames := by omega
      simp [readFramesLoop]

end Loop

/-- `pcm_read` of `bytes` bytes stores at most the samples those bytes hold. -/
theorem pcmReadSamples_le (cfg : PcmConfig) (bytes : Nat) : 2 * pcmReadSamples cfg bytes ≤ bytes :=
  calc 2 * pcmReadSamples cfg bytes = bytes / (2 * cfg.channels) * (2 * cfg.channels) := by
        rw [pcmReadSamples, Nat.mul_comm 2, Nat.mul_assoc, Nat.mul_comm cfg.channels]
    _ ≤ bytes := Nat.div_mul_le_self _ _

/-- Each of the three paths writes the client's buffer only within the `bytes` bytes asked for. -/
theorem readPath_client_outside (inp : StreamIn) (i bytes : Nat) (client : Nat → UInt16)
    (env : ReadEnv) {j : Nat} (hj : bytes ≤ 2 * j) :
    (readPath inp i bytes client env).client j = client j := by
  unfold readPath readFrames readStereo readMono
  have hfr : bytes / inFrameSize ≤ j := by simp only [inFrameSize]; omega
  split_ifs
  · exact readFramesLoop_client_outside i _ inp client 0 env.rounds (.inr hfr)
  · exact if_neg (by omega)
  · exact fillPrefix_of_le (by have := pcmReadSamples_le inp.pcmConfig bytes; omega)

/-- The sleep of the error path: the play time of `bytes` at the requested rate, in 32-bit
`size_t` arithmetic. -/
def inReadDelay (bytes requestedRate : Nat) : Nat :=
  bytes * 1000000 % sizeMax / inFrameSize / requestedRate

/-- What `in_read` leaves: the device, the client's buffer, the calls it made, its accesses to
`in->buffer`, and its return value (`none` when the converter's rounds ran out). -/
structure ReadOutcome where
  hal : Hal
  client : Nat → UInt16
  events : List Event
  spans : List Span
  ret : Option Nat

/-- `in_read` from the data path on, with the stream as the start left it: the read, the copy
into the client's buffer, the clearing of a muted read and the sleep of a failed one. -/
def inReadData (s : Hal) (i : Nat) (inp : StreamIn) (client : Nat → UInt16) (bytes : Nat)
    (env : ReadEnv) (delay : List Event) : ReadOutcome :=
  let r := readPath inp i bytes client env
  let s₂ := s.setIn i r.stream
  match r.ret with
  | none => ⟨s₂, r.client, r.events, r.spans, none⟩
  | some ret =>
    let ret := if ret > 0 then 0 else ret
    let client := if ret = 0 ∧ s₂.adev.micMute then memsetZero r.client bytes else r.client
    ⟨s₂, client, r.events ++ (if ret < 0 then delay else []), r.spans, some bytes⟩

theorem inReadData_hal (s : Hal) (i : Nat) (inp : StreamIn) (client : Nat → UInt16) (bytes : Nat)
    (env : ReadEnv) (delay : List Event) :
    (inReadData s i inp client bytes env delay).hal =
      s.setIn i (readPath inp i bytes client env).stream := by
  dsimp only [inReadData]; split <;> rfl

theorem inReadData_client_outside (s : Hal) (i : Nat) (inp : StreamIn) (client : Nat → UInt16)
    (bytes : Nat) (env : ReadEnv) (delay : List Event) {j : Nat} (hj : bytes ≤ 2 * j) :
    (inReadData s i inp client bytes env delay).client j = client j := by
  have hr := readPath_client_outside inp i bytes client env hj
  dsimp only [inReadData]
  split
  · exact hr
  · dsimp only
    split_ifs <;> simp only [memsetZero_of_le _ hj, hr]

/-- `in_read(stream i, buffer, bytes)`. -/
def inRead (s : Hal) (i : Nat) (client : Nat → UInt16) (bytes : Nat) (env : ReadEnv) :
    ReadOutcome :=
  match s.ins i with
  | none => ⟨s, client, [], [], some bytes⟩
  | some inp =>
    let st : Outcome Int := if inp.standby then startInputStream s i env.ready else ⟨s, [], 0⟩
    let delay := [Event.usleep (inReadDelay bytes inp.requestedRate)]
    if st.ret < 0 then ⟨st.hal, client, st.events ++ delay, [], some bytes⟩
    else
      match st.hal.ins i with
      | none => ⟨st.hal, client, st.events, [], some bytes⟩
      | some inp₁ =>
        let d := inReadData st.hal i (if st.ret = 0 then { inp₁ with standby := false } else inp₁)
          client bytes env delay
        { d with events := st.events ++ d.events }

section ReadSpec

variable {s : Hal} {i bytes : Nat} {client : Nat → UInt16} {env : ReadEnv} {inp : StreamIn}

/-- A read on a stream out of standby goes straight to the data path. -/
theorem inRead_of_live (hx : s.ins i = some inp) (hsb : inp.standby = false) :
    inRead s i client bytes env =
      inReadData s i inp client bytes env [.usleep (inReadDelay bytes inp.requestedRate)] := by
  obtain ⟨⟩ := inp
  simp only at hsb
  subst hsb
  simp [inRead, hx]

/-- A read whose start cannot open the PCM sleeps and leaves the client's buffer alone. -/
theorem inRead_of_open_fails (hx : s.ins i = some inp) (hsb : inp.standby = true)
    (hr : env.ready = false) :
    inRead s i client bytes env =
      ⟨(startInputStream s i false).hal, client,
        (startInputStream s i false).events ++ [.usleep (inReadDelay bytes inp.requestedRate)], [],
        some bytes⟩ := by
  simp [inRead, hx, hsb, hr, startInputStream_ret hx, enomem]

/-- A read whose start opens the PCM goes on to the data path with the started stream. -/
theorem inRead_of_opened (hx : s.ins i = some inp) (hsb : inp.standby = true)
    (hr : env.ready = true) :
    inRead s i client bytes env =
      let st := startInputStream s i true
      let d := inReadData st.hal i { inputStarted s.adev.inDevice inp true with standby := false }
        client bytes env [.usleep (inReadDelay bytes inp.requestedRate)]
      { d with events := st.events ++ d.events } := by
  simp only [inRead, hx, hsb, hr, if_true, startInputStream_ret hx,
    startInputStream_ins_self hx, Int.lt_irrefl, if_false]

end ReadSpec

end Omap4AudioHal
