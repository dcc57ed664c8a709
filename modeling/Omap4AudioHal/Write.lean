import Omap4AudioHal.Lifecycle
import Omap4AudioHal.Samples

/-!
# The write path

`out_write` starts a stream in standby, drops the right channel if the PCM is mono, resamples to
the PCM rate through the scratch buffer `out->buffer` when that rate is not 44.1 kHz, throttles
while the kernel holds more than `write_threshold` frames, and hands the frames to
`pcm_mmap_write`. An `-EPIPE` from the endpoint puts the stream into standby and jumps back to
`do_over` with every local as the failed pass left it; any other error costs a sleep of the
buffer's play time and is reported to the client as success.

## The environment of a pass

What the endpoint and the collaborators do in one pass from `do_over` is a `WriteAttempt`: whether
the PCM opens, what `create_resampler`, `malloc` and the converter answer, the occupancy the
throttling loop reads, and the status of `pcm_mmap_write`. A call of `out_write` is given one
attempt per pass; `ret` is `none` when the attempts run out while the pipe is still broken, so a
list whose last attempt does not answer `-EPIPE` makes the call return.

## The pointer handed to `pcm_mmap_write`

The resampling branch redirects the local `in_buffer` to `out->buffer`, but the write passes the
client's `buffer`: `mmapWrite` records which array the bytes are read from.
-/

namespace Omap4AudioHal

/-- What the output converter's `resample_from_input` does on one call: the frames it consumed,
the frames it produced and the samples it wrote. -/
structure Resampled where
  consumed : Nat
  produced : Nat
  samples : Nat → UInt16

/-- The converter as a function of what it is given: the input samples, the input frame count and
the room in frames. -/
def InputResampler : Type := (Nat → UInt16) → Nat → Nat → Resampled

/-- What the endpoint and the collaborators do during one pass of `out_write` from `do_over`. -/
structure WriteAttempt where
  /-- `pcm_is_ready` of the handle `pcm_open` returns, if the stream starts. -/
  ready : Bool
  /-- The return value of `create_resampler`, if it is called. -/
  createStatus : Int
  /-- Whether `malloc(RESAMPLER_BUFFER_SIZE)` returns memory, if it is called. -/
  mallocOk : Bool
  /-- The converter, in the state this pass finds it. -/
  resample : InputResampler
  /-- `kernel_frames` as the throttling loop computes it after each `pcm_get_htimestamp`;
  `none` is a failed timestamp. -/
  kernelFrames : List (Option Nat)
  /-- The return value of `pcm_mmap_write`. -/
  status : Int

/-- The locals of `out_write` that a `goto do_over` keeps, and the client's samples (which the
channel-reduction loop rewrites in place). -/
structure WriteLocals where
  frameSize : Nat
  inBuffer : WriteSrc
  inFrames : Nat
  outFrames : Nat
  client : Nat → UInt16

/-- The locals at the top of `out_write`. -/
def WriteLocals.init (client : Nat → UInt16) (bytes : Nat) : WriteLocals :=
  ⟨outFrameSize, .client, bytes / outFrameSize, resamplerBufferSize / outFrameSize, client⟩

/-- The sleep of the error path: the play time of `bytes` at 44.1 kHz, in 32-bit `size_t`
arithmetic, capped below one second. -/
def outWriteDelay (bytes : Nat) : Nat :=
  let usecs := bytes * 1000000 % sizeMax / outFrameSize / outSamplingRate
  if usecs ≥ 1000000 then 999999 else usecs

/-- The throttling loop: while the kernel holds more than `threshold` frames, sleep for the play
time of the excess at 48 kHz, at least `MIN_WRITE_SLEEP_US`. -/
def throttleSleeps (threshold : Nat) : List (Option Nat) → List Event
  | [] => []
  | none :: _ => []
  | some kf :: rest =>
    if threshold < kf then
      .usleep (max minWriteSleepUs ((kf - threshold) * 1000000 / mmFullPowerSamplingRate))
        :: throttleSleeps threshold rest
    else []

/-! ## Between the two unlocks -/

/-- What the part of `out_write` between the unlock of the device and `exit:` leaves. -/
structure WriteBody where
  stream : StreamOut
  locals : WriteLocals
  events : List Event
  ret : Int

/-- "Reduce number of channels, if necessary": only a mono PCM, which no configuration of this
HAL has, halves the frames in place. -/
def reduceChannels (out : StreamOut) (l : WriteLocals) : StreamOut × WriteLocals :=
  if outClientChannels > out.pcmConfig.channels then
    let l' := { l with frameSize := l.frameSize / 2 }
    match l.inBuffer with
    | .client => (out, { l' with client := discardRightChannel l.client l.inFrames })
    | .scratch => ({ out with buffer := out.buffer.map (discardRightChannel · l.inFrames) }, l')
  else (out, l)

/-- The lazy creation of the converter and its scratch buffer; the converter stays when the
allocation fails. -/
def createOutResampler (out : StreamOut) (a : WriteAttempt) : StreamOut × Int :=
  if out.resampler.isSome then (out, 0)
  else if a.createStatus ≠ 0 then (out, a.createStatus)
  else
    let out := { out with resampler := some ⟨outSamplingRate, mmFullPowerSamplingRate, 2⟩ }
    if a.mallocOk then ({ out with buffer := some fun _ ↦ 0 }, 0)
    else ({ out with buffer := none }, -enomem)

/-- The samples `in_buffer` points at. -/
def inBufferSamples (out : StreamOut) (l : WriteLocals) : Nat → UInt16 :=
  match l.inBuffer with
  | .client => l.client
  | .scratch => out.buffer.getD fun _ ↦ 0

/-- `resample_from_input(resampler, in_buffer, &in_frames, out->buffer, &out_frames)`, then
`in_buffer = out->buffer`. -/
def resampleIntoScratch (out : StreamOut) (a : WriteAttempt) (l : WriteLocals) :
    StreamOut × WriteLocals :=
  let r := a.resample (inBufferSamples out l) l.inFrames l.outFrames
  ({ out with buffer := out.buffer.map (fillPrefix · r.samples (2 * r.produced)) },
    { l with inBuffer := .scratch, inFrames := r.consumed, outFrames := r.produced })

/-- The throttling loop and `pcm_mmap_write(out->pcm, buffer, out_frames * frame_size)`. -/
def throttleAndWrite (o : Nat) (scoOn : Bool) (a : WriteAttempt) (out : StreamOut)
    (l : WriteLocals) : WriteBody :=
  ⟨out, l, (if scoOn then [] else throttleSleeps out.writeThreshold a.kernelFrames) ++
    [.mmapWrite o .client (l.outFrames * l.frameSize)], a.status⟩

/-- From the channel reduction to `pcm_mmap_write`. -/
def writeBody (o : Nat) (scoOn : Bool) (a : WriteAttempt) (out : StreamOut) (l : WriteLocals) :
    WriteBody :=
  let r := reduceChannels out l
  if r.1.pcmConfig.rate ≠ outSamplingRate then
    let c := createOutResampler r.1 a
    if c.2 ≠ 0 then ⟨c.1, r.2, [], c.2⟩
    else
      let w := resampleIntoScratch c.1 a r.2
      throttleAndWrite o scoOn a w.1 w.2
  else throttleAndWrite o scoOn a r.1 { r.2 with outFrames := r.2.inFrames }

/-! ## What the data path leaves alone -/

/-- Two states of an output stream that differ at most in the converter and the scratch buffer:
the data path of a write changes nothing else. -/
structure StreamOut.SameSetup (a b : StreamOut) : Prop where
  pcm : b.pcm = a.pcm
  pcmConfig : b.pcmConfig = a.pcmConfig
  standby : b.standby = a.standby
  writeThreshold : b.writeThreshold = a.writeThreshold
  lowPower : b.lowPower = a.lowPower

namespace StreamOut.SameSetup

theorem refl (a : StreamOut) : a.SameSetup a := ⟨rfl, rfl, rfl, rfl, rfl⟩

theorem trans {a b c : StreamOut} (h₁ : a.SameSetup b) (h₂ : b.SameSetup c) : a.SameSetup c :=
  ⟨h₂.pcm.trans h₁.pcm, h₂.pcmConfig.trans h₁.pcmConfig, h₂.standby.trans h₁.standby,
    h₂.writeThreshold.trans h₁.writeThreshold, h₂.lowPower.trans h₁.lowPower⟩

end StreamOut.SameSetup

theorem reduceChannels_sameSetup (out : StreamOut) (l : WriteLocals) :
    out.SameSetup (reduceChannels out l).1 := by
  unfold reduceChannels
  split_ifs
  · split <;> exact ⟨rfl, rfl, rfl, rfl, rfl⟩
  · exact .refl out

theorem createOutResampler_sameSetup (out : StreamOut) (a : WriteAttempt) :
    out.SameSetup (createOutResampler out a).1 := by
  unfold createOutResampler
  split_ifs <;> exact ⟨rfl, rfl, rfl, rfl, rfl⟩

theorem writeBody_sameSetup (o : Nat) (scoOn : Bool) (a : WriteAttempt) (out : StreamOut)
    (l : WriteLocals) : out.SameSetup (writeBody o scoOn a out l).stream := by
  have hr := reduceChannels_sameSetup out l
  dsimp only [writeBody]
  split_ifs
  · exact hr.trans (createOutResampler_sameSetup _ a)
  · exact hr.trans ((createOutResampler_sameSetup _ a).trans ⟨rfl, rfl, rfl, rfl, rfl⟩)
  · exact hr

/-! ## Passes and the retry loop -/

/-- `sco_on`: whether the output devices include an SCO device. -/
def scoOn (s : Hal) : Bool := s.adev.outDevice &&& audioDeviceOutAllSco != 0

/-- One pass of `out_write` from `do_over` to the test for `-EPIPE`; its value is `ret` and the
locals it leaves. -/
def outWritePass (s : Hal) (o bytes : Nat) (a : WriteAttempt) (l : WriteLocals) :
    Outcome (Int × WriteLocals) :=
  match s.outs o with
  | none => ⟨s, [], (0, l)⟩
  | some out =>
    let st : Outcome Int := if out.standby then startOutputStream s o a.ready else ⟨s, [], 0⟩
    if st.ret ≠ 0 then ⟨st.hal, st.events ++ [.usleep (outWriteDelay bytes)], (st.ret, l)⟩
    else
      match st.hal.outs o with
      | none => ⟨st.hal, st.events, (0, l)⟩
      | some out₁ =>
        let b := writeBody o (scoOn st.hal) a { out₁ with standby := false } l
        ⟨st.hal.setOut o b.stream,
          st.events ++ b.events ++ (if b.ret ≠ 0 then [.usleep (outWriteDelay bytes)] else []),
          (b.ret, b.locals)⟩

section PassSpec

variable {s : Hal} {o bytes : Nat} {a : WriteAttempt} {l : WriteLocals} {out : StreamOut}

/-- A pass on a stream out of standby goes straight to the data path. -/
theorem outWritePass_of_live (hx : s.outs o = some out) (hsb : out.standby = false) :
    outWritePass s o bytes a l =
      let b := writeBody o (scoOn s) a { out with standby := false } l
      ⟨s.setOut o b.stream, b.events ++ (if b.ret ≠ 0 then [.usleep (outWriteDelay bytes)] else []),
        (b.ret, b.locals)⟩ := by
  simp [outWritePass, hx, hsb]

/-- A pass whose start cannot open the PCM sleeps and reports `-ENOMEM`. -/
theorem outWritePass_of_open_fails (hx : s.outs o = some out) (hsb : out.standby = true)
    (hr : a.ready = false) :
    outWritePass s o bytes a l =
      ⟨(startOutputStream s o false).hal,
        (startOutputStream s o false).events ++ [.usleep (outWriteDelay bytes)], (-enomem, l)⟩ := by
  simp [outWritePass, hx, hsb, hr, startOutputStream_ret hx, enomem]

/-- A pass whose start opens the PCM goes on to the data path with the started stream. -/
theorem outWritePass_of_opened (hx : s.outs o = some out) (hsb : out.standby = true)
    (hr : a.ready = true) :
    outWritePass s o bytes a l =
      let st := startOutputStream s o true
      let b := writeBody o (scoOn st.hal) a
        { outputStarted s.adev.outDevice out true with standby := false } l
      ⟨st.hal.setOut o b.stream,
        st.events ++ b.events ++ (if b.ret ≠ 0 then [.usleep (outWriteDelay bytes)] else []),
        (b.ret, b.locals)⟩ := by
  simp only [outWritePass, hx, hsb, hr, if_true, startOutputStream_ret hx,
    startOutputStream_outs_self hx, ne_eq, not_true_eq_false, if_false]

end PassSpec

/-- The passes of `out_write`, one attempt each; `-EPIPE` puts the stream into standby and goes
round again with the locals the pass left. -/
def outWriteLoop (o bytes : Nat) : Hal → WriteLocals → List WriteAttempt → Outcome (Option Nat)
  | s, _, [] => ⟨s, [], none⟩
  | s, l, a :: rest =>
    let p := outWritePass s o bytes a l
    if p.ret.1 = -epipe then
      let sb := doOutStandby p.hal o
      let r := outWriteLoop o bytes sb.hal p.ret.2 rest
      ⟨r.hal, p.events ++ sb.events ++ r.events, r.ret⟩
    else ⟨p.hal, p.events, some bytes⟩

/-- `out_write(stream o, buffer, bytes)`. -/
def outWrite (s : Hal) (o : Nat) (client : Nat → UInt16) (bytes : Nat)
    (attempts : List WriteAttempt) : Outcome (Option Nat) :=
  outWriteLoop o bytes s (WriteLocals.init client bytes) attempts

end Omap4AudioHal
