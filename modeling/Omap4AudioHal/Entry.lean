import Omap4AudioHal.Read
import Omap4AudioHal.Write

/-!
# The entry points

The functions the audio framework calls through the vtables `adev_open` and the two open calls
install, and the HAL as a state machine over them. Every call is given what the environment does
during it (the allocator, the converter, the endpoint), so a run of the HAL is a list of calls.

## Calls are atomic here

A call is one step of the machine: the state it leaves is the state the next call sees. The
source lets a writer or a reader run its data path with only the stream lock held, so calls do
overlap in time; the lock discipline that makes each overlap harmless is the subject of
`Omap4AudioHal.Locking`. A write or a read whose environment runs out (`none`) still leaves the
state the passes it made produced, and that state is reachable.

## Parameters

`str_parms` and `atoi` are collaborators: the routing key of `out_set_parameters` and
`in_set_parameters` arrives as the number `atoi` makes of it, `none` when the key is absent, and
the keys of `adev_set_parameters` arrive as strings. The value these three return (the status of
the last `str_parms_get_str`) is not kept.
-/

namespace Omap4AudioHal

/-! ## Opening and closing streams -/

/-- What the allocator and `create_resampler` answer during `adev_open_output_stream`. -/
structure OpenOutEnv where
  callocOk : Bool
  createStatus : Int
  mallocOk : Bool

/-- The output stream `adev_open_output_stream` builds: the low-power geometry for a deep-buffer
output, a converter to 48 kHz and its scratch buffer for an SCO output, and the zeroes of
`calloc` everywhere else. -/
def openedOutput (devices flags : UInt32) (mallocOk : Bool) : StreamOut where
  pcm := none
  pcmConfig := if flags &&& audioOutputFlagDeepBuffer != 0 then pcmConfigOutLp else pcmConfigOut
  standby := true
  resampler := if devices &&& audioDeviceOutAllSco != 0 then
    some ⟨outSamplingRate, mmFullPowerSamplingRate, 2⟩ else none
  buffer := if devices &&& audioDeviceOutAllSco != 0 ∧ mallocOk then some fun _ ↦ 0 else none
  writeThreshold := 0
  lowPower := flags &&& audioOutputFlagDeepBuffer != 0

/-- `adev_open_output_stream`: the new stream's number, or the error. -/
def adevOpenOutputStream (s : Hal) (devices flags : UInt32) (env : OpenOutEnv) :
    Outcome (Except Int Nat) :=
  if !env.callocOk then ⟨s, [], .error (-enomem)⟩
  else if devices &&& audioDeviceOutAllSco != 0 ∧ env.createStatus ≠ 0 then
    ⟨s, [], .error env.createStatus⟩
  else
    let outDevice := s.adev.outDevice &&& ~~~audioDeviceOutAll ||| devices
    let s₁ := { s with adev := { s.adev with
      outDevice, route := selectDevices outDevice s.adev.inDevice } }
    ⟨{ s₁.setOut s.nextOut (openedOutput devices flags env.mallocOk) with nextOut := s.nextOut + 1 },
      [], .ok s.nextOut⟩

/-- `adev_close_output_stream`: `out_standby`, then the stream is freed. -/
def adevCloseOutputStream (s : Hal) (o : Nat) : Outcome Unit :=
  let sb := doOutStandby s o
  ⟨{ sb.hal with outs := Function.update sb.hal.outs o none }, sb.events, ()⟩

/-- What the allocator and `create_resampler` answer during `adev_open_input_stream`. -/
structure OpenInEnv where
  callocOk : Bool
  mallocOk : Bool
  createStatus : Int

/-- The input stream `adev_open_input_stream` builds for a requested rate: the capture geometry,
a converter from its rate when the two differ, and a scratch buffer of one stereo period. -/
def openedInput (sampleRate : Nat) : StreamIn where
  pcm := none
  pcmConfig := pcmConfigIn
  standby := true
  requestedRate := sampleRate
  resampler := if sampleRate ≠ pcmConfigIn.rate then some ⟨pcmConfigIn.rate, sampleRate, 1⟩
    else none
  buffer := fun _ ↦ 0
  bufferBytes := pcmConfigIn.channels * pcmConfigIn.periodSize * inFrameSize
  framesIn := 0
  readStatus := 0

/-- `adev_open_input_stream`. The devices are routed before the allocations that can fail. -/
def adevOpenInputStream (s : Hal) (devices : UInt32) (sampleRate : Nat) (channelMask : UInt32)
    (env : OpenInEnv) : Outcome (Except Int Nat) :=
  if channelMask ≠ audioChannelInMono then ⟨s, [], .error (-einval)⟩
  else if !env.callocOk then ⟨s, [], .error (-enomem)⟩
  else
    let inDevice := s.adev.inDevice &&& ~~~audioDeviceInAll ||| devices
    let s₁ := { s with adev := { s.adev with
      inDevice, route := selectDevices s.adev.outDevice inDevice } }
    if !env.mallocOk then ⟨s₁, [], .error (-enomem)⟩
    else if sampleRate ≠ pcmConfigIn.rate ∧ env.createStatus ≠ 0 then ⟨s₁, [], .error (-einval)⟩
    else ⟨{ s₁.setIn s.nextIn (openedInput sampleRate) with nextIn := s.nextIn + 1 }, [],
      .ok s.nextIn⟩

/-- `adev_close_input_stream`: `in_standby`, then the stream is freed. -/
def adevCloseInputStream (s : Hal) (i : Nat) : Outcome Unit :=
  let sb := doInStandby s i
  ⟨{ sb.hal with ins := Function.update sb.hal.ins i none }, sb.events, ()⟩

/-! ## Routing and device parameters -/

/-- `out_set_parameters` with the routing value `atoi` read, if the key is present. A change of
the SCO bits puts the stream into standby. -/
def outSetParameters (s : Hal) (o : Nat) (routing : Option UInt32) : Outcome Unit :=
  match routing with
  | none => ⟨s, [], ()⟩
  | some val =>
    if s.adev.outDevice ≠ val ∧ val ≠ 0 then
      let sb : Outcome Unit :=
        if (val &&& audioDeviceOutAllSco) ^^^ (s.adev.outDevice &&& audioDeviceOutAllSco) != 0
        then doOutStandby s o else ⟨s, [], ()⟩
      ⟨{ sb.hal with adev := { sb.hal.adev with
          outDevice := val, route := selectDevices val sb.hal.adev.inDevice } }, sb.events, ()⟩
    else ⟨s, [], ()⟩

/-- `in_set_parameters`; the direction bit is cleared from the new value, not from the old. -/
def inSetParameters (s : Hal) (i : Nat) (routing : Option UInt32) : Outcome Unit :=
  match routing with
  | none => ⟨s, [], ()⟩
  | some raw =>
    let val := raw &&& ~~~audioDeviceBitIn
    if s.adev.inDevice ≠ val ∧ val ≠ 0 then
      let sb : Outcome Unit :=
        if (val &&& audioDeviceInAllSco) ^^^ (s.adev.inDevice &&& audioDeviceInAllSco) != 0
        then doInStandby s i else ⟨s, [], ()⟩
      ⟨{ sb.hal with adev := { sb.hal.adev with
          inDevice := val, route := selectDevices sb.hal.adev.outDevice val } }, sb.events, ()⟩
    else ⟨s, [], ()⟩

/-- The `orientation` value of `adev_set_parameters`. -/
def parseOrientation : String → Orientation
  | "landscape" => .landscape
  | "portrait" => .portrait
  | "square" => .square
  | _ => .undefined

/-- `adev_set_parameters` with the values of its two keys, if present. A new orientation
re-applies the routing; `screen_state` sets the device's low-power flag. -/
def adevSetParameters (s : Hal) (orientation screenState : Option String) : Hal :=
  let s₁ := match orientation with
    | none => s
    | some v =>
      if parseOrientation v ≠ s.adev.orientation then
        { s with adev := { s.adev with
          orientation := parseOrientation v
          route := selectDevices s.adev.outDevice s.adev.inDevice } }
      else s
  match screenState with
  | none => s₁
  | some v => { s₁ with adev := { s₁.adev with lowPower := v ≠ "on" } }

/-- `adev_set_mic_mute`. -/
def adevSetMicMute (s : Hal) (state : Bool) : Hal :=
  { s with adev := { s.adev with micMute := state } }

/-! ## Sizes the framework asks for -/

/-- `out_get_buffer_size`: one short period at 44.1 kHz, rounded up to 16 frames, in bytes. -/
def outGetBufferSize (out : StreamOut) : Nat :=
  (shortPeriodSize * outSamplingRate / out.pcmConfig.rate + 15) / 16 * 16 * outFrameSize

/-- `in_get_buffer_size`: one period of the current geometry at the requested rate, rounded up
to 16 frames, in bytes. The product is `unsigned int`; what follows stays below `2 ^ 32`. -/
def inGetBufferSize (inp : StreamIn) : Nat :=
  (inp.pcmConfig.periodSize * inp.requestedRate % 2 ^ 32 / inp.pcmConfig.rate + 15) / 16 * 16 *
    inFrameSize

/-- `out_get_latency`: the play time, in milliseconds, of `PLAYBACK_PERIOD_COUNT` short periods
at the stream's rate, whichever period the stream runs with. -/
def outGetLatency (out : StreamOut) : Nat :=
  shortPeriodSize * playbackPeriodCount * 1000 / out.pcmConfig.rate

/-- `popcount` of a 32-bit mask. -/
def popcount (x : UInt32) : Nat := (List.range 32).countP fun k ↦ x.toNat.testBit k

/-- `adev_get_input_buffer_size` for a configuration's rate and channel mask; `bytesPerSample` is
`audio_bytes_per_sample(config->format)` of the audio headers. One period of `pcm_config_in` at the
requested rate, rounded up to 16 frames, whatever is routed. -/
def adevGetInputBufferSize (sampleRate : Nat) (channelMask : UInt32) (bytesPerSample : Nat) : Nat :=
  (pcmConfigIn.periodSize * sampleRate % 2 ^ 32 / pcmConfigIn.rate + 15) / 16 * 16 *
    popcount channelMask * bytesPerSample

/-! ## The machine -/

/-- One call of the HAL, with what the environment does during it. -/
inductive HalCall
  | openOutputStream (devices flags : UInt32) (env : OpenOutEnv)
  | closeOutputStream (o : Nat)
  | openInputStream (devices : UInt32) (sampleRate : Nat) (channelMask : UInt32)
      (env : OpenInEnv)
  | closeInputStream (i : Nat)
  | outWrite (o : Nat) (client : Nat → UInt16) (bytes : Nat) (attempts : List WriteAttempt)
  | outStandby (o : Nat)
  | outSetParameters (o : Nat) (routing : Option UInt32)
  | inRead (i : Nat) (client : Nat → UInt16) (bytes : Nat) (env : ReadEnv)
  | inStandby (i : Nat)
  | inSetParameters (i : Nat) (routing : Option UInt32)
  | setParameters (orientation screenState : Option String)
  | setMicMute (state : Bool)

/-- The state a call leaves and the collaborator calls it makes. -/
def HalCall.apply : HalCall → Hal → Hal × List Event
  | .openOutputStream devices flags env, s =>
    let r := adevOpenOutputStream s devices flags env; (r.hal, r.events)
  | .closeOutputStream o, s => let r := adevCloseOutputStream s o; (r.hal, r.events)
  | .openInputStream devices rate mask env, s =>
    let r := adevOpenInputStream s devices rate mask env; (r.hal, r.events)
  | .closeInputStream i, s => let r := adevCloseInputStream s i; (r.hal, r.events)
  | .outWrite o client bytes attempts, s =>
    let r := Omap4AudioHal.outWrite s o client bytes attempts; (r.hal, r.events)
  | .outStandby o, s => let r := doOutStandby s o; (r.hal, r.events)
  | .outSetParameters o routing, s => let r := Omap4AudioHal.outSetParameters s o routing; (r.hal, r.events)
  | .inRead i client bytes env, s => let r := Omap4AudioHal.inRead s i client bytes env; (r.hal, r.events)
  | .inStandby i, s => let r := doInStandby s i; (r.hal, r.events)
  | .inSetParameters i routing, s => let r := Omap4AudioHal.inSetParameters s i routing; (r.hal, r.events)
  | .setParameters orientation screenState, s => (adevSetParameters s orientation screenState, [])
  | .setMicMute state, s => (adevSetMicMute s state, [])

/-- A run of calls from `s`: the state it ends in and every collaborator call, in order. -/
def run : Hal → List HalCall → Hal × List Event
  | s, [] => (s, [])
  | s, c :: cs =>
    let r := c.apply s
    let q := run r.1 cs
    (q.1, r.2 ++ q.2)

/-- The states some run from `adev_open` ends in. -/
inductive Reachable : Hal → Prop
  | init : Reachable adevOpen
  | step {s : Hal} (c : HalCall) : Reachable s → Reachable (c.apply s).1

@[simp] theorem run_nil (s : Hal) : run s [] = (s, []) := rfl

@[simp] theorem run_cons (s : Hal) (c : HalCall) (cs : List HalCall) :
    run s (c :: cs) = ((run (c.apply s).1 cs).1, (c.apply s).2 ++ (run (c.apply s).1 cs).2) :=
  rfl

theorem run_append (s : Hal) (cs₁ cs₂ : List HalCall) :
    run s (cs₁ ++ cs₂) = ((run (run s cs₁).1 cs₂).1, (run s cs₁).2 ++ (run (run s cs₁).1 cs₂).2) := by
  induction cs₁ generalizing s with
  | nil => rfl
  | cons c cs ih => simp only [List.cons_append, run_cons, ih, List.append_assoc]

theorem Reachable.run {s : Hal} (h : Reachable s) (cs : List HalCall) :
    Reachable (Omap4AudioHal.run s cs).1 := by
  induction cs generalizing s with
  | nil => exact h
  | cons c cs ih => exact ih (h.step c)

end Omap4AudioHal
