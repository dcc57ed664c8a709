import Omap4AudioHal.Routing
import Mathlib.Logic.Function.Basic

/-!
# The state of the HAL

One `struct audio_device` and the streams opened on it. The C streams are heap objects reached
through pointers; here they are named by numbers, `outs o` and `ins i` being `none` once the
stream is closed (or before it is opened). A fresh number is taken for every open, so a number is
never reused; the device's `active_out` and `active_in` pointers are `Option`s of these numbers.

Everything the HAL does to the world outside its own memory — tinyalsa, the resamplers, `usleep` —
is recorded as an `Event`, in order. A part of the HAL returns an `Outcome`: the state after it,
its events and its C return value.

## What is left out

The `audio_stream_*` vtables, the `dev` back pointers and the locks are not state here (the locks
are the subject of `Omap4AudioHal.Locking`). `adev->standby` and `out->buffer_frames` are never
read by the source and are not kept.
-/

namespace Omap4AudioHal

/-- A tinyalsa PCM handle: the card and device it was opened on, and whether `pcm_is_ready`
holds of it. tinyalsa's `pcm_open` never returns `NULL`; a failed open is a handle that is not
ready. -/
structure Pcm where
  card : Nat
  device : Nat
  ready : Bool
  deriving DecidableEq, Repr

/-- A resampler of `audio_utils`, as `create_resampler` set it up. -/
structure Resampler where
  inRate : Nat
  outRate : Nat
  channels : Nat
  deriving DecidableEq, Repr

/-- `struct stream_out`. -/
structure StreamOut where
  pcm : Option Pcm
  pcmConfig : PcmConfig
  standby : Bool
  resampler : Option Resampler
  /-- `out->buffer`, the `RESAMPLER_BUFFER_SIZE` scratch buffer; `none` is `NULL`. -/
  buffer : Option (Nat → UInt16)
  writeThreshold : Nat
  lowPower : Bool

/-- `struct stream_in`. The scratch buffer is allocated when the stream is opened and is
`bufferBytes` bytes long. -/
structure StreamIn where
  pcm : Option Pcm
  pcmConfig : PcmConfig
  standby : Bool
  requestedRate : Nat
  resampler : Option Resampler
  buffer : Nat → UInt16
  bufferBytes : Nat
  framesIn : Nat
  readStatus : Int

inductive Orientation
  | landscape
  | portrait
  | square
  | undefined
  deriving DecidableEq, Repr

/-- `struct audio_device`; `route` is the list of mixer paths the last `select_devices` applied. -/
structure AudioDevice where
  outDevice : UInt32
  inDevice : UInt32
  micMute : Bool
  orientation : Orientation
  lowPower : Bool
  route : List String
  activeOut : Option Nat
  activeIn : Option Nat

/-- The device and every stream opened on it. -/
structure Hal where
  adev : AudioDevice
  outs : Nat → Option StreamOut
  ins : Nat → Option StreamIn
  nextOut : Nat
  nextIn : Nat

/-- The device `adev_open` returns: routed to the speaker and the built-in mic, no stream. -/
def adevOpen : Hal where
  adev :=
    { outDevice := audioDeviceOutSpeaker
      inDevice := audioDeviceInBuiltinMic &&& ~~~audioDeviceBitIn
      micMute := false
      orientation := .undefined
      lowPower := false
      route := []
      activeOut := none
      activeIn := none }
  outs := fun _ ↦ none
  ins := fun _ ↦ none
  nextOut := 0
  nextIn := 0

/-! ## Updating one stream -/

namespace Hal

def setOut (s : Hal) (o : Nat) (out : StreamOut) : Hal :=
  { s with outs := Function.update s.outs o (some out) }

def setIn (s : Hal) (i : Nat) (inp : StreamIn) : Hal :=
  { s with ins := Function.update s.ins i (some inp) }

variable (s : Hal) {o i : Nat}

@[simp] theorem setOut_outs_self (out : StreamOut) : (s.setOut o out).outs o = some out := by
  simp [setOut]

@[simp] theorem setOut_outs_ne {o' : Nat} (out : StreamOut) (h : o' ≠ o) :
    (s.setOut o out).outs o' = s.outs o' := by
  simp [setOut, h]

@[simp] theorem setOut_ins (out : StreamOut) : (s.setOut o out).ins = s.ins := rfl
@[simp] theorem setOut_adev (out : StreamOut) : (s.setOut o out).adev = s.adev := rfl
@[simp] theorem setOut_nextOut (out : StreamOut) : (s.setOut o out).nextOut = s.nextOut := rfl
@[simp] theorem setOut_nextIn (out : StreamOut) : (s.setOut o out).nextIn = s.nextIn := rfl

@[simp] theorem setIn_ins_self (inp : StreamIn) : (s.setIn i inp).ins i = some inp := by
  simp [setIn]

@[simp] theorem setIn_ins_ne {i' : Nat} (inp : StreamIn) (h : i' ≠ i) :
    (s.setIn i inp).ins i' = s.ins i' := by
  simp [setIn, h]

@[simp] theorem setIn_outs (inp : StreamIn) : (s.setIn i inp).outs = s.outs := rfl
@[simp] theorem setIn_adev (inp : StreamIn) : (s.setIn i inp).adev = s.adev := rfl
@[simp] theorem setIn_nextOut (inp : StreamIn) : (s.setIn i inp).nextOut = s.nextOut := rfl
@[simp] theorem setIn_nextIn (inp : StreamIn) : (s.setIn i inp).nextIn = s.nextIn := rfl

theorem setOut_outs (out : StreamOut) (o' : Nat) :
    (s.setOut o out).outs o' = if o' = o then some out else s.outs o' := by
  simp [setOut, Function.update_apply]

theorem setIn_ins (inp : StreamIn) (i' : Nat) :
    (s.setIn i inp).ins i' = if i' = i then some inp else s.ins i' := by
  simp [setIn, Function.update_apply]

end Hal

/-! ## Events and outcomes -/

inductive Dir
  | output
  | input
  deriving DecidableEq, Repr

/-- Where the bytes handed to `pcm_mmap_write` are read from: the client's buffer or the
stream's scratch buffer `out->buffer`. -/
inductive WriteSrc
  | client
  | scratch
  deriving DecidableEq, Repr

/-- A call from the HAL to a collaborator. -/
inductive Event
  | pcmOpen (dir : Dir) (id card device : Nat) (config : PcmConfig)
  | pcmClose (dir : Dir) (id : Nat)
  | resamplerReset (dir : Dir) (id : Nat)
  /-- `pcm_mmap_write(out->pcm, src, bytes)`. -/
  | mmapWrite (id : Nat) (src : WriteSrc) (bytes : Nat)
  /-- `pcm_read(in->pcm, dst, bytes)`; `scratch` tells whether `dst` is `in->buffer`. -/
  | pcmRead (id : Nat) (scratch : Bool) (bytes : Nat)
  | usleep (us : Nat)
  deriving DecidableEq, Repr

/-- What a part of the HAL leaves: the state, the collaborator calls it made, its return value. -/
structure Outcome (α : Type) where
  hal : Hal
  events : List Event
  ret : α

/-- The errno values the source returns. -/
def enomem : Int := 12
def enodev : Int := 19
def einval : Int := 22
def epipe : Int := 32

end Omap4AudioHal
