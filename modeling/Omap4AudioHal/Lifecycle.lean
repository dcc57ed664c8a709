import Omap4AudioHal.State

/-!
# Standby and start

The two transitions of each stream: `do_out_standby`/`do_in_standby` close the PCM, and
`start_output_stream`/`start_input_stream` choose a geometry from the current routing, put the
other direction's active stream into standby when its rate group clashes, and open the PCM.

## The single active pointers

The device remembers one active stream per direction. A start that opens its PCM records itself
there, overwriting whatever stream was named before; a standby clears the pointer whichever stream
it names. With one stream per direction the pointer names exactly the stream out of standby
(`Omap4AudioHal.SingleStream`); with two output streams it does not, and the rate-group check
then misses the stream that is not named.

## What a start leaves behind

`start_output_stream` writes the geometry into the stream before it opens the PCM and does not
undo it when the open fails, and on a failed open it closes the handle without clearing `pcm`.
The AUX_DIGITAL branch replaces the config and leaves `write_threshold` alone; the other two
branches keep the config's rate and period and set only its two thresholds.
-/

namespace Omap4AudioHal

/-! ## Standby -/

/-- `do_out_standby`. -/
def doOutStandby (s : Hal) (o : Nat) : Outcome Unit :=
  match s.outs o with
  | some out =>
    if out.standby then ⟨s, [], ()⟩
    else ⟨{ s.setOut o { out with pcm := none, standby := true } with
            adev := { s.adev with activeOut := none } }, [.pcmClose .output o], ()⟩
  | none => ⟨s, [], ()⟩

/-- `do_in_standby`. -/
def doInStandby (s : Hal) (i : Nat) : Outcome Unit :=
  match s.ins i with
  | some inp =>
    if inp.standby then ⟨s, [], ()⟩
    else ⟨{ s.setIn i { inp with pcm := none, standby := true } with
            adev := { s.adev with activeIn := none } }, [.pcmClose .input i], ()⟩
  | none => ⟨s, [], ()⟩

/-! ## Geometry -/

/-- The PCM a start opens and the stream with the geometry it sets. -/
structure Geometry (α : Type) where
  card : Nat
  device : Nat
  stream : α

/-- The geometry branch of `start_output_stream`. -/
def outputGeometry (outDevice : UInt32) (out : StreamOut) : Geometry StreamOut :=
  if outDevice &&& audioDeviceOutAuxDigital != 0 then
    ⟨pcmCardHdmi, pcmDeviceDefaultOut, { out with pcmConfig := pcmConfigHdmi }⟩
  else if out.lowPower then
    ⟨pcmCardDefault, pcmDeviceMmLp,
      { out with
        writeThreshold := playbackPeriodCount * longPeriodSize
        pcmConfig :=
          { out.pcmConfig with startThreshold := longPeriodSize * 2, availMin := longPeriodSize } }⟩
  else
    ⟨pcmCardDefault, pcmDeviceDefaultOut,
      { out with
        writeThreshold := playbackPeriodCount * shortPeriodSize
        pcmConfig :=
          { out.pcmConfig with startThreshold := shortPeriodSize * 2, availMin := shortPeriodSize } }⟩

/-- The geometry branch of `start_input_stream`. -/
def inputGeometry (inDevice : UInt32) (inp : StreamIn) : Geometry StreamIn :=
  if inDeviceHas inDevice audioDeviceInAllSco then
    ⟨pcmCardDefault, pcmDeviceScoIn, { inp with pcmConfig := pcmConfigSco }⟩
  else ⟨pcmCardDefault, pcmDeviceDefaultIn, { inp with pcmConfig := pcmConfigIn }⟩

/-! ## The rate-group check -/

/-- The rate-group block of `start_output_stream`: the active input goes into standby when its
rate clashes with `rate`, the rate the output is about to open at. -/
def inStandbyOnClash (s : Hal) (rate : Nat) : Outcome Unit :=
  match s.adev.activeIn with
  | none => ⟨s, [], ()⟩
  | some i =>
    match s.ins i with
    | none => ⟨s, [], ()⟩
    | some inp => if rateGroupsClash rate inp.pcmConfig.rate then doInStandby s i else ⟨s, [], ()⟩

/-- The rate-group block of `start_input_stream`. -/
def outStandbyOnClash (s : Hal) (rate : Nat) : Outcome Unit :=
  match s.adev.activeOut with
  | none => ⟨s, [], ()⟩
  | some o =>
    match s.outs o with
    | none => ⟨s, [], ()⟩
    | some out => if rateGroupsClash rate out.pcmConfig.rate then doOutStandby s o else ⟨s, [], ()⟩

/-! ## Start -/

/-- The output as `start_output_stream` leaves it: the geometry of the routing and the handle
`pcm_open` returned, ready or not. -/
def outputStarted (outDevice : UInt32) (out : StreamOut) (ready : Bool) : StreamOut :=
  let g := outputGeometry outDevice out
  { g.stream with pcm := some ⟨g.card, g.device, ready⟩ }

/-- The input as `start_input_stream` leaves it; a stream with a resampler that opened its PCM
restarts with an empty provider. -/
def inputStarted (inDevice : UInt32) (inp : StreamIn) (ready : Bool) : StreamIn :=
  let g := inputGeometry inDevice inp
  let opened := { g.stream with pcm := some ⟨g.card, g.device, ready⟩ }
  if ready && inp.resampler.isSome then { opened with framesIn := 0 } else opened

section Started

variable (dev : UInt32) (inp : StreamIn) (out : StreamOut) (ready : Bool)

@[simp] theorem inputStarted_pcmConfig :
    (inputStarted dev inp ready).pcmConfig =
      if inDeviceHas dev audioDeviceInAllSco then pcmConfigSco else pcmConfigIn := by
  simp only [inputStarted, inputGeometry]; split_ifs <;> rfl

@[simp] theorem inputStarted_pcm :
    (inputStarted dev inp ready).pcm =
      some ⟨pcmCardDefault, if inDeviceHas dev audioDeviceInAllSco then pcmDeviceScoIn
        else pcmDeviceDefaultIn, ready⟩ := by
  simp only [inputStarted, inputGeometry]; split_ifs <;> rfl

@[simp] theorem inputStarted_framesIn :
    (inputStarted dev inp ready).framesIn =
      if ready && inp.resampler.isSome then 0 else inp.framesIn := by
  simp only [inputStarted, inputGeometry]; split_ifs <;> rfl

@[simp] theorem inputStarted_standby : (inputStarted dev inp ready).standby = inp.standby := by
  simp only [inputStarted, inputGeometry]; split_ifs <;> rfl

@[simp] theorem inputStarted_resampler :
    (inputStarted dev inp ready).resampler = inp.resampler := by
  simp only [inputStarted, inputGeometry]; split_ifs <;> rfl

@[simp] theorem inputStarted_buffer : (inputStarted dev inp ready).buffer = inp.buffer := by
  simp only [inputStarted, inputGeometry]; split_ifs <;> rfl

@[simp] theorem inputStarted_readStatus :
    (inputStarted dev inp ready).readStatus = inp.readStatus := by
  simp only [inputStarted, inputGeometry]; split_ifs <;> rfl

@[simp] theorem inputStarted_requestedRate :
    (inputStarted dev inp ready).requestedRate = inp.requestedRate := by
  simp only [inputStarted, inputGeometry]; split_ifs <;> rfl

@[simp] theorem inputStarted_bufferBytes :
    (inputStarted dev inp ready).bufferBytes = inp.bufferBytes := by
  simp only [inputStarted, inputGeometry]; split_ifs <;> rfl

@[simp] theorem outputStarted_pcm :
    (outputStarted dev out ready).pcm =
      some ⟨(outputGeometry dev out).card, (outputGeometry dev out).device, ready⟩ := rfl

@[simp] theorem outputStarted_pcmConfig :
    (outputStarted dev out ready).pcmConfig = (outputGeometry dev out).stream.pcmConfig := rfl

@[simp] theorem outputStarted_writeThreshold :
    (outputStarted dev out ready).writeThreshold = (outputGeometry dev out).stream.writeThreshold :=
  rfl

@[simp] theorem outputStarted_standby : (outputStarted dev out ready).standby = out.standby := by
  simp only [outputStarted, outputGeometry]; split_ifs <;> rfl

@[simp] theorem outputStarted_lowPower : (outputStarted dev out ready).lowPower = out.lowPower := by
  simp only [outputStarted, outputGeometry]; split_ifs <;> rfl

@[simp] theorem outputStarted_resampler :
    (outputStarted dev out ready).resampler = out.resampler := by
  simp only [outputStarted, outputGeometry]; split_ifs <;> rfl

@[simp] theorem outputStarted_buffer : (outputStarted dev out ready).buffer = out.buffer := by
  simp only [outputStarted, outputGeometry]; split_ifs <;> rfl

end Started

/-- `start_output_stream`; `ready` is what `pcm_is_ready` says of the handle `pcm_open` returns.
It leaves `standby` to its caller. -/
def startOutputStream (s : Hal) (o : Nat) (ready : Bool) : Outcome Int :=
  match s.outs o with
  | none => ⟨s, [], 0⟩
  | some out =>
    let g := outputGeometry s.adev.outDevice out
    let c := inStandbyOnClash s g.stream.pcmConfig.rate
    let s₁ := c.hal.setOut o (outputStarted s.adev.outDevice out ready)
    let opened := c.events ++ [.pcmOpen .output o g.card g.device g.stream.pcmConfig]
    if ready then
      ⟨{ s₁ with adev := { s₁.adev with activeOut := some o } },
        opened ++ (if out.resampler.isSome then [.resamplerReset .output o] else []), 0⟩
    else ⟨s₁, opened ++ [.pcmClose .output o], -enomem⟩

section StartSpec

variable {s : Hal} {o i : Nat} {out : StreamOut} {inp : StreamIn}

theorem doInStandby_outs (s : Hal) (i : Nat) : (doInStandby s i).hal.outs = s.outs := by
  unfold doInStandby; split <;> (try split_ifs) <;> rfl

theorem inStandbyOnClash_outs (s : Hal) (r : Nat) : (inStandbyOnClash s r).hal.outs = s.outs := by
  unfold inStandbyOnClash
  repeat' split
  all_goals first | rfl | exact doInStandby_outs s _

theorem startOutputStream_outs_self (hx : s.outs o = some out) (ready : Bool) :
    (startOutputStream s o ready).hal.outs o = some (outputStarted s.adev.outDevice out ready) := by
  cases ready <;> simp [startOutputStream, hx]

theorem startOutputStream_ret (hx : s.outs o = some out) (ready : Bool) :
    (startOutputStream s o ready).ret = if ready then 0 else -enomem := by
  cases ready <;> simp [startOutputStream, hx]

end StartSpec

/-- `start_input_stream`. -/
def startInputStream (s : Hal) (i : Nat) (ready : Bool) : Outcome Int :=
  match s.ins i with
  | none => ⟨s, [], 0⟩
  | some inp =>
    let g := inputGeometry s.adev.inDevice inp
    let c := outStandbyOnClash s g.stream.pcmConfig.rate
    let s₁ := c.hal.setIn i (inputStarted s.adev.inDevice inp ready)
    let opened := c.events ++ [.pcmOpen .input i g.card g.device g.stream.pcmConfig]
    if ready then
      ⟨{ s₁ with adev := { s₁.adev with activeIn := some i } },
        opened ++ (if inp.resampler.isSome then [.resamplerReset .input i] else []), 0⟩
    else ⟨s₁, opened ++ [.pcmClose .input i], -enomem⟩

section StartSpec

variable {s : Hal} {o i : Nat} {out : StreamOut} {inp : StreamIn}

theorem doOutStandby_ins (s : Hal) (o : Nat) : (doOutStandby s o).hal.ins = s.ins := by
  unfold doOutStandby; split <;> (try split_ifs) <;> rfl

theorem outStandbyOnClash_ins (s : Hal) (r : Nat) : (outStandbyOnClash s r).hal.ins = s.ins := by
  unfold outStandbyOnClash
  repeat' split
  all_goals first | rfl | exact doOutStandby_ins s _

theorem startInputStream_ins_self (hx : s.ins i = some inp) (ready : Bool) :
    (startInputStream s i ready).hal.ins i = some (inputStarted s.adev.inDevice inp ready) := by
  cases ready <;> simp [startInputStream, hx]

theorem startInputStream_ret (hx : s.ins i = some inp) (ready : Bool) :
    (startInputStream s i ready).ret = if ready then 0 else -enomem := by
  cases ready <;> simp [startInputStream, hx]

end StartSpec

end Omap4AudioHal
