import Omap4AudioHal.Playback

/-!
# Error paths

What the HAL leaves when a collaborator, the allocator or the converter fails: the retry of
`out_write` after an underrun, the opens and the lazy allocations of the converter's scratch
buffer, and the sleep that paces a failed read or write.

## The retry after an underrun

`goto do_over` jumps back past the declarations of `out_write`, so the retry starts with the locals
the failed attempt left: `in_buffer`, `in_frames`, `out_frames` and `frame_size` as that attempt
computed them. The direct 44.1 kHz path sets `out_frames = in_frames`, which the converter of the
retry then takes as its room. When the standby in between moves the stream to HDMI, the retry
converts into 441 frames of room where a fresh write has `RESAMPLER_BUFFER_SIZE / 4`
(`underrun_retry_keeps_stale_room`).

## Failed allocations

`adev_open_input_stream` routes the new devices before it allocates `in->buffer` and creates the
converter, and its error path does not undo the routing. `adev_open_output_stream` and `out_write`
keep a converter whose scratch buffer could not be allocated, and the next `out_write` converts
into it.

## The pacing sleeps

Both sleeps compute `bytes * 1000000` in 32-bit `size_t`, which wraps from 4295 bytes on.
-/

namespace Omap4AudioHal

/-! ## The retry after an underrun -/

/-- An output on the speaker, started, then routed to HDMI without a standby (neither device is
an SCO device). -/
def speakerThenHdmiRun : List HalCall :=
  [.openOutputStream audioDeviceOutSpeaker 0 ⟨true, 0, true⟩,
   .outWrite 0 (fun _ ↦ 0) 4 [.plain true],
   .outSetParameters 0 (some audioDeviceOutAuxDigital)]

/-- An attempt in which the PCM opens, the converter and its buffer are created, the converter
upsamples to 48 kHz, the first timestamp fails, and `pcm_mmap_write` returns `status`. -/
def WriteAttempt.upsampling (status : Int) : WriteAttempt :=
  ⟨true, 0, true, upsample48k, [], status⟩

/-- A write of 441 frames whose first `pcm_mmap_write` underruns on the 44.1 kHz PCM. The retry
restarts on HDMI and hands the endpoint 1764 bytes; a fresh write of the same buffer from the
state the retry starts in hands it 1920. -/
theorem underrun_retry_keeps_stale_room :
    Reachable (run adevOpen speakerThenHdmiRun).1 ∧
    (outWrite (run adevOpen speakerThenHdmiRun).1 0 (fun _ ↦ 0) 1764
        [.upsampling (-epipe), .upsampling 0]).events.getLast? =
      some (.mmapWrite 0 .client 1764) ∧
    (outWrite (doOutStandby (outWritePass (run adevOpen speakerThenHdmiRun).1 0 1764
        (.upsampling (-epipe)) (WriteLocals.init (fun _ ↦ 0) 1764)).hal 0).hal 0 (fun _ ↦ 0) 1764
        [.upsampling 0]).events.getLast? =
      some (.mmapWrite 0 .client 1920) :=
  ⟨Reachable.init.run _, by decide, by decide⟩

/-! ## Failed opens and allocations -/

section Opens

variable {s : Hal} {devices flags : UInt32} {e : Int}

/-- A failed `adev_open_output_stream` leaves the device as it found it. -/
theorem adevOpenOutputStream_error {env : OpenOutEnv}
    (h : (adevOpenOutputStream s devices flags env).ret = .error e) :
    (adevOpenOutputStream s devices flags env).hal = s := by
  unfold adevOpenOutputStream at h ⊢
  split_ifs at h ⊢ <;> rfl

/-- A failed `adev_open_input_stream` opens no stream, but once past the `calloc` it has routed
the new devices. -/
theorem adevOpenInputStream_error {rate : Nat} {mask : UInt32} {env : OpenInEnv}
    (h : (adevOpenInputStream s devices rate mask env).ret = .error e) :
    (adevOpenInputStream s devices rate mask env).hal = s ∨
      (adevOpenInputStream s devices rate mask env).hal =
        let inDevice := s.adev.inDevice &&& ~~~audioDeviceInAll ||| devices
        { s with adev := { s.adev with
          inDevice, route := selectDevices s.adev.outDevice inDevice } } := by
  unfold adevOpenInputStream at h ⊢
  split_ifs with h₁ h₂ h₃ h₄
  · exact .inl rfl
  · exact .inl rfl
  · exact .inr rfl
  · exact .inr rfl
  · simp only [if_neg h₁, h₂, h₃, h₄, if_false, Bool.false_eq_true] at h
    cases h

end Opens

/-- An output on an SCO headset whose scratch buffer cannot be allocated. -/
def scoOutputNoBufferRun : List HalCall :=
  [.openOutputStream audioDeviceOutBluetoothSco 0 ⟨true, 0, false⟩]

/-- The HDMI output, written once with a `malloc` of the scratch buffer that fails. -/
def hdmiNoBufferRun : List HalCall :=
  hdmiOutputRun ++ [.outWrite 0 (fun _ ↦ 0) 1764 [⟨true, 0, false, upsample48k, [], 0⟩]]

/-- A wired-headset input whose `malloc` of `in->buffer` fails: the open reports `-ENOMEM` with
`in_device` and the route already changed. An SCO output opened without its scratch buffer,
and the HDMI output after a write whose `malloc` failed, hold a converter and no buffer; the next
write on HDMI converts 441 frames into 480 and hands them to the endpoint. -/
theorem failed_allocations_leave_partial_state :
    (adevOpenInputStream adevOpen audioDeviceInWiredHeadset 44100 audioChannelInMono
        ⟨true, false, 0⟩).ret = .error (-enomem) ∧
    (adevOpenInputStream adevOpen audioDeviceInWiredHeadset 44100 audioChannelInMono
        ⟨true, false, 0⟩).hal.adev.inDevice = audioDeviceInWiredHeadset ∧
    adevOpen.adev.inDevice ≠ audioDeviceInWiredHeadset ∧
    (adevOpenInputStream adevOpen audioDeviceInWiredHeadset 44100 audioChannelInMono
        ⟨true, false, 0⟩).hal.adev.route = ["speaker", "headset"] ∧
    adevOpen.adev.route = [] ∧
    Reachable (run adevOpen scoOutputNoBufferRun).1 ∧
    ((run adevOpen scoOutputNoBufferRun).1.outs 0).map
      (fun out ↦ (out.resampler.isSome, out.buffer.isSome)) = some (true, false) ∧
    Reachable (run adevOpen hdmiNoBufferRun).1 ∧
    ((run adevOpen hdmiNoBufferRun).1.outs 0).map
      (fun out ↦ (out.standby, out.resampler.isSome, out.buffer.isSome)) = some (false, true, false) ∧
    (outWrite (run adevOpen hdmiNoBufferRun).1 0 (fun _ ↦ 0) 1764 [.upsampling 0]).events =
      [.mmapWrite 0 .client 1920] :=
  ⟨rfl, by decide, by decide, by decide, rfl, Reachable.init.run _, by decide,
    Reachable.init.run _, by decide, by decide⟩

/-! ## The pacing sleeps -/

/-- An output on the speaker and an input on the built-in microphone at 8 kHz. -/
def speakerAndMic8kRun : List HalCall :=
  [.openOutputStream audioDeviceOutSpeaker 0 ⟨true, 0, true⟩,
   .openInputStream audioDeviceInBuiltinMic 8000 audioChannelInMono ⟨true, true, 0⟩]

/-- A write of 4296 bytes whose `pcm_mmap_write` fails with `-EIO` sleeps 5 µs instead of the
24353 µs those bytes play for, and a read of 4296 bytes at 8 kHz whose start fails sleeps 64 µs
instead of 268500: `4296 * 1000000` wraps modulo `2 ^ 32` to 1032704. -/
theorem pacing_sleeps_wrap :
    Reachable (run adevOpen speakerAndMic8kRun).1 ∧
    (outWrite (run adevOpen speakerAndMic8kRun).1 0 (fun _ ↦ 0) 4296
        [.upsampling (-5)]).events.getLast? = some (.usleep 5) ∧
    min 999999 (4296 * 1000000 / (outFrameSize * outSamplingRate)) = 24353 ∧
    (inRead (run adevOpen speakerAndMic8kRun).1 0 (fun _ ↦ 0) 4296
        (.plain false 0 fun _ ↦ 0)).events.getLast? = some (.usleep 64) ∧
    4296 * 1000000 / (inFrameSize * 8000) = 268500 :=
  ⟨Reachable.init.run _, by decide, by decide, by decide, by decide⟩

end Omap4AudioHal
