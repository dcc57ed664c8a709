import Omap4AudioHal.Bookkeeping

/-!
# Playback

What an output stream keeps from `adev_open_output_stream`, what a start changes, and what the
data path of `out_write` hands to `pcm_mmap_write`.

## The pointer handed to the endpoint

The resampling branch reads the client's frames, writes the converted frames into `out->buffer`
and points the local `in_buffer` at it, but the write passes the client's `buffer` with the
converted frame count. So on HDMI the endpoint gets the client's unconverted samples, and more
bytes of them than the client handed over (`hdmi_write_reads_past_client_buffer`).

## What a start leaves

The HDMI branch of `start_output_stream` replaces the configuration and leaves `write_threshold`
as it was, 0 on a stream that was never started elsewhere; the other branches set the two
thresholds and keep the rest of the configuration, the HDMI one included if the stream was last
started on HDMI.
-/

namespace Omap4AudioHal

/-! ## What an output stream keeps from its open -/

namespace OutputLife

variable {out : StreamOut}

/-- Every configuration of an output is stereo. -/
theorem channels (h : OutputLife out) : out.pcmConfig.channels = 2 := by
  induction h with
  | opened devices flags mallocOk => simp only [openedOutput]; split_ifs <;> rfl
  | started dev ready _ ih =>
    simp only [outputStarted_pcmConfig, outputGeometry]; split_ifs <;> first | rfl | exact ih
  | live _ ih => exact ih
  | standby _ ih => exact ih
  | data _ hs ih => rw [hs.pcmConfig]; exact ih

/-- An output runs at 44.1 kHz or, once started on HDMI, at 48 kHz. -/
theorem rate (h : OutputLife out) :
    out.pcmConfig.rate = outSamplingRate ∨ out.pcmConfig.rate = mmFullPowerSamplingRate := by
  induction h with
  | opened devices flags mallocOk => simp only [openedOutput]; split_ifs <;> exact .inl rfl
  | started dev ready _ ih =>
    simp only [outputStarted_pcmConfig, outputGeometry]; split_ifs
    · exact .inr rfl
    · exact ih
    · exact ih
  | live _ ih => exact ih
  | standby _ ih => exact ih
  | data _ hs ih => rw [hs.pcmConfig]; exact ih

/-- An output buffers `PLAYBACK_PERIOD_COUNT` periods, short ones or long ones. -/
theorem period (h : OutputLife out) :
    out.pcmConfig.periodCount = playbackPeriodCount ∧
      (out.pcmConfig.periodSize = shortPeriodSize ∨ out.pcmConfig.periodSize = longPeriodSize) := by
  induction h with
  | opened devices flags mallocOk =>
    simp only [openedOutput]; split_ifs
    · exact ⟨rfl, .inr rfl⟩
    · exact ⟨rfl, .inl rfl⟩
  | started dev ready _ ih =>
    simp only [outputStarted_pcmConfig, outputGeometry]; split_ifs
    · exact ⟨rfl, .inr rfl⟩
    · exact ih
    · exact ih
  | live _ ih => exact ih
  | standby _ ih => exact ih
  | data _ hs ih => rw [hs.pcmConfig]; exact ih

end OutputLife

theorem Reachable.outputLife {s : Hal} (h : Reachable s) {o : Nat} {out : StreamOut}
    (hx : s.outs o = some out) : OutputLife out :=
  h.books.out.good_of o out hx

/-! ## What the data path hands to `pcm_mmap_write` -/

/-- A converter from 44.1 kHz to 48 kHz: it consumes all its input and produces the frames of the
same duration, as many as fit. -/
def upsample48k : InputResampler :=
  fun x n room ↦ ⟨n, min room (n * mmFullPowerSamplingRate / outSamplingRate), x⟩

/-- An output opened on HDMI. -/
def hdmiOutputRun : List HalCall :=
  [.openOutputStream audioDeviceOutAuxDigital 0 ⟨true, 0, true⟩]

/-- A write of 441 frames (1764 bytes, within the 3840 bytes `out_get_buffer_size` gives) on the
fresh HDMI output: the endpoint is handed 1920 bytes of the client's 1764-byte buffer. -/
theorem hdmi_write_reads_past_client_buffer :
    Reachable (run adevOpen hdmiOutputRun).1 ∧
    ((run adevOpen hdmiOutputRun).1.outs 0).map outGetBufferSize = some 3840 ∧
    Event.mmapWrite 0 .client 1920 ∈
      (outWrite (run adevOpen hdmiOutputRun).1 0 (fun _ ↦ 0) 1764
        [⟨true, 0, true, upsample48k, [], 0⟩]).events :=
  ⟨Reachable.init.run _, by decide, by decide⟩

/-! ## The latency it reports -/

/-- **`out_get_latency` counts short periods.** In every reachable state the latency it reports is
the play time, in milliseconds, of an output's PCM buffer when the output runs with the short
period, and half of it when the output runs with the long period of a deep-buffer or HDMI
stream. -/
theorem latency_counts_short_periods {s : Hal} (h : Reachable s) {o : Nat} {out : StreamOut}
    (hx : s.outs o = some out) :
    (out.pcmConfig.periodSize = shortPeriodSize →
      out.pcmConfig.periodSize * out.pcmConfig.periodCount * 1000 / out.pcmConfig.rate =
        outGetLatency out) ∧
    (out.pcmConfig.periodSize = longPeriodSize →
      out.pcmConfig.periodSize * out.pcmConfig.periodCount * 1000 / out.pcmConfig.rate =
        2 * outGetLatency out) := by
  have hl := h.outputLife hx
  obtain ⟨hcount, -⟩ := hl.period
  rw [outGetLatency, hcount]
  rcases hl.rate with hr | hr <;> rw [hr] <;>
    exact ⟨fun hp ↦ by rw [hp], fun hp ↦ by rw [hp]; decide⟩

/-- A deep-buffer output opened on the speaker, and the stream the open builds. -/
def deepBufferRun : List HalCall :=
  [.openOutputStream audioDeviceOutSpeaker audioOutputFlagDeepBuffer ⟨true, 0, true⟩]

def deepBufferOutput : StreamOut := openedOutput audioDeviceOutSpeaker audioOutputFlagDeepBuffer true

theorem deep_buffer_latency_is_half_its_buffer :
    (run adevOpen deepBufferRun).1.outs 0 = some deepBufferOutput ∧
    (deepBufferOutput.pcmConfig.periodSize = shortPeriodSize →
      deepBufferOutput.pcmConfig.periodSize * deepBufferOutput.pcmConfig.periodCount * 1000 /
        deepBufferOutput.pcmConfig.rate = outGetLatency deepBufferOutput) ∧
    (deepBufferOutput.pcmConfig.periodSize = longPeriodSize →
      deepBufferOutput.pcmConfig.periodSize * deepBufferOutput.pcmConfig.periodCount * 1000 /
        deepBufferOutput.pcmConfig.rate = 2 * outGetLatency deepBufferOutput) :=
  ⟨rfl, @latency_counts_short_periods _ (Reachable.init.run deepBufferRun) 0 _ rfl⟩

/-! ## What a start leaves -/

/-- The HDMI output written once, then put into standby, routed to the speaker and written
again. -/
def hdmiThenSpeakerRun : List HalCall :=
  [.openOutputStream audioDeviceOutAuxDigital 0 ⟨true, 0, true⟩,
   .outWrite 0 (fun _ ↦ 0) 4 [.plain true],
   .outStandby 0,
   .outSetParameters 0 (some audioDeviceOutSpeaker),
   .outWrite 0 (fun _ ↦ 0) 4 [.plain true]]

/-- After the first start, on HDMI, the output runs `pcm_config_hdmi` with a `write_threshold` of
0 instead of 4 × 1920 frames; after the restart on the speaker it keeps HDMI's 48 kHz and its
1920-frame period instead of `pcm_config_out`'s 44.1 kHz and 960 frames. -/
theorem start_geometry_depends_on_history :
    Reachable (run adevOpen (hdmiThenSpeakerRun.take 2)).1 ∧
    ((run adevOpen (hdmiThenSpeakerRun.take 2)).1.outs 0).map
      (fun out ↦ (out.standby, decide (out.pcmConfig = pcmConfigHdmi), out.writeThreshold)) =
      some (false, true, 0) ∧
    Reachable (run adevOpen hdmiThenSpeakerRun).1 ∧
    ((run adevOpen hdmiThenSpeakerRun).1.outs 0).map
      (fun out ↦ (out.standby, out.pcmConfig.rate, out.pcmConfig.periodSize)) =
      some (false, 48000, 1920) :=
  ⟨Reachable.init.run _, by decide, Reachable.init.run _, by decide⟩

end Omap4AudioHal
