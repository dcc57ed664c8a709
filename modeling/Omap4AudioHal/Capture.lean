import Omap4AudioHal.Bookkeeping

/-!
# Capture

What an input stream keeps from `adev_open_input_stream` and what the read path does with it.

## Chosen once, used under every routing

The open picks the converter against `pcm_config_in`: none for a 44.1 kHz request, one from
44.1 kHz to the requested rate otherwise; and it sizes the scratch buffer for one stereo period of
`pcm_config_in`. A start picks the geometry from the current routing, `pcm_config_sco` when an SCO
device is routed. Neither choice is revisited, so on the SCO geometry the converter converts from
the wrong rate (`converts_from_endpoint_iff`), and a buffer size the framework was told under one
geometry can be read under the other.

## The client's buffer

The client hands `in_read` a buffer of `bytes` bytes. `read_frames` hands the converter the room
still missing and moves its position by what the converter reports. With a converter that reports
at least one frame a round and never more than the room it was handed, it returns exactly the
request or the provider's error (`readFrames_returns_request`); a converter that reports more ends
the loop past the request, with the count it reported. The converter writes only into the room it
is handed, the stereo path copies the requested frames only, the mono path lets `pcm_read`
transfer at most `bytes`, and the mute clears at most `bytes`, so no path writes past the client's
buffer (`inRead_writes_within_request`).
-/

namespace Omap4AudioHal

/-! ## What an input stream keeps from its open -/

namespace InputLife

variable {inp : StreamIn}

/-- The converter is the one the open chose for the requested rate. -/
theorem resampler (h : InputLife inp) :
    inp.resampler = (openedInput inp.requestedRate).resampler := by
  induction h with
  | opened r => rfl
  | started dev ready _ ih => simpa using ih
  | live _ ih => exact ih
  | standby _ ih => exact ih
  | data _ hs ih => rw [hs.resampler, hs.requestedRate]; exact ih

/-- The geometry is the default capture one or the SCO one. -/
theorem pcmConfig (h : InputLife inp) : inp.pcmConfig = pcmConfigIn ∨ inp.pcmConfig = pcmConfigSco := by
  induction h with
  | opened r => exact .inl rfl
  | started dev ready _ _ => rw [inputStarted_pcmConfig]; split_ifs <;> simp
  | live _ ih => exact ih
  | standby _ ih => exact ih
  | data _ hs ih => rw [hs.pcmConfig]; exact ih

/-- The scratch buffer holds one stereo period of the default capture geometry. -/
theorem bufferBytes (h : InputLife inp) : inp.bufferBytes = 3840 := by
  induction h with
  | opened r => rfl
  | started dev ready _ ih => simpa using ih
  | live _ ih => exact ih
  | standby _ ih => exact ih
  | data _ hs ih => rw [hs.bufferBytes]; exact ih

end InputLife

theorem Reachable.inputLife {s : Hal} (h : Reachable s) {i : Nat} {inp : StreamIn}
    (hx : s.ins i = some inp) : InputLife inp :=
  h.books.inp.good_of i inp hx

/-! ## The converter and the endpoint -/

/-- A converter that fits the endpoint: none when the endpoint runs at the requested rate, and
otherwise one from the endpoint's rate to the requested rate. -/
def ConvertsFromEndpoint (inp : StreamIn) : Prop :=
  (inp.resampler = none ↔ inp.pcmConfig.rate = inp.requestedRate) ∧
  ∀ r, inp.resampler = some r → r.inRate = inp.pcmConfig.rate ∧ r.outRate = inp.requestedRate

/-- **The converter fits the endpoint exactly on the default capture geometry.** In every
reachable state an input stream converts from its endpoint's rate to the requested rate if and
only if it is on `pcm_config_in`; on `pcm_config_sco` it never does. -/
theorem converts_from_endpoint_iff {s : Hal} (h : Reachable s) {i : Nat} {inp : StreamIn}
    (hx : s.ins i = some inp) : ConvertsFromEndpoint inp ↔ inp.pcmConfig = pcmConfigIn := by
  have hl := h.inputLife hx
  have hr := hl.resampler
  simp only [openedInput, pcmConfigIn, outSamplingRate] at hr
  unfold ConvertsFromEndpoint
  rcases hl.pcmConfig with hc | hc <;> by_cases hq : inp.requestedRate = 44100 <;>
    simp [hr, hc, hq, pcmConfigIn, pcmConfigSco, outSamplingRate, scoSamplingRate, eq_comm]

/-- An input opened for 44.1 kHz on the SCO headset and read once. -/
def scoCaptureRun : List HalCall :=
  [.openInputStream audioDeviceInAllSco 44100 audioChannelInMono ⟨true, true, 0⟩,
   .inRead 0 (fun _ ↦ 0) 2 (.plain true 0 fun _ ↦ 0)]

/-- On SCO the stream captures at 8 kHz with no converter and hands the samples out as 44.1 kHz
audio. -/
theorem sco_capture_runs_unconverted :
    Reachable (run adevOpen scoCaptureRun).1 ∧
    ((run adevOpen scoCaptureRun).1.ins 0).map
      (fun inp ↦ (inp.standby, inp.pcmConfig.rate, inp.requestedRate, inp.resampler)) =
      some (false, 8000, 44100, none) :=
  ⟨Reachable.init.run _, by decide⟩

theorem sco_capture_converts_iff_default_geometry :
    ConvertsFromEndpoint (((run adevOpen scoCaptureRun).1.ins 0).get (by decide)) ↔
      (((run adevOpen scoCaptureRun).1.ins 0).get (by decide)).pcmConfig = pcmConfigIn :=
  converts_from_endpoint_iff (Reachable.init.run scoCaptureRun) (Option.some_get _).symm

/-! ## The size the framework is told -/

/-- An input opened for 44.1 kHz on the SCO headset, read once, then routed to the built-in
microphone. -/
def scoThenMicRun : List HalCall :=
  [.openInputStream audioDeviceInAllSco 44100 audioChannelInMono ⟨true, true, 0⟩,
   .inRead 0 (fun _ ↦ 0) 2 (.plain true 0 fun _ ↦ 0),
   .inSetParameters 0 (some audioDeviceInBuiltinMic)]

/-- After the switch `in_get_buffer_size` still answers on the SCO geometry, 2848 bytes; a read
of that size restarts on the stereo geometry and has `pcm_read` write 5696 bytes into the
3840-byte scratch buffer. -/
theorem sco_buffer_size_overflows_scratch :
    Reachable (run adevOpen scoThenMicRun).1 ∧
    ((run adevOpen scoThenMicRun).1.ins 0).map (fun inp ↦ (inGetBufferSize inp, inp.bufferBytes)) =
      some (2848, 3840) ∧
    ⟨0, 5696⟩ ∈ (inRead (run adevOpen scoThenMicRun).1 0 (fun _ ↦ 0) 2848
      (.plain true 0 fun _ ↦ 0)).spans :=
  ⟨Reachable.init.run _, by decide, by decide⟩

/-! ## Mute -/

/-- An input opened for 44.1 kHz on the built-in microphone, with the microphone muted. -/
def mutedMicRun : List HalCall :=
  [.openInputStream audioDeviceInBuiltinMic 44100 audioChannelInMono ⟨true, true, 0⟩,
   .setMicMute true]

/-- A muted read whose `pcm_read` fails (with `-EIO`) after capturing reports all bytes read and
hands the client the captured left channel: the clearing is skipped on the error path, and the
stereo path has already copied `in->buffer` into the client's buffer. -/
theorem muted_read_error_returns_captured_samples :
    Reachable (run adevOpen mutedMicRun).1 ∧ (run adevOpen mutedMicRun).1.adev.micMute = true ∧
    (inRead (run adevOpen mutedMicRun).1 0 (fun _ ↦ 0) 4 (.plain true (-5) fun _ ↦ 0x1234)).ret =
      some 4 ∧
    byteAt (inRead (run adevOpen mutedMicRun).1 0 (fun _ ↦ 0) 4
      (.plain true (-5) fun _ ↦ 0x1234)).client 0 = 0x34 :=
  ⟨Reachable.init.run _, by decide, by decide, by decide⟩

/-! ## The client's buffer -/

/-- **`read_frames` returns the request.** With a converter that keeps to its side of
`resample_from_provider` (until the request is filled, each round reports at least one frame and
at most the room it was handed), `frames` rounds of it are enough: `read_frames` returns exactly
`frames`, or the non-zero status the provider recorded. -/
theorem readFrames_returns_request (inp : StreamIn) (i frames : Nat) (client : Nat → UInt16)
    (rounds : List PullRound) (hfit : ConverterFits frames 0 rounds)
    (hlen : frames ≤ rounds.length) :
    (readFrames inp i frames client rounds).ret = some (frames : Int) ∨
      ((readFrames inp i frames client rounds).stream.readStatus ≠ 0 ∧
        (readFrames inp i frames client rounds).ret =
          some (readFrames inp i frames client rounds).stream.readStatus) :=
  readFramesLoop_returns i frames inp client 0 rounds (Nat.zero_le _) hfit (by omega)

/-- A converter round that reports one frame. -/
def oneFrameRound : PullRound := ⟨[], 1, fun _ ↦ 9⟩

theorem single_frame_rounds_return_request :
    ConverterFits 2 0 [oneFrameRound, oneFrameRound] ∧ 2 ≤ [oneFrameRound, oneFrameRound].length ∧
      ((readFrames (openedInput 22050) 0 2 (fun _ ↦ 0) [oneFrameRound, oneFrameRound]).ret =
          some ((2 : Nat) : Int) ∨
        ((readFrames (openedInput 22050) 0 2 (fun _ ↦ 0)
            [oneFrameRound, oneFrameRound]).stream.readStatus ≠ 0 ∧
          (readFrames (openedInput 22050) 0 2 (fun _ ↦ 0) [oneFrameRound, oneFrameRound]).ret =
            some (readFrames (openedInput 22050) 0 2 (fun _ ↦ 0)
              [oneFrameRound, oneFrameRound]).stream.readStatus)) :=
  ⟨by decide, by decide,
    readFrames_returns_request (openedInput 22050) 0 2 (fun _ ↦ 0) _ (by decide) (by decide)⟩

/-- A converter round that reports five frames whatever room it is handed. -/
def eagerRound : PullRound := ⟨[], 5, fun _ ↦ 9⟩

/-- Without the converter's side the count is the converter's: asked for two frames,
`read_frames` returns the five it was told. -/
example : (readFrames (openedInput 22050) 0 2 (fun _ ↦ 0) [eagerRound]).ret = some 5 := by
  decide

/-- **`in_read` writes only into the bytes it was asked for.** On every path (converter, stereo,
mono), muted or not, from every state and under every behaviour of the endpoint and the converter,
a sample of the client's buffer that starts at or past byte `bytes` is left as it was. -/
theorem inRead_writes_within_request (s : Hal) (i : Nat) (client : Nat → UInt16) (bytes : Nat)
    (env : ReadEnv) {j : Nat} (hj : bytes ≤ 2 * j) :
    (inRead s i client bytes env).client j = client j := by
  cases hx : s.ins i with
  | none => simp only [inRead, hx]
  | some inp =>
    cases hsb : inp.standby
    · rw [inRead_of_live hx hsb]
      exact inReadData_client_outside _ _ _ _ _ _ _ hj
    · cases hr : env.ready
      · rw [inRead_of_open_fails hx hsb hr]
      · rw [inRead_of_opened hx hsb hr]
        exact inReadData_client_outside _ _ _ _ _ _ _ hj

theorem muted_read_leaves_client_past_request :
    4 ≤ 2 * 2 ∧
    (inRead (run adevOpen mutedMicRun).1 0 (fun _ ↦ 7) 4 (.plain true 0 fun _ ↦ 1)).client 2 = 7 :=
  ⟨by decide, inRead_writes_within_request _ 0 (fun _ ↦ 7) 4 _ (by decide)⟩

end Omap4AudioHal
