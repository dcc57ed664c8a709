import Omap4AudioHal.Lifecycle
import Omap4AudioHal.Samples

/-!
# The buffer provider

`get_next_buffer` and `release_buffer` let the capture resampler pull hardware frames without
knowing about the PCM. The provider keeps one period in `in->buffer`, and `frames_in` counts the
frames of it not yet handed out, which are the last `frames_in` of the period. A pull from an
empty provider reads one whole period, keeps its first channel in place, and hands out a window at
the front of what is left.

## The protocol

Section `Protocol` runs the provider the way the resampler drives it — pulls (a `get_next_buffer`
followed by the `release_buffer` of at most the frames it got), standbys and restarts — with two
ghost lists: the first-channel samples of the periods read since the last start, and the samples
released since then. While the stream is out of standby the released samples followed by the
pending ones are exactly the samples read (`Provider.inv_run`): no frame is skipped or handed out
twice. A restart whose PCM fails to open sets the new geometry without resetting `frames_in`;
nothing pulls from a stream in standby, but `frames_in` can then exceed the new period
(`frames_in_exceeds_period_after_failed_restart`).
-/

namespace Omap4AudioHal

/-- What one `pcm_read` returns and the samples it stores. -/
structure PcmRead where
  status : Int
  data : Nat → UInt16

/-- The number of samples `pcm_read(pcm, dst, bytes)` stores on a PCM opened with `cfg`:
tinyalsa transfers whole frames, `bytes / (2 * channels)` of them. -/
def pcmReadSamples (cfg : PcmConfig) (bytes : Nat) : Nat := bytes / (2 * cfg.channels) * cfg.channels

/-- `struct resampler_buffer` as `get_next_buffer` fills it: the window's offset into
`in->buffer` in samples (`none` is `raw == NULL`) and its frame count. -/
structure ProviderBuffer where
  raw : Option Nat
  frameCount : Nat
  deriving DecidableEq, Repr

/-- The bytes of `in->buffer` the resampler reads through a window. -/
def ProviderBuffer.spans (b : ProviderBuffer) : List Span :=
  match b.raw with
  | some off => [⟨2 * off, 2 * (off + b.frameCount)⟩]
  | none => []

/-- What a call of `get_next_buffer` leaves: the stream, the buffer it filled, its return value,
its `pcm_read`, and the bytes of `in->buffer` it and its window touch. -/
structure Pull where
  stream : StreamIn
  buf : ProviderBuffer
  ret : Int
  events : List Event
  spans : List Span

/-- One period in bytes, as `get_next_buffer` asks `pcm_read` for it. -/
def periodBytes (cfg : PcmConfig) : Nat := cfg.channels * cfg.periodSize * inFrameSize

/-- The window over the last `frames_in` frames of the period, at most `frameCount` of them. -/
def providerWindow (inp : StreamIn) (frameCount : Nat) : ProviderBuffer :=
  ⟨some (inp.pcmConfig.periodSize - inp.framesIn), min frameCount inp.framesIn⟩

/-- The stream after `get_next_buffer` read a period with success: a full provider whose period
holds the first channel in place. -/
def refilled (inp : StreamIn) (rd : PcmRead) : StreamIn :=
  let cfg := inp.pcmConfig
  let filled := fillPrefix inp.buffer rd.data (pcmReadSamples cfg (periodBytes cfg))
  { inp with
    readStatus := rd.status
    framesIn := cfg.periodSize
    buffer := if cfg.channels = 2 then discardRightChannel filled cfg.periodSize else filled }

/-- `get_next_buffer` of input `i` asked for `frameCount` frames; `rd` is what `pcm_read` does if
it is called. -/
def getNextBuffer (inp : StreamIn) (i frameCount : Nat) (rd : PcmRead) : Pull :=
  match inp.pcm with
  | none => ⟨{ inp with readStatus := -enodev }, ⟨none, 0⟩, -enodev, [], []⟩
  | some _ =>
    if inp.framesIn = 0 then
      let cfg := inp.pcmConfig
      let readEv := [Event.pcmRead i true (periodBytes cfg)]
      if rd.status ≠ 0 then
        ⟨{ inp with
            buffer := fillPrefix inp.buffer rd.data (pcmReadSamples cfg (periodBytes cfg))
            readStatus := rd.status }, ⟨none, 0⟩, rd.status, readEv, [⟨0, periodBytes cfg⟩]⟩
      else
        let b := providerWindow (refilled inp rd) frameCount
        ⟨refilled inp rd, b, rd.status, readEv,
          ⟨0, periodBytes cfg⟩ :: (if cfg.channels = 2 then discardSpans cfg.periodSize else [])
            ++ b.spans⟩
    else
      let b := providerWindow inp frameCount
      ⟨inp, b, inp.readStatus, [], b.spans⟩

/-- `release_buffer`: `frames_in -= frame_count`, in `size_t`. -/
def releaseBuffer (inp : StreamIn) (frameCount : Nat) : StreamIn :=
  { inp with framesIn := sizeSub inp.framesIn frameCount }

/-- `do_in_standby` as it acts on the stream. -/
def StreamIn.closed (inp : StreamIn) : StreamIn :=
  if inp.standby then inp else { inp with pcm := none, standby := true }

/-! ## One pull -/

section Pull

variable {inp : StreamIn} {i n : Nat} {rd : PcmRead}

section Refilled

variable (inp rd)

@[simp] theorem refilled_framesIn : (refilled inp rd).framesIn = inp.pcmConfig.periodSize := rfl
@[simp] theorem refilled_pcm : (refilled inp rd).pcm = inp.pcm := rfl
@[simp] theorem refilled_pcmConfig : (refilled inp rd).pcmConfig = inp.pcmConfig := rfl
@[simp] theorem refilled_standby : (refilled inp rd).standby = inp.standby := rfl
@[simp] theorem refilled_resampler : (refilled inp rd).resampler = inp.resampler := rfl
@[simp] theorem refilled_readStatus : (refilled inp rd).readStatus = rd.status := rfl

end Refilled

/-- The samples a successful refill leaves: the first channel of the period. -/
theorem refilled_buffer (hch : inp.pcmConfig.channels = 1 ∨ inp.pcmConfig.channels = 2)
    {j : Nat} (hj : j < inp.pcmConfig.periodSize) :
    (refilled inp rd).buffer j = rd.data (inp.pcmConfig.channels * j) := by
  rcases hch with hch | hch
  · simp only [refilled, hch, if_neg (by decide : ¬(1 = 2)), pcmReadSamples, periodBytes,
      inFrameSize]
    rw [fillPrefix_lt (by omega), Nat.one_mul]
  · simp only [refilled, hch, if_true, pcmReadSamples, periodBytes, inFrameSize]
    rw [discardRightChannel_apply _ hj, fillPrefix_lt (by omega)]

/-- A pull from a provider holding frames hands out a window over them and reads nothing. -/
theorem getNextBuffer_of_framesIn_pos {h : Pcm} (hpcm : inp.pcm = some h) (hf : inp.framesIn ≠ 0) :
    getNextBuffer inp i n rd =
      ⟨inp, providerWindow inp n, inp.readStatus, [], (providerWindow inp n).spans⟩ := by
  simp [getNextBuffer, hpcm, hf]

/-- A pull from an empty provider whose `pcm_read` succeeds refills the period and hands out a
window at its front. -/
theorem getNextBuffer_of_read {h : Pcm} (hpcm : inp.pcm = some h) (hf : inp.framesIn = 0)
    (hrd : rd.status = 0) :
    getNextBuffer inp i n rd =
      ⟨refilled inp rd, providerWindow (refilled inp rd) n, 0,
        [.pcmRead i true (periodBytes inp.pcmConfig)],
        ⟨0, periodBytes inp.pcmConfig⟩ :: (if inp.pcmConfig.channels = 2 then
          discardSpans inp.pcmConfig.periodSize else []) ++
          (providerWindow (refilled inp rd) n).spans⟩ := by
  simp [getNextBuffer, hpcm, hf, hrd]

/-- **A failing read hands out nothing.** The window is `NULL` with no frames, the status is the
read's, and the provider stays empty. -/
theorem getNextBuffer_of_read_fails {h : Pcm} (hpcm : inp.pcm = some h) (hf : inp.framesIn = 0)
    (hrd : rd.status ≠ 0) :
    (getNextBuffer inp i n rd).buf = ⟨none, 0⟩ ∧ (getNextBuffer inp i n rd).ret = rd.status ∧
      (getNextBuffer inp i n rd).ret ≠ 0 ∧ (getNextBuffer inp i n rd).stream.framesIn = 0 := by
  simp [getNextBuffer, hpcm, hf, hrd]

end Pull

/-! ## The protocol -/

/-- What happens to the provider: a pull of the resampler (`get_next_buffer` asked for `n`
frames, with what `pcm_read` does if it is called, then `release_buffer` of `m` frames), a
standby, or a restart under input routing `inDevice` whose `pcm_open` is `ready` or not. -/
inductive ProviderOp
  | pull (n : Nat) (rd : PcmRead) (m : Nat)
  | standby
  | start (inDevice : UInt32) (ready : Bool)

/-- The stream with two ghost lists: the first-channel samples of the periods read since the
last start, and the samples released since then. -/
structure Provider where
  stream : StreamIn
  read : List UInt16
  released : List UInt16

/-- The first channel of a period, as `pcm_read` stores it interleaved. -/
def firstChannel (cfg : PcmConfig) (d : Nat → UInt16) : List UInt16 :=
  (List.range cfg.periodSize).map fun j ↦ d (cfg.channels * j)

/-- The frames of the period not handed out yet. -/
def pending (inp : StreamIn) : List UInt16 :=
  (List.range inp.framesIn).map fun j ↦ inp.buffer (inp.pcmConfig.periodSize - inp.framesIn + j)

/-- The first `m` samples of a window. -/
def windowSamples (inp : StreamIn) (b : ProviderBuffer) (m : Nat) : List UInt16 :=
  match b.raw with
  | some off => (List.range m).map fun j ↦ inp.buffer (off + j)
  | none => []

namespace Provider

variable (i : Nat)

/-- One operation; a successful restart (which `in_read` follows with `standby = 0`) starts a
new history. -/
def step (p : Provider) : ProviderOp → Provider
  | .pull n rd m =>
    let g := getNextBuffer p.stream i n rd
    ⟨releaseBuffer g.stream m,
      p.read ++ (if p.stream.framesIn = 0 ∧ g.buf.raw.isSome then
        firstChannel p.stream.pcmConfig rd.data else []),
      p.released ++ windowSamples g.stream g.buf m⟩
  | .standby => { p with stream := p.stream.closed }
  | .start dev ready =>
    if ready then ⟨{ inputStarted dev p.stream true with standby := false }, [], []⟩
    else { p with stream := inputStarted dev p.stream false }

def run (p : Provider) (ops : List ProviderOp) : Provider := ops.foldl (step i) p

/-- What the callers promise: the resampler pulls only from a started stream (inside `in_read`),
every `pcm_read` succeeds, a release gives back at most the frames the get handed out, and
`in_read` starts only a stream in standby. -/
def OpOk (p : Provider) : ProviderOp → Prop
  | .pull n rd m => p.stream.standby = false ∧ rd.status = 0 ∧
      m ≤ (getNextBuffer p.stream i n rd).buf.frameCount
  | .standby => True
  | .start _ _ => p.stream.standby = true

def Valid : Provider → List ProviderOp → Prop
  | _, [] => True
  | p, op :: ops => OpOk i p op ∧ Valid (step i p op) ops

instance decOpOk : (p : Provider) → (op : ProviderOp) → Decidable (OpOk i p op)
  | _, .pull .. => inferInstanceAs (Decidable (_ ∧ _ ∧ _))
  | _, .standby => inferInstanceAs (Decidable True)
  | _, .start .. => inferInstanceAs (Decidable (_ = _))

instance decValid : (p : Provider) → (ops : List ProviderOp) → Decidable (Valid i p ops)
  | _, [] => isTrue trivial
  | p, op :: ops =>
    match decOpOk i p op, decValid (step i p op) ops with
    | isTrue h₁, isTrue h₂ => isTrue ⟨h₁, h₂⟩
    | isFalse h₁, _ => isFalse fun h ↦ h₁ h.1
    | _, isFalse h₂ => isFalse fun h ↦ h₂ h.2

/-- The provider of a stream out of standby. -/
structure Active (p : Provider) : Prop where
  pcm : p.stream.pcm.isSome
  config : p.stream.pcmConfig = pcmConfigIn ∨ p.stream.pcmConfig = pcmConfigSco
  framesIn_le : p.stream.framesIn ≤ p.stream.pcmConfig.periodSize
  status : p.stream.readStatus = 0 ∨ p.stream.framesIn = 0
  /-- Released, then pending: exactly what was read. -/
  history : p.released ++ pending p.stream = p.read

/-- The invariant of the protocol. -/
def Inv (p : Provider) : Prop := p.stream.resampler.isSome ∧ (p.stream.standby = false → p.Active)

end Provider

/-- What a pull from a started provider hands out: status `0`, a nonempty provider, and the
window over its first `min n frames_in` frames. -/
def PullSpec (g : Pull) (n : Nat) : Prop :=
  g.ret = 0 ∧ 0 < g.stream.framesIn ∧ g.stream.framesIn ≤ g.stream.pcmConfig.periodSize ∧
    g.buf = ⟨some (g.stream.pcmConfig.periodSize - g.stream.framesIn), min n g.stream.framesIn⟩

/-! ### Step and run -/

section Release

variable (inp : StreamIn) (m : Nat)

@[simp] theorem releaseBuffer_framesIn : (releaseBuffer inp m).framesIn = sizeSub inp.framesIn m :=
  rfl
@[simp] theorem releaseBuffer_pcm : (releaseBuffer inp m).pcm = inp.pcm := rfl
@[simp] theorem releaseBuffer_pcmConfig : (releaseBuffer inp m).pcmConfig = inp.pcmConfig := rfl
@[simp] theorem releaseBuffer_standby : (releaseBuffer inp m).standby = inp.standby := rfl
@[simp] theorem releaseBuffer_resampler : (releaseBuffer inp m).resampler = inp.resampler := rfl
@[simp] theorem releaseBuffer_readStatus : (releaseBuffer inp m).readStatus = inp.readStatus := rfl
@[simp] theorem releaseBuffer_buffer : (releaseBuffer inp m).buffer = inp.buffer := rfl

end Release

theorem StreamIn.closed_standby (inp : StreamIn) : inp.closed.standby = true := by
  unfold StreamIn.closed; split <;> simp_all

theorem StreamIn.closed_resampler (inp : StreamIn) : inp.closed.resampler = inp.resampler := by
  unfold StreamIn.closed; split <;> rfl

/-- The two capture geometries: a positive period of one or two channels. -/
theorem capture_config_facts {cfg : PcmConfig} (h : cfg = pcmConfigIn ∨ cfg = pcmConfigSco) :
    0 < cfg.periodSize ∧ cfg.periodSize < sizeMax ∧ (cfg.channels = 1 ∨ cfg.channels = 2) := by
  rcases h with rfl | rfl <;> decide

/-- Handing out `m` of the `f` pending frames, which start at `p - f`, leaves the last `f - m`. -/
theorem map_range_split (g : Nat → UInt16) {p f m : Nat} (hm : m ≤ f) (hf : f ≤ p) :
    (List.range m).map (fun j ↦ g (p - f + j)) ++
        (List.range (f - m)).map (fun j ↦ g (p - (f - m) + j)) =
      (List.range f).map (fun j ↦ g (p - f + j)) := by
  have hsplit : List.range f = List.range m ++ (List.range (f - m)).map (m + ·) := by
    rw [← List.range_add, Nat.add_sub_cancel' hm]
  rw [hsplit, List.map_append, List.map_map]
  congr 1
  refine List.map_congr_left fun j hj ↦ ?_
  have : j < f - m := List.mem_range.mp hj
  simp only [Function.comp_apply]
  congr 1
  omega

/-- Releasing `m` frames of a window at the front of the pending frames moves them, in order,
from pending to released. -/
theorem windowSamples_append_pending (inp : StreamIn) (n : Nat) {m : Nat}
    (hm : m ≤ inp.framesIn) (hle : inp.framesIn ≤ inp.pcmConfig.periodSize)
    (hlt : inp.framesIn < sizeMax) :
    windowSamples inp (providerWindow inp n) m ++ pending (releaseBuffer inp m) = pending inp := by
  simp only [windowSamples, providerWindow, pending, releaseBuffer_framesIn,
    sizeSub_of_le hm hlt, releaseBuffer_pcmConfig, releaseBuffer_buffer]
  exact map_range_split _ hm hle

namespace Provider

variable {i : Nat}

theorem inv_start {p : Provider} {dev : UInt32} {ready : Bool} (hp : p.Inv)
    (hop : OpOk i p (.start dev ready)) : (step i p (.start dev ready)).Inv := by
  obtain ⟨hres, -⟩ := hp
  cases ready with
  | false =>
    have hsb : p.stream.standby = true := hop
    refine ⟨by simpa [step] using hres, fun h ↦ ?_⟩
    simp [step, hsb] at h
  | true =>
    refine ⟨by simpa [step] using hres, fun _ ↦ ⟨by simp [step], ?_, ?_, ?_, ?_⟩⟩
    · simp only [step, if_true, inputStarted_pcmConfig]; split_ifs <;> simp
    · simp [step, hres]
    · exact .inr (by simp [step, hres])
    · simp [step, pending, hres]

theorem inv_pull {p : Provider} {n m : Nat} {rd : PcmRead} (hp : p.Inv)
    (hop : OpOk i p (.pull n rd m)) : (step i p (.pull n rd m)).Inv := by
  obtain ⟨hres, hact⟩ := hp
  obtain ⟨hsb, hrd, hm⟩ := hop
  obtain ⟨hpcm, hcfg, hle, hstat, hhist⟩ := hact hsb
  obtain ⟨h, hh⟩ := Option.isSome_iff_exists.mp hpcm
  obtain ⟨-, hmax, hch⟩ := capture_config_facts hcfg
  by_cases hf : p.stream.framesIn = 0
  · -- an empty provider: one period is read and a window opens at its front
    have hg : getNextBuffer p.stream i n rd = _ := getNextBuffer_of_read hh hf hrd
    rw [hg] at hm
    have hm' : m ≤ p.stream.pcmConfig.periodSize := le_trans hm (min_le_right _ _)
    have hfresh : pending (refilled p.stream rd) = firstChannel p.stream.pcmConfig rd.data := by
      simp only [pending, firstChannel, refilled_framesIn, refilled_pcmConfig, Nat.sub_self,
        Nat.zero_add]
      exact List.map_congr_left fun j hj ↦ refilled_buffer hch (List.mem_range.mp hj)
    have hold : p.released = p.read := by simpa [pending, hf] using hhist
    have hwin := windowSamples_append_pending (refilled p.stream rd) n
      (by simpa using hm') (by simp) (by simpa using hmax)
    refine ⟨by simpa [step, hg] using hres, fun _ ↦ ⟨by simp [step, hg, hh], by simp [step, hg, hcfg],
      by simp [step, hg, sizeSub_of_le hm' hmax], .inl (by simp [step, hg, hrd]), ?_⟩⟩
    simp only [step, hg, hf, providerWindow, Option.isSome_some, and_self, if_true,
      List.append_assoc]
    rw [← providerWindow, hwin, hfresh, hold]
  · -- frames left: a window over them, no read
    have hg : getNextBuffer p.stream i n rd = _ := getNextBuffer_of_framesIn_pos hh hf
    rw [hg] at hm
    have hm' : m ≤ p.stream.framesIn := le_trans hm (min_le_right _ _)
    have hlt : p.stream.framesIn < sizeMax := by omega
    refine ⟨by simpa [step, hg] using hres, fun _ ↦ ⟨by simp [step, hg, hh], by simp [step, hg, hcfg],
      by simp [step, hg, sizeSub_of_le hm' hlt]; omega,
      .inl (by simpa [step, hg, hf] using hstat), ?_⟩⟩
    simp only [step, hg, hf, false_and, if_false, List.append_nil, List.append_assoc]
    rw [windowSamples_append_pending _ _ hm' hle hlt, hhist]

theorem inv_step {p : Provider} {op : ProviderOp} (hp : p.Inv) (hop : OpOk i p op) :
    (step i p op).Inv := by
  cases op with
  | pull n rd m => exact inv_pull hp hop
  | standby =>
    refine ⟨by simpa [step, StreamIn.closed_resampler] using hp.1, fun h ↦ ?_⟩
    simp [step, StreamIn.closed_standby] at h
  | start dev ready => exact inv_start hp hop

/-- **The protocol invariant holds after every valid run.** -/
theorem inv_run {p : Provider} {ops : List ProviderOp} (hp : p.Inv) (hv : Valid i p ops) :
    (run i p ops).Inv := by
  induction ops generalizing p with
  | nil => exact hp
  | cons op ops ih => exact ih (inv_step hp hv.1) hv.2

/-- Every pull from a started provider whose read (if any) succeeds meets `PullSpec`. -/
theorem pullSpec_of_active {p : Provider} (a : p.Active) (n : Nat) {rd : PcmRead}
    (hrd : rd.status = 0) : PullSpec (getNextBuffer p.stream i n rd) n := by
  obtain ⟨h, hh⟩ := Option.isSome_iff_exists.mp a.pcm
  obtain ⟨hpos, -, -⟩ := capture_config_facts a.config
  by_cases hf : p.stream.framesIn = 0
  · rw [getNextBuffer_of_read hh hf hrd]
    exact ⟨rfl, by simpa using hpos, by simp, rfl⟩
  · rw [getNextBuffer_of_framesIn_pos hh hf]
    exact ⟨a.status.resolve_right hf, Nat.pos_of_ne_zero hf, a.framesIn_le, rfl⟩

end Provider

/-! ## The pull protocol, end to end -/

/-- What the protocol promises of the provider a run reaches: while the stream is out of
standby, `frames_in` stays within the period, every sample read has been released or is pending,
in order, and the next pull meets `PullSpec`; a failing read hands out nothing. -/
def PullProtocol (i : Nat) (p : Provider) : Prop :=
  (p.stream.standby = false →
    p.stream.framesIn ≤ p.stream.pcmConfig.periodSize ∧ p.released ++ pending p.stream = p.read ∧
      ∀ n rd, rd.status = 0 → PullSpec (getNextBuffer p.stream i n rd) n) ∧
  ∀ n rd h, p.stream.pcm = some h → p.stream.framesIn = 0 → rd.status ≠ 0 →
    (getNextBuffer p.stream i n rd).buf = ⟨none, 0⟩ ∧ (getNextBuffer p.stream i n rd).ret ≠ 0 ∧
      (getNextBuffer p.stream i n rd).stream.framesIn = 0

/-- **The pull protocol.** From a stream with a resampler, in standby, every run of pulls,
standbys and restarts that keeps the callers' promises reaches a provider meeting
`PullProtocol`. -/
theorem provider_pull_protocol (i : Nat) {inp : StreamIn} (hres : inp.resampler.isSome)
    (hsb : inp.standby = true) {ops : List ProviderOp} (hv : Provider.Valid i ⟨inp, [], []⟩ ops) :
    PullProtocol i (Provider.run i ⟨inp, [], []⟩ ops) := by
  obtain ⟨-, hact⟩ := Provider.inv_run ⟨hres, fun h ↦ by simp [hsb] at h⟩ hv
  refine ⟨fun hsb' ↦ ?_, fun n rd h hh hf hrd ↦ ?_⟩
  · have a := hact hsb'
    exact ⟨a.framesIn_le, a.history, fun n rd hrd ↦ Provider.pullSpec_of_active a n hrd⟩
  · obtain ⟨hb, -, hret, hfi⟩ := @getNextBuffer_of_read_fails _ i n _ _ hh hf hrd
    exact ⟨hb, hret, hfi⟩

/-- A capture stream opened for a 48 kHz client: in standby at the default capture geometry,
with its 44.1 → 48 kHz resampler and an empty provider. -/
def capture48k : StreamIn where
  pcm := none
  pcmConfig := pcmConfigIn
  standby := true
  requestedRate := 48000
  resampler := some ⟨outSamplingRate, 48000, 1⟩
  buffer := fun _ ↦ 0
  bufferBytes := 3840
  framesIn := 0
  readStatus := 0

/-- A read that succeeds and stores the sample index. -/
def rampRead : PcmRead := ⟨0, fun j ↦ j.toUInt16⟩

/-- Start on the built-in mic, pull across a period boundary, go to standby, and fail a restart
on the SCO headset. -/
def failedRestartRun : List ProviderOp :=
  [.start (audioDeviceInBuiltinMic &&& ~~~audioDeviceBitIn) true, .pull 460 rampRead 460,
    .standby, .start audioDeviceInAllSco false]

theorem capture48k_pull_protocol :
    PullProtocol 0 (Provider.run 0 ⟨capture48k, [], []⟩
      [.start (audioDeviceInBuiltinMic &&& ~~~audioDeviceBitIn) true, .pull 100 rampRead 100,
        .pull 900 rampRead 860, .pull 10 rampRead 10]) :=
  @provider_pull_protocol 0 capture48k rfl rfl _ (by decide)

/-- The failed restart has set the 256-frame SCO period while 500 frames of the old 960-frame
period are still counted in `frames_in`. -/
theorem frames_in_exceeds_period_after_failed_restart :
    Provider.Valid 0 ⟨capture48k, [], []⟩ failedRestartRun ∧
      (Provider.run 0 ⟨capture48k, [], []⟩ failedRestartRun).stream.pcmConfig.periodSize <
        (Provider.run 0 ⟨capture48k, [], []⟩ failedRestartRun).stream.framesIn := by
  decide

end Omap4AudioHal
