import Mathlib.Data.Nat.Defs
import Mathlib.Algebra.Group.Nat.Basic

/-!
# Constants and PCM geometries

The fixed numbers of `audio_hw.c`: the period geometry of the ABE (a multiple of its base frame
count of 24), the five `pcm_config`s a stream can be opened with, the device and flag masks of the
Android audio headers that the HAL tests, and the rate-group test that `start_output_stream` and
`start_input_stream` share.

## Rate groups

The OMAP4 clock can serve either the 11025-multiples (11.025, 22.05, 44.1 kHz) or the
8000-multiples (8, 16, 32, 48 kHz) at one time. The HAL never asks the hardware which group is in
use; each start compares its own rate against the rate of the other direction's open stream with
`rateGroupsClash`, and puts that stream into standby on a clash. The test is one-sided, so the
claim-level notion `sameRateFamily` is its symmetric closure (`sameRateFamily_iff_not_clash`).

## Widths

Device masks are `unsigned int` in the source and are `UInt32` here, so the unsigned subtractions
of `AUDIO_DEVICE_BIT_IN` wrap exactly as they do on the 32-bit target. Frame counts and rates are
small and are `Nat`.
-/

namespace Omap4AudioHal

/-! ## Cards, devices and the period geometry -/

def pcmCard : Nat := 0
def pcmCardHdmi : Nat := 1
def pcmCardDefault : Nat := pcmCard

/-- MultiMedia1 low power. -/
def pcmDeviceMmLp : Nat := 0
def pcmDeviceMm : Nat := 1
def pcmDeviceMmUl : Nat := 3
def pcmDeviceScoIn : Nat := 5
def pcmDeviceDefaultOut : Nat := pcmDeviceMm
def pcmDeviceDefaultIn : Nat := pcmDeviceMmUl

def abeBaseFrameCount : Nat := 24
/-- 20 ms. -/
def shortPeriodMultiplier : Nat := 40
def shortPeriodSize : Nat := abeBaseFrameCount * shortPeriodMultiplier
/-- 40 ms. -/
def longPeriodMultiplier : Nat := 2
def longPeriodSize : Nat := shortPeriodSize * longPeriodMultiplier

def playbackPeriodCount : Nat := 4
def capturePeriodCount : Nat := 2

def outSamplingRate : Nat := 44100
def mmFullPowerSamplingRate : Nat := 48000

def scoPeriodSize : Nat := 256
def scoPeriodCount : Nat := 4
def scoSamplingRate : Nat := 8000

/-- Minimum sleep of `out_write` when the write threshold is not reached. -/
def minWriteSleepUs : Nat := 5000

def resamplerBufferFrames : Nat := shortPeriodSize * 2
def resamplerBufferSize : Nat := 4 * resamplerBufferFrames

/-! ## PCM configurations -/

/-- The part of tinyalsa's `struct pcm_config` the HAL reads or writes. The format is always
`PCM_FORMAT_S16_LE` and `stop_threshold` is only logged, so neither is kept. -/
structure PcmConfig where
  channels : Nat
  rate : Nat
  periodSize : Nat
  periodCount : Nat
  startThreshold : Nat := 0
  availMin : Nat := 0
  deriving DecidableEq, Repr

def pcmConfigOut : PcmConfig :=
  { channels := 2, rate := outSamplingRate, periodSize := shortPeriodSize,
    periodCount := playbackPeriodCount }

def pcmConfigOutLp : PcmConfig :=
  { channels := 2, rate := outSamplingRate, periodSize := longPeriodSize,
    periodCount := playbackPeriodCount }

def pcmConfigIn : PcmConfig :=
  { channels := 2, rate := outSamplingRate, periodSize := shortPeriodSize,
    periodCount := capturePeriodCount }

def pcmConfigSco : PcmConfig :=
  { channels := 1, rate := scoSamplingRate, periodSize := scoPeriodSize,
    periodCount := scoPeriodCount }

def pcmConfigHdmi : PcmConfig :=
  { channels := 2, rate := 48000, periodSize := longPeriodSize,
    periodCount := playbackPeriodCount, startThreshold := longPeriodSize * 2 }

/-! ## Masks of the Android audio headers

The values are those of `system/audio.h` (the `dev_names` table of the source repeats the device
values in its comments). -/

def audioDeviceBitIn : UInt32 := 0x80000000
def audioDeviceOutEarpiece : UInt32 := 0x1
def audioDeviceOutSpeaker : UInt32 := 0x2
def audioDeviceOutWiredHeadset : UInt32 := 0x4
def audioDeviceOutWiredHeadphone : UInt32 := 0x8
/-- `AUDIO_DEVICE_OUT_BLUETOOTH_SCO`. -/
def audioDeviceOutBluetoothSco : UInt32 := 0x10
def audioDeviceOutAuxDigital : UInt32 := 0x400
def audioDeviceOutAnlgDockHeadset : UInt32 := 0x800
def audioDeviceOutDgtlDockHeadset : UInt32 := 0x1000
/-- The three Bluetooth SCO outputs (plain, headset, car kit). -/
def audioDeviceOutAllSco : UInt32 := 0x70
def audioDeviceOutAll : UInt32 := 0x4000FFFF

def audioDeviceInCommunication : UInt32 := 0x80000001
def audioDeviceInAmbient : UInt32 := 0x80000002
def audioDeviceInBuiltinMic : UInt32 := 0x80000004
/-- `AUDIO_DEVICE_IN_BLUETOOTH_SCO_HEADSET`, the only member of `AUDIO_DEVICE_IN_ALL_SCO`. -/
def audioDeviceInAllSco : UInt32 := 0x80000008
def audioDeviceInWiredHeadset : UInt32 := 0x80000010
def audioDeviceInAuxDigital : UInt32 := 0x80000020
def audioDeviceInBackMic : UInt32 := 0x80000080
def audioDeviceInAll : UInt32 := 0xC00001FF

def audioOutputFlagDeepBuffer : UInt32 := 0x8
def audioChannelInMono : UInt32 := 0x10

/-- `audio_stream_frame_size` of an output stream: stereo, 16-bit. -/
def outFrameSize : Nat := 4
/-- `audio_stream_frame_size` of an input stream: mono, 16-bit. -/
def inFrameSize : Nat := 2

/-- `popcount(out_get_channels(...))`: the client side of every output is stereo. -/
def outClientChannels : Nat := 2

/-- `size_t` and `unsigned int` are 32 bits wide on the target. -/
def sizeMax : Nat := 2 ^ 32

/-- `a - b` in `size_t`. -/
def sizeSub (a b : Nat) : Nat := (a + sizeMax - b % sizeMax) % sizeMax

theorem sizeSub_of_le {a b : Nat} (hb : b ≤ a) (ha : a < sizeMax) : sizeSub a b = a - b := by
  have hb' : b % sizeMax = b := Nat.mod_eq_of_lt (by omega)
  rw [sizeSub, hb', show a + sizeMax - b = (a - b) + sizeMax by omega, Nat.add_mod_right,
    Nat.mod_eq_of_lt (by omega)]

/-! ## Rate groups -/

/-- The test of `start_output_stream` (and, with the roles swapped, of `start_input_stream`):
opening at `rate` forces the other direction's stream, open at `other`, into standby. -/
def rateGroupsClash (rate other : Nat) : Bool :=
  (rate % 8000 == 0 && other % 8000 != 0) || (rate % 11025 == 0 && other % 11025 != 0)

/-- Two rates the hardware clock can serve at once. -/
def sameRateFamily (a b : Nat) : Prop :=
  (a % 8000 = 0 ↔ b % 8000 = 0) ∧ (a % 11025 = 0 ↔ b % 11025 = 0)

instance (a b : Nat) : Decidable (sameRateFamily a b) :=
  inferInstanceAs (Decidable ((_ ↔ _) ∧ (_ ↔ _)))

theorem rateGroupsClash_eq_false_iff (rate other : Nat) :
    rateGroupsClash rate other = false ↔
      (rate % 8000 = 0 → other % 8000 = 0) ∧ (rate % 11025 = 0 → other % 11025 = 0) := by
  simp [rateGroupsClash]

/-- Neither start would force the other: the two rates are of one family. -/
theorem sameRateFamily_iff_not_clash (a b : Nat) :
    sameRateFamily a b ↔ rateGroupsClash a b = false ∧ rateGroupsClash b a = false := by
  rw [rateGroupsClash_eq_false_iff, rateGroupsClash_eq_false_iff, sameRateFamily]
  exact ⟨fun ⟨h8, h11⟩ ↦ ⟨⟨h8.1, h11.1⟩, h8.2, h11.2⟩,
    fun ⟨⟨a8, a11⟩, b8, b11⟩ ↦ ⟨⟨a8, b8⟩, a11, b11⟩⟩

theorem sameRateFamily_comm {a b : Nat} (h : sameRateFamily a b) : sameRateFamily b a :=
  ⟨h.1.symm, h.2.symm⟩

end Omap4AudioHal
