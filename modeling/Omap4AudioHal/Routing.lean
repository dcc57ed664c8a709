import Omap4AudioHal.Config

/-!
# The routing table

`select_devices` walks the whole of `dev_names` and applies the mixer path of every entry whose
device bits are set in the current devices: an output entry is compared with `out_device`
directly, an input entry with `in_device` after both sides have had `AUDIO_DEVICE_BIT_IN`
subtracted. The walk has no early exit, so two entries naming one path apply it twice, which the
mixer treats as once.

The mixer itself (`audio_route`) is a collaborator. What the HAL decides is the ordered list of
paths it applies between `reset_mixer_state` and `update_mixer_state`, and that list is what
`selectDevices` returns; the device state keeps it as the applied route.

`adev_get_supported_devices` walks the table the other way: for each path of the mixer
configuration it takes the mask of the first entry of that name and stops looking. The table
lists `"headphone"` twice, with one mask, so the early exit loses nothing
(`adevGetSupportedDevices_eq_union`).
-/

namespace Omap4AudioHal

/-- An entry of `dev_names`. The mask is an `int` in the source; only its bit pattern is read. -/
structure DevName where
  mask : UInt32
  outputFlag : Bool
  name : String
  deriving DecidableEq, Repr

/-- `dev_names`, in table order (the headphone entry is listed twice, as in the source). -/
def devNames : List DevName :=
  [ ⟨audioDeviceOutEarpiece, true, "earpiece"⟩,
    ⟨audioDeviceOutSpeaker, true, "speaker"⟩,
    ⟨audioDeviceOutWiredHeadset ||| audioDeviceOutWiredHeadphone, true, "headphone"⟩,
    ⟨audioDeviceOutWiredHeadset ||| audioDeviceOutWiredHeadphone, true, "headphone"⟩,
    ⟨audioDeviceOutAuxDigital, true, "aux-digital-out"⟩,
    ⟨audioDeviceOutAnlgDockHeadset, true, "analog-dock"⟩,
    ⟨audioDeviceOutDgtlDockHeadset, true, "digital-dock"⟩,
    ⟨audioDeviceInCommunication, false, "comms"⟩,
    ⟨audioDeviceInAmbient, false, "ambient"⟩,
    ⟨audioDeviceInBuiltinMic, false, "builtin-mic"⟩,
    ⟨audioDeviceInWiredHeadset, false, "headset"⟩,
    ⟨audioDeviceInAuxDigital, false, "aux-digital-in"⟩,
    ⟨audioDeviceInBackMic, false, "back-mic"⟩ ]

/-- The input-device test of the source, `(in_device - AUDIO_DEVICE_BIT_IN) & (mask -
AUDIO_DEVICE_BIT_IN)`, in unsigned 32-bit arithmetic. `select_devices` and `start_input_stream`
both use it. -/
def inDeviceHas (inDevice mask : UInt32) : Bool :=
  (inDevice - audioDeviceBitIn) &&& (mask - audioDeviceBitIn) != 0

/-- Whether an entry of `dev_names` is selected by the current devices. -/
def DevName.selected (d : DevName) (outDevice inDevice : UInt32) : Bool :=
  if d.outputFlag then outDevice &&& d.mask != 0 else inDeviceHas inDevice d.mask

/-- `select_devices`: the mixer paths applied after `reset_mixer_state`, in table order; one
`update_mixer_state` commits them. -/
def selectDevices (outDevice inDevice : UInt32) : List String :=
  (devNames.filter (·.selected outDevice inDevice)).map (·.name)

/-! ## The input test clears the direction bit

`AUDIO_DEVICE_BIT_IN` is bit 31, so subtracting it modulo `2 ^ 32` flips that bit and leaves the
others alone. Every input entry of `dev_names` carries the bit, so after the subtraction its
mask has bit 31 clear, and the test reads `in_device` on bits 0 to 30 only: whether `in_device`
itself carries the direction bit does not matter.
-/

/-- Subtracting `AUDIO_DEVICE_BIT_IN` in 32-bit arithmetic flips bit 31. -/
theorem sub_bitIn_eq_xor (x : UInt32) : x - audioDeviceBitIn = x ^^^ audioDeviceBitIn := by
  apply UInt32.eq_of_toBitVec_eq
  apply BitVec.eq_of_toNat_eq
  have hx := x.toBitVec.isLt
  show (2 ^ 31 + x.toBitVec.toNat) % 2 ^ 32 = x.toBitVec.toNat ^^^ 2 ^ 31
  apply Nat.eq_of_testBit_eq
  intro k
  rw [Nat.testBit_mod_two_pow, Nat.testBit_xor, Nat.testBit_two_pow]
  rcases Nat.lt_trichotomy k 31 with hk | rfl | hk
  · rw [Nat.testBit_two_pow_add_gt hk]
    simp [show k < 32 by omega, show 31 ≠ k by omega]
  · rw [Nat.testBit_two_pow_add_eq]
    simp
  · have : x.toBitVec.toNat.testBit k = false :=
      Nat.testBit_lt_two_pow (lt_of_lt_of_le hx (Nat.pow_le_pow_right Nat.two_pos hk))
    simp [this, show ¬k < 32 by omega, show 31 ≠ k by omega]

theorem getLsbD_two_pow {j : Nat} (hj : j < 32) (k : Nat) :
    (BitVec.ofNat 32 (2 ^ j)).getLsbD k = decide (k = j) := by
  rw [BitVec.getLsbD_ofNat, Nat.testBit_two_pow]
  by_cases hk : k = j
  · subst hk; simp [hj]
  · simp [hk, Ne.symm hk]

theorem bitIn_getLsbD (k : Nat) : audioDeviceBitIn.toBitVec.getLsbD k = decide (k = 31) :=
  getLsbD_two_pow (j := 31) (by decide) k

/-- Masking with `AUDIO_DEVICE_BIT_IN` keeps bit 31. -/
theorem and_bitIn_getLsbD (x : UInt32) :
    (x &&& audioDeviceBitIn).toBitVec.getLsbD 31 = x.toBitVec.getLsbD 31 := by
  show (x.toBitVec &&& audioDeviceBitIn.toBitVec).getLsbD 31 = _
  simp [bitIn_getLsbD]

theorem getLsbD_of_and_bitIn {x : UInt32} (hx : x &&& audioDeviceBitIn = 0) :
    x.toBitVec.getLsbD 31 = false := by
  rw [← and_bitIn_getLsbD, hx]; rfl

theorem getLsbD_of_and_bitIn_eq {x : UInt32} (hx : x &&& audioDeviceBitIn = audioDeviceBitIn) :
    x.toBitVec.getLsbD 31 = true := by
  rw [← and_bitIn_getLsbD, hx]; rfl

theorem ne_zero_of_getLsbD {x : UInt32} {k : Nat} (h : x.toBitVec.getLsbD k = true) : x ≠ 0 := by
  rintro rfl
  exact absurd h (by simp [UInt32.toBitVec_ofNat])

/-- With bit 31 flipped on both sides, the conjunction with a mask that carries the bit is the
conjunction with the bit cleared. -/
theorem xor_and_xor_bitIn (i m : UInt32) (hm : m &&& audioDeviceBitIn = audioDeviceBitIn) :
    (i ^^^ audioDeviceBitIn) &&& (m ^^^ audioDeviceBitIn) = i &&& m &&& ~~~audioDeviceBitIn := by
  have hm31 := getLsbD_of_and_bitIn_eq hm
  apply UInt32.eq_of_toBitVec_eq
  apply BitVec.eq_of_getLsbD_eq
  intro k
  show ((i.toBitVec ^^^ audioDeviceBitIn.toBitVec) &&&
      (m.toBitVec ^^^ audioDeviceBitIn.toBitVec)).getLsbD k =
    (i.toBitVec &&& m.toBitVec &&& ~~~audioDeviceBitIn.toBitVec).getLsbD k
  simp only [BitVec.getLsbD_and, BitVec.getLsbD_xor, BitVec.getLsbD_not, bitIn_getLsbD]
  by_cases hk : (k : Nat) = 31
  · simp [hk, hm31]
  · simp [hk]

theorem xor_bitIn_and_not (i m : UInt32) :
    (i ^^^ audioDeviceBitIn) &&& m &&& ~~~audioDeviceBitIn = i &&& m &&& ~~~audioDeviceBitIn := by
  apply UInt32.eq_of_toBitVec_eq
  apply BitVec.eq_of_getLsbD_eq
  intro k
  show ((i.toBitVec ^^^ audioDeviceBitIn.toBitVec) &&& m.toBitVec &&&
      ~~~audioDeviceBitIn.toBitVec).getLsbD k =
    (i.toBitVec &&& m.toBitVec &&& ~~~audioDeviceBitIn.toBitVec).getLsbD k
  simp only [BitVec.getLsbD_and, BitVec.getLsbD_xor, BitVec.getLsbD_not, bitIn_getLsbD]
  by_cases hk : (k : Nat) = 31 <;> simp [hk]

/-- For a mask that carries `AUDIO_DEVICE_BIT_IN`, the source's test is
`in_device & mask & ~AUDIO_DEVICE_BIT_IN`. -/
theorem inDeviceHas_eq_masked (i m : UInt32) (hm : m &&& audioDeviceBitIn = audioDeviceBitIn) :
    inDeviceHas i m = (i &&& m &&& ~~~audioDeviceBitIn != 0) := by
  rw [inDeviceHas, sub_bitIn_eq_xor, sub_bitIn_eq_xor, xor_and_xor_bitIn i m hm]

theorem devNames_input_has_bitIn :
    ∀ d ∈ devNames, d.outputFlag = false → d.mask &&& audioDeviceBitIn = audioDeviceBitIn := by
  decide

theorem selected_eq_masked (o i : UInt32) {d : DevName} (hd : d ∈ devNames) :
    d.selected o i =
      if d.outputFlag then o &&& d.mask != 0 else i &&& d.mask &&& ~~~audioDeviceBitIn != 0 := by
  unfold DevName.selected
  cases hf : d.outputFlag
  · simp only [if_false, Bool.false_eq_true]
    exact inDeviceHas_eq_masked i d.mask (devNames_input_has_bitIn d hd hf)
  · rfl

/-- **What `select_devices` applies.** For every pair of 32-bit device masks, the paths are those
of the output entries met by `out_device` and of the input entries met by `in_device` with the
direction bit cleared, in table order; hence `in_device` and `in_device ^ AUDIO_DEVICE_BIT_IN`
route alike. -/
theorem selectDevices_clears_bitIn (o i : UInt32) :
    selectDevices o i = (devNames.filter fun d ↦ if d.outputFlag then o &&& d.mask != 0
        else i &&& d.mask &&& ~~~audioDeviceBitIn != 0).map (·.name) ∧
      selectDevices o (i ^^^ audioDeviceBitIn) = selectDevices o i := by
  have h : ∀ i, selectDevices o i = (devNames.filter fun d ↦
      if d.outputFlag then o &&& d.mask != 0
      else i &&& d.mask &&& ~~~audioDeviceBitIn != 0).map (·.name) := fun i ↦
    congrArg (List.map _) (List.filter_congr fun _ hd ↦ selected_eq_masked o i hd)
  refine ⟨h i, ?_⟩
  simp only [h, xor_bitIn_and_not]

/-! ## The SCO test of `in_set_parameters` -/

theorem inAllSco_getLsbD (k : Nat) :
    audioDeviceInAllSco.toBitVec.getLsbD k = (decide (k = 31) || decide (k = 3)) := by
  have h : audioDeviceInAllSco.toBitVec = audioDeviceBitIn.toBitVec ||| BitVec.ofNat 32 (2 ^ 3) := by
    decide
  rw [h, BitVec.getLsbD_or, bitIn_getLsbD, getLsbD_two_pow (by decide)]

/-- A mask without the direction bit is unchanged by clearing it. -/
theorem and_not_bitIn {x : UInt32} (hx : x &&& audioDeviceBitIn = 0) :
    x &&& ~~~audioDeviceBitIn = x := by
  have h31 := getLsbD_of_and_bitIn hx
  apply UInt32.eq_of_toBitVec_eq
  apply BitVec.eq_of_getLsbD_eq
  intro k
  show (x.toBitVec &&& ~~~audioDeviceBitIn.toBitVec).getLsbD k = _
  rw [BitVec.getLsbD_and, BitVec.getLsbD_not, bitIn_getLsbD]
  by_cases hk : (k : Nat) = 31
  · rw [hk, h31]; rfl
  · simp [hk]

/-- The SCO bits of a mask, the direction bit ignored, are bit 3 alone. -/
theorem and_inAllSco_not (x : UInt32) :
    x &&& audioDeviceInAllSco &&& ~~~audioDeviceBitIn = if x.toBitVec.getLsbD 3 then 8 else 0 := by
  apply UInt32.eq_of_toBitVec_eq
  apply BitVec.eq_of_getLsbD_eq
  intro k
  have hx : (x &&& audioDeviceInAllSco &&& ~~~audioDeviceBitIn).toBitVec.getLsbD k =
      (x.toBitVec.getLsbD k && decide ((k : Nat) = 3)) := by
    show (x.toBitVec &&& audioDeviceInAllSco.toBitVec &&& ~~~audioDeviceBitIn.toBitVec).getLsbD k = _
    rw [BitVec.getLsbD_and, BitVec.getLsbD_and, BitVec.getLsbD_not, inAllSco_getLsbD,
      bitIn_getLsbD]
    by_cases hk : (k : Nat) = 3 <;> simp [hk, k.isLt]
  rw [hx]
  split
  · rw [show (8 : UInt32).toBitVec = BitVec.ofNat 32 (2 ^ 3) from rfl, getLsbD_two_pow (by decide)]
    by_cases hk : (k : Nat) = 3 <;> simp_all
  · by_cases hk : (k : Nat) = 3 <;> simp_all

theorem and_and_bitIn {x : UInt32} (hx : x &&& audioDeviceBitIn = 0) (m : UInt32) :
    x &&& m &&& audioDeviceBitIn = 0 := by
  have h : x.toBitVec &&& audioDeviceBitIn.toBitVec = 0#32 := congrArg UInt32.toBitVec hx
  apply UInt32.eq_of_toBitVec_eq
  show x.toBitVec &&& m.toBitVec &&& audioDeviceBitIn.toBitVec = 0#32
  rw [BitVec.and_assoc, BitVec.and_comm m.toBitVec, ← BitVec.and_assoc, h, BitVec.zero_and]

theorem and_inAllSco {x : UInt32} (hx : x &&& audioDeviceBitIn = 0) :
    x &&& audioDeviceInAllSco = if x.toBitVec.getLsbD 3 then 8 else 0 :=
  (and_not_bitIn (and_and_bitIn hx _)).symm.trans (and_inAllSco_not x)

/-- What `in_set_parameters` does to the new mask: the direction bit is gone, and the SCO input
device is in the set as before. -/
theorem clear_bitIn (v : UInt32) :
    v &&& ~~~audioDeviceBitIn &&& audioDeviceBitIn = 0 ∧
      v &&& ~~~audioDeviceBitIn &&& audioDeviceInAllSco &&& ~~~audioDeviceBitIn =
        v &&& audioDeviceInAllSco &&& ~~~audioDeviceBitIn := by
  have hb : ∀ k, (v &&& ~~~audioDeviceBitIn).toBitVec.getLsbD k =
      (v.toBitVec.getLsbD k && (decide (k < 32) && !decide (k = 31))) := fun k ↦ by
    show (v.toBitVec &&& ~~~audioDeviceBitIn.toBitVec).getLsbD k = _
    rw [BitVec.getLsbD_and, BitVec.getLsbD_not, bitIn_getLsbD]
  refine ⟨?_, by rw [and_inAllSco_not, and_inAllSco_not, hb]; simp⟩
  apply UInt32.eq_of_toBitVec_eq
  apply BitVec.eq_of_getLsbD_eq
  intro k
  show ((v &&& ~~~audioDeviceBitIn).toBitVec &&& audioDeviceBitIn.toBitVec).getLsbD k =
    (0#32).getLsbD k
  rw [BitVec.getLsbD_and, hb, bitIn_getLsbD]
  by_cases hk : (k : Nat) = 31 <;> simp [hk]

/-- **The SCO test of `in_set_parameters` on masks without the direction bit.** It fires exactly
when the SCO input device is in one of the two device sets and not in the other. -/
theorem sco_toggle_of_no_bitIn {x y : UInt32} (hx : x &&& audioDeviceBitIn = 0)
    (hy : y &&& audioDeviceBitIn = 0) :
    ((x &&& audioDeviceInAllSco) ^^^ (y &&& audioDeviceInAllSco) != 0) =
      ((x &&& audioDeviceInAllSco &&& ~~~audioDeviceBitIn != 0) !=
        (y &&& audioDeviceInAllSco &&& ~~~audioDeviceBitIn != 0)) := by
  rw [and_inAllSco hx, and_inAllSco hy]
  cases x.toBitVec.getLsbD 3 <;> cases y.toBitVec.getLsbD 3 <;> decide

/-! ## The devices the mixer supports -/

/-- `adev_get_supported_devices`, given the names of the mixer paths `audio_route_init` read from
the mixer configuration, in order: for each path, the mask of the first `dev_names` entry of that
name, if any. -/
def adevGetSupportedDevices (mixerPaths : List String) : UInt32 :=
  mixerPaths.foldl (fun supported name ↦
    match devNames.find? (·.name == name) with
    | some d => supported ||| d.mask
    | none => supported) 0

/-- Two entries of `dev_names` with one name have one mask (the two headphone entries). -/
theorem devNames_mask_of_name :
    ∀ d ∈ devNames, ∀ d' ∈ devNames, d.name = d'.name → d.mask = d'.mask := by
  decide

theorem foldl_or_getLsbD (l : List UInt32) (acc : UInt32) (k : Nat) :
    (l.foldl (· ||| ·) acc).toBitVec.getLsbD k =
      (acc.toBitVec.getLsbD k || l.any (·.toBitVec.getLsbD k)) := by
  induction l generalizing acc with
  | nil => simp
  | cons m l ih =>
    rw [List.foldl_cons, ih]
    show ((acc.toBitVec ||| m.toBitVec).getLsbD k || _) = _
    rw [BitVec.getLsbD_or]
    simp [Bool.or_assoc]

/-- The loop with its early exit, as an OR over the masks it picks, one per path. -/
theorem adevGetSupportedDevices_eq_filterMap (mixerPaths : List String) :
    adevGetSupportedDevices mixerPaths =
      (mixerPaths.filterMap fun name ↦ (devNames.find? (·.name == name)).map (·.mask)).foldl
        (· ||| ·) 0 := by
  unfold adevGetSupportedDevices
  generalize (0 : UInt32) = acc
  induction mixerPaths generalizing acc with
  | nil => rfl
  | cons name rest ih =>
    cases h : devNames.find? (·.name == name) <;> simp [List.filterMap_cons, h, ih]

/-- The masks the loop picks are those of the entries the mixer has a path for. -/
theorem mem_supportedMasks (mixerPaths : List String) (m : UInt32) :
    m ∈ (mixerPaths.filterMap fun name ↦ (devNames.find? (·.name == name)).map (·.mask)) ↔
      m ∈ (devNames.filter fun d ↦ mixerPaths.contains d.name).map (·.mask) := by
  simp only [List.mem_filterMap, Option.map_eq_some', List.mem_map, List.mem_filter]
  constructor
  · rintro ⟨name, hname, d, hfind, rfl⟩
    have hd := List.find?_some hfind
    simp only [beq_iff_eq] at hd
    exact ⟨d, ⟨List.mem_of_find?_eq_some hfind, by simpa [hd] using hname⟩, rfl⟩
  · rintro ⟨d, ⟨hd, hname⟩, rfl⟩
    cases hfind : devNames.find? (·.name == d.name) with
    | none =>
      exact absurd (beq_self_eq_true d.name) (List.find?_eq_none.mp hfind d hd)
    | some d' =>
      have hname' : d'.name = d.name := by simpa using List.find?_some hfind
      refine ⟨d.name, by simpa using hname, d', hfind, ?_⟩
      exact devNames_mask_of_name d' (List.mem_of_find?_eq_some hfind) d hd hname'

/-- **The early exit of `adev_get_supported_devices` loses no device.** For every list of mixer
paths, the mask it reports is the OR of the masks of all `dev_names` entries whose path the mixer
has, as if the inner loop went on past the first match: the only name the table lists twice,
`"headphone"`, has one mask. -/
theorem adevGetSupportedDevices_eq_union (mixerPaths : List String) :
    adevGetSupportedDevices mixerPaths =
      ((devNames.filter fun d ↦ mixerPaths.contains d.name).map (·.mask)).foldl (· ||| ·) 0 := by
  rw [adevGetSupportedDevices_eq_filterMap]
  apply UInt32.eq_of_toBitVec_eq
  apply BitVec.eq_of_getLsbD_eq
  intro k
  rw [foldl_or_getLsbD, foldl_or_getLsbD]
  congr 1
  exact Bool.eq_iff_iff.mpr (by simp only [List.any_eq_true, mem_supportedMasks])

end Omap4AudioHal
