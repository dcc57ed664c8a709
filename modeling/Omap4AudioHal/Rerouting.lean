import Omap4AudioHal.Bookkeeping

/-!
# Rerouting a stream

`out_set_parameters` and `in_set_parameters` take a new device mask, put their stream into standby
when the new mask switches SCO on or off, and route. The input side clears
`AUDIO_DEVICE_BIT_IN` from the new mask only, and compares the result with `in_device` as the last
writer left it. `adev_open` and `in_set_parameters` leave the bit clear, and then the comparison
and the SCO test mean what they say (`inSetParameters_standby_iff_sco_toggle`).
`adev_open_input_stream` ORs in the caller's mask, which carries the bit; after it, the comparison
sees a change where the device set has none, and the SCO test sees bit 31 of
`AUDIO_DEVICE_IN_ALL_SCO` on one side only, so every routing puts the input into standby.

## The route follows the devices

Every entry point that writes `out_device` or `in_device` calls `select_devices` under the same
lock, the failing `adev_open_input_stream` included, and no other code writes the two masks or the
mixer. `adev_open` sets the masks without routing, so until the first routing call the mixer keeps
the empty route; from then on it holds the paths of the current masks
(`route_follows_devices`).
-/

namespace Omap4AudioHal

/-! ## While `in_device` has the direction bit clear -/

section InSetParameters

variable (s : Hal) (i : Nat) (raw : UInt32)

theorem inSetParameters_ins :
    (inSetParameters s i (some raw)).hal.ins =
      if s.adev.inDevice ≠ raw &&& ~~~audioDeviceBitIn ∧ raw &&& ~~~audioDeviceBitIn ≠ 0 ∧
          ((raw &&& ~~~audioDeviceBitIn &&& audioDeviceInAllSco) ^^^
            (s.adev.inDevice &&& audioDeviceInAllSco) != 0)
      then (doInStandby s i).hal.ins else s.ins := by
  unfold inSetParameters
  dsimp only
  split_ifs <;> first | rfl | (exfalso; tauto)

theorem inSetParameters_inDevice :
    (inSetParameters s i (some raw)).hal.adev.inDevice =
      if s.adev.inDevice ≠ raw &&& ~~~audioDeviceBitIn ∧ raw &&& ~~~audioDeviceBitIn ≠ 0
      then raw &&& ~~~audioDeviceBitIn else s.adev.inDevice := by
  unfold inSetParameters
  dsimp only
  split_ifs <;> rfl

end InSetParameters

/-- **`in_set_parameters` on a device without the direction bit.** The input goes into standby
exactly when the new device set, the direction bit ignored, is not empty, differs from the current
one, and has the SCO input device where the current one has not or the other way round; the new
`in_device` is again without the direction bit. -/
theorem inSetParameters_standby_iff_sco_toggle (s : Hal) (i : Nat) (v : UInt32)
    (h : s.adev.inDevice &&& audioDeviceBitIn = 0) :
    (inSetParameters s i (some v)).hal.ins =
      (if v &&& ~~~audioDeviceBitIn ≠ 0 ∧
          v &&& ~~~audioDeviceBitIn ≠ s.adev.inDevice &&& ~~~audioDeviceBitIn ∧
          (v &&& audioDeviceInAllSco &&& ~~~audioDeviceBitIn != 0) ≠
            (s.adev.inDevice &&& audioDeviceInAllSco &&& ~~~audioDeviceBitIn != 0)
        then (doInStandby s i).hal.ins else s.ins) ∧
    (inSetParameters s i (some v)).hal.adev.inDevice &&& audioDeviceBitIn = 0 := by
  obtain ⟨hv, hsco⟩ := clear_bitIn v
  refine ⟨?_, ?_⟩
  · rw [inSetParameters_ins, and_not_bitIn h, sco_toggle_of_no_bitIn hv h, hsco]
    exact if_congr ⟨fun ⟨h₁, h₂, h₃⟩ ↦ ⟨h₂, Ne.symm h₁, bne_iff_ne.mp h₃⟩,
      fun ⟨h₂, h₁, h₃⟩ ↦ ⟨Ne.symm h₁, h₂, bne_iff_ne.mpr h₃⟩⟩ rfl rfl
  · rw [inSetParameters_inDevice]
    split_ifs
    · exact hv
    · exact h

/-- A built-in microphone input opened, and started by a read. -/
def micStartedRun : List HalCall :=
  [.openInputStream audioDeviceInBuiltinMic 44100 audioChannelInMono ⟨true, true, 0⟩,
   .inRead 0 (fun _ ↦ 0) 2 (.plain true 0 fun _ ↦ 0)]

/-- The same input routed to the built-in microphone again, and restarted. -/
def micRestartedRun : List HalCall :=
  micStartedRun ++
    [.inSetParameters 0 (some audioDeviceInBuiltinMic),
     .inRead 0 (fun _ ↦ 0) 2 (.plain true 0 fun _ ↦ 0)]

theorem mic_restarted_reroute_law :
    (run adevOpen micRestartedRun).1.adev.inDevice &&& audioDeviceBitIn = 0 ∧
    ((inSetParameters (run adevOpen micRestartedRun).1 0 (some audioDeviceInWiredHeadset)).hal.ins =
      (if audioDeviceInWiredHeadset &&& ~~~audioDeviceBitIn ≠ 0 ∧
          audioDeviceInWiredHeadset &&& ~~~audioDeviceBitIn ≠
            (run adevOpen micRestartedRun).1.adev.inDevice &&& ~~~audioDeviceBitIn ∧
          (audioDeviceInWiredHeadset &&& audioDeviceInAllSco &&& ~~~audioDeviceBitIn != 0) ≠
            ((run adevOpen micRestartedRun).1.adev.inDevice &&& audioDeviceInAllSco &&&
              ~~~audioDeviceBitIn != 0)
        then (doInStandby (run adevOpen micRestartedRun).1 0).hal.ins
        else (run adevOpen micRestartedRun).1.ins) ∧
    (inSetParameters (run adevOpen micRestartedRun).1 0
      (some audioDeviceInWiredHeadset)).hal.adev.inDevice &&& audioDeviceBitIn = 0) :=
  ⟨by decide, inSetParameters_standby_iff_sco_toggle _ 0 audioDeviceInWiredHeadset (by decide)⟩

/-! ## After `adev_open_input_stream` -/

/-- **`in_set_parameters` on a device with the direction bit.** Every routing to a non-empty
device set puts the input into standby, whether or not it changes the set or switches SCO. -/
theorem inSetParameters_standby_of_bitIn (s : Hal) (i : Nat) (v : UInt32)
    (h : s.adev.inDevice &&& audioDeviceBitIn = audioDeviceBitIn)
    (hv : v &&& ~~~audioDeviceBitIn ≠ 0) :
    (inSetParameters s i (some v)).hal.ins = (doInStandby s i).hal.ins := by
  have h31 := getLsbD_of_and_bitIn_eq h
  have hv31 := getLsbD_of_and_bitIn (clear_bitIn v).1
  rw [inSetParameters_ins, if_pos]
  refine ⟨fun heq ↦ ?_, hv, bne_iff_ne.mpr (ne_zero_of_getLsbD (k := 31) ?_)⟩
  · rw [heq, hv31] at h31
    cases h31
  · show ((v &&& ~~~audioDeviceBitIn).toBitVec &&& audioDeviceInAllSco.toBitVec ^^^
      s.adev.inDevice.toBitVec &&& audioDeviceInAllSco.toBitVec).getLsbD 31 = true
    rw [BitVec.getLsbD_xor, BitVec.getLsbD_and, BitVec.getLsbD_and, hv31, h31, inAllSco_getLsbD]
    rfl

theorem mic_started_reroute_forces_standby :
    (run adevOpen micStartedRun).1.adev.inDevice &&& audioDeviceBitIn = audioDeviceBitIn ∧
    audioDeviceInWiredHeadset &&& ~~~audioDeviceBitIn ≠ 0 ∧
    (inSetParameters (run adevOpen micStartedRun).1 0 (some audioDeviceInWiredHeadset)).hal.ins =
      (doInStandby (run adevOpen micStartedRun).1 0).hal.ins :=
  ⟨by decide, by decide,
    inSetParameters_standby_of_bitIn _ 0 audioDeviceInWiredHeadset (by decide) (by decide)⟩

/-- After `adev_open_input_stream` on the built-in microphone, `in_device` carries the direction
bit, and routing the started input to the wired headset, or to the built-in microphone it is
already on, puts it into standby, though neither mask names the SCO input device. -/
theorem input_reroute_standby_without_sco :
    Reachable (run adevOpen micStartedRun).1 ∧
    (run adevOpen micStartedRun).1.adev.inDevice = audioDeviceInBuiltinMic ∧
    ((run adevOpen micStartedRun).1.ins 0).map (·.standby) = some false ∧
    audioDeviceInBuiltinMic &&& audioDeviceInAllSco &&& ~~~audioDeviceBitIn = 0 ∧
    audioDeviceInWiredHeadset &&& audioDeviceInAllSco &&& ~~~audioDeviceBitIn = 0 ∧
    ((inSetParameters (run adevOpen micStartedRun).1 0
      (some audioDeviceInWiredHeadset)).hal.ins 0).map (·.standby) = some true ∧
    ((inSetParameters (run adevOpen micStartedRun).1 0
      (some audioDeviceInBuiltinMic)).hal.ins 0).map (·.standby) = some true :=
  ⟨Reachable.init.run _, by decide, by decide, by decide, by decide, by decide, by decide⟩

/-! ## The route follows the devices -/

/-- The device masks and the route the device state records. -/
def Hal.routing (s : Hal) : UInt32 × UInt32 × List String :=
  (s.adev.outDevice, s.adev.inDevice, s.adev.route)

/-- The route is the one of the current masks, or the empty one `adev_open` leaves with its masks. -/
def RouteApplied (s : Hal) : Prop :=
  s.adev.route = selectDevices s.adev.outDevice s.adev.inDevice ∨
    (s.adev.route = [] ∧ s.adev.outDevice = audioDeviceOutSpeaker ∧
      s.adev.inDevice = audioDeviceInBuiltinMic &&& ~~~audioDeviceBitIn)

theorem RouteApplied.of_routing {s s' : Hal} (h : RouteApplied s) (e : s'.routing = s.routing) :
    RouteApplied s' := by
  simp only [Hal.routing, Prod.mk.injEq] at e
  obtain ⟨h₁, h₂, h₃⟩ := e
  unfold RouteApplied
  rw [h₁, h₂, h₃]
  exact h

section Frames

variable (s : Hal) (o i : Nat)

theorem doOutStandby_routing : (doOutStandby s o).hal.routing = s.routing := by
  unfold doOutStandby; split <;> (try split_ifs) <;> rfl

theorem doInStandby_routing : (doInStandby s i).hal.routing = s.routing := by
  unfold doInStandby; split <;> (try split_ifs) <;> rfl

theorem startOutputStream_routing (ready : Bool) :
    (startOutputStream s o ready).hal.routing = s.routing := by
  have hc : ∀ r, (inStandbyOnClash s r).hal.routing = s.routing := by
    intro r; unfold inStandbyOnClash; repeat' split
    all_goals first | rfl | exact doInStandby_routing s _
  unfold startOutputStream; split
  · rfl
  · split_ifs <;> exact hc _

theorem startInputStream_routing (ready : Bool) :
    (startInputStream s i ready).hal.routing = s.routing := by
  have hc : ∀ r, (outStandbyOnClash s r).hal.routing = s.routing := by
    intro r; unfold outStandbyOnClash; repeat' split
    all_goals first | rfl | exact doOutStandby_routing s _
  unfold startInputStream; split
  · rfl
  · split_ifs <;> exact hc _

theorem outWritePass_routing (bytes : Nat) (a : WriteAttempt) (l : WriteLocals) :
    (outWritePass s o bytes a l).hal.routing = s.routing := by
  cases hx : s.outs o with
  | none => simp only [outWritePass, hx]
  | some out =>
    cases hsb : out.standby
    · rw [outWritePass_of_live hx hsb]; rfl
    · cases hr : a.ready
      · rw [outWritePass_of_open_fails hx hsb hr]; exact startOutputStream_routing s o false
      · rw [outWritePass_of_opened hx hsb hr]; exact startOutputStream_routing s o true

theorem outWriteLoop_routing (bytes : Nat) (l : WriteLocals) (as : List WriteAttempt) :
    (outWriteLoop o bytes s l as).hal.routing = s.routing := by
  induction as generalizing s l with
  | nil => rfl
  | cons a as ih =>
    simp only [outWriteLoop]
    split_ifs
    · rw [ih, doOutStandby_routing, outWritePass_routing]
    · exact outWritePass_routing s o bytes a l

theorem inRead_routing (client : Nat → UInt16) (bytes : Nat) (env : ReadEnv) :
    (inRead s i client bytes env).hal.routing = s.routing := by
  cases hx : s.ins i with
  | none => simp only [inRead, hx]
  | some inp =>
    cases hsb : inp.standby
    · rw [inRead_of_live hx hsb, inReadData_hal]; rfl
    · cases hr : env.ready
      · rw [inRead_of_open_fails hx hsb hr]; exact startInputStream_routing s i false
      · rw [inRead_of_opened hx hsb hr]
        show (inReadData _ i _ client bytes env _).hal.routing = _
        rw [inReadData_hal]; exact startInputStream_routing s i true

end Frames

/-- Every call keeps the route in step with the devices. -/
theorem RouteApplied.apply {s : Hal} (h : RouteApplied s) (c : HalCall) :
    RouteApplied (c.apply s).1 := by
  cases c with
  | openOutputStream devices flags env =>
    dsimp only [HalCall.apply, adevOpenOutputStream]
    split_ifs
    · exact h
    · exact h
    · exact .inl rfl
  | closeOutputStream o => exact h.of_routing (doOutStandby_routing s o)
  | openInputStream devices rate mask env =>
    dsimp only [HalCall.apply]
    unfold adevOpenInputStream
    by_cases h₁ : mask ≠ audioChannelInMono
    · simp only [if_pos h₁]; exact h
    by_cases h₂ : (!env.callocOk) = true
    · simp only [if_neg h₁, if_pos h₂]; exact h
    simp only [if_neg h₁, if_neg h₂]
    split_ifs <;> exact .inl rfl
  | closeInputStream i => exact h.of_routing (doInStandby_routing s i)
  | outWrite o client bytes attempts => exact h.of_routing (outWriteLoop_routing s o bytes _ attempts)
  | outStandby o => exact h.of_routing (doOutStandby_routing s o)
  | outSetParameters o routing =>
    dsimp only [HalCall.apply, outSetParameters]
    split
    · exact h
    · split_ifs
      · exact .inl rfl
      · exact .inl rfl
      · exact h
  | inRead i client bytes env => exact h.of_routing (inRead_routing s i client bytes env)
  | inStandby i => exact h.of_routing (doInStandby_routing s i)
  | inSetParameters i routing =>
    dsimp only [HalCall.apply, inSetParameters]
    split
    · exact h
    · split_ifs
      · exact .inl rfl
      · exact .inl rfl
      · exact h
  | setParameters orientation screenState =>
    have h₁ : RouteApplied (adevSetParameters s orientation none) := by
      cases orientation
      · exact h
      · dsimp only [adevSetParameters]
        split_ifs
        · exact .inl rfl
        · exact h
    cases screenState
    · exact h₁
    · exact h₁.of_routing rfl
  | setMicMute state => exact h

/-- **The mixer route follows the devices.** After every run from `adev_open`, the route last
applied is the one `select_devices` computes from the current `out_device` and `in_device`, or,
if no call has routed yet, the empty route with the masks `adev_open` set. -/
theorem route_follows_devices (cs : List HalCall) :
    (run adevOpen cs).1.adev.route =
        selectDevices (run adevOpen cs).1.adev.outDevice (run adevOpen cs).1.adev.inDevice ∨
      ((run adevOpen cs).1.adev.route = [] ∧
        (run adevOpen cs).1.adev.outDevice = audioDeviceOutSpeaker ∧
        (run adevOpen cs).1.adev.inDevice = audioDeviceInBuiltinMic &&& ~~~audioDeviceBitIn) := by
  suffices ∀ s, RouteApplied s → RouteApplied (run s cs).1 from this adevOpen (.inr ⟨rfl, rfl, rfl⟩)
  induction cs with
  | nil => exact fun _ h ↦ h
  | cons c cs ih => exact fun s h ↦ ih _ (h.apply c)

end Omap4AudioHal
