import Omap4AudioHal.Bookkeeping

/-!
# One stream a direction

The device keeps a single active pointer per direction, and the rate-group check of a start sees
the other direction only through it. With two streams of a direction the pointer can miss a
stream that plays (`Omap4AudioHal.Bookkeeping`). This module shows that this is the only way it
misses one: in a run that keeps at most one stream of each direction open after every call, as a
framework that opens one output and one input does, each pointer names exactly the stream out of
standby.

## The invariant

Of a direction the proof keeps two facts together: at most one of the numbers handed out names
an open stream, and a stream out of standby is the one the pointer names. Each move of a side that
the bookkeeping names keeps both. Replacing, stopping, starting and freeing a stream never open a
second one, so the first fact needs no hypothesis there; a fresh stream keeps it only when it is
the one stream, which is what the run's hypothesis says after an open. The entry points are then
taken one by one, each making the same moves on each side as for the bookkeeping.
-/

namespace Omap4AudioHal

namespace Side

variable {α : Type} {d : Side α} {x : Nat} {y z : α}

/-- At most one of the numbers handed out names an open stream. -/
def AtMostOne (d : Side α) : Prop :=
  ∀ x < d.next, ∀ x' < d.next, (d.streams x).isSome → (d.streams x').isSome → x = x'

instance (d : Side α) : Decidable d.AtMostOne :=
  inferInstanceAs (Decidable (∀ x < d.next, ∀ x' < d.next,
    (d.streams x).isSome → (d.streams x').isSome → x = x'))

theorem put_isSome (hx : d.streams x = some z) (x' : Nat) :
    ((d.put x y).streams x').isSome = (d.streams x').isSome := by
  by_cases hxx : x' = x
  · subst hxx; simp [Side.put, hx]
  · simp [Side.put, hxx]

namespace AtMostOne

/-- Replacing an open stream opens no other one, whatever the pointer then names. -/
theorem put (h : d.AtMostOne) (hx : d.streams x = some z) (a : Option Nat) :
    ({ d.put x y with active := a } : Side α).AtMostOne := fun x₁ h₁ x₂ h₂ hs₁ hs₂ ↦
  h x₁ h₁ x₂ h₂ (put_isSome hx x₁ ▸ hs₁) (put_isSome hx x₂ ▸ hs₂)

/-- Freeing a stream opens no other one. -/
theorem erase (h : d.AtMostOne) :
    ({ d with streams := Function.update d.streams x none } : Side α).AtMostOne :=
  fun x₁ h₁ x₂ h₂ hs₁ hs₂ ↦ by
    have hsub : ∀ x', (Function.update d.streams x none x').isSome → (d.streams x').isSome :=
      fun x' ↦ by
        by_cases hxx : x' = x
        · subst hxx; simp
        · simp [hxx]
    exact h x₁ h₁ x₂ h₂ (hsub x₁ hs₁) (hsub x₂ hs₂)

/-- With at most one stream, a replaced stream is the only stream there is. -/
theorem eq_put {standby hasPcm : α → Bool} {good : α → Prop}
    (hb : SideBooks standby hasPcm good d) (h : d.AtMostOne) (hx : d.streams x = some z)
    {x' : Nat} {y' : α} (hy' : (d.put x y).streams x' = some y') : x' = x ∧ y' = y := by
  by_cases hxx : x' = x
  · subst hxx
    simp only [Side.put, Function.update_same, Option.some.injEq] at hy'
    exact ⟨rfl, hy'.symm⟩
  · have hx' : d.streams x' = some y' := by simpa [Side.put, hxx] using hy'
    exact absurd (h x' (hb.lt_next hx') x (hb.lt_next hx) (by simp [hx']) (by simp [hx])) hxx

end AtMostOne

end Side

section One

variable {α : Type} (standby : α → Bool)

/-- A direction with at most one open stream, which the pointer names if it is out of standby. -/
structure SideOne (d : Side α) : Prop where
  one : d.AtMostOne
  live_active : ∀ x y, d.streams x = some y → standby y = false → d.active = some x

variable {standby} {hasPcm : α → Bool} {good : α → Prop} {d : Side α} {x : Nat} {y z : α}

namespace SideOne

/-- A stream replaced by one with the same standby flag. -/
theorem put (h : SideOne standby d) (hx : d.streams x = some z) (hs : standby y = standby z) :
    SideOne standby (d.put x y) where
  one := h.one.put hx d.active
  live_active x' y' hy' hl := by
    by_cases hxx : x' = x
    · subst hxx
      simp only [Side.put, Function.update_same, Option.some.injEq] at hy'
      exact h.live_active x' z hx (hs ▸ hy' ▸ hl)
    · exact h.live_active x' y' (by simpa [Side.put, hxx] using hy') hl

/-- A stream put into standby, and the pointer cleared: no stream is left out of standby. -/
theorem put_standby (hb : SideBooks standby hasPcm good d) (h : SideOne standby d)
    (hx : d.streams x = some z) (hy : standby y = true) :
    SideOne standby { d.put x y with active := none } where
  one := h.one.put hx none
  live_active _ _ hy' hl := by
    obtain ⟨-, rfl⟩ := h.one.eq_put hb hx hy'
    simp [hy] at hl

/-- A stream started, and the pointer set to it: it is the only stream. -/
theorem put_active (hb : SideBooks standby hasPcm good d) (h : SideOne standby d)
    (hx : d.streams x = some z) : SideOne standby { d.put x y with active := some x } where
  one := h.one.put hx (some x)
  live_active _ _ hy' _ := by
    obtain ⟨rfl, -⟩ := h.one.eq_put hb hx hy'
    rfl

/-- A fresh stream in standby that is the only stream: nothing is out of standby. -/
theorem add (hb : SideBooks standby hasPcm good d) (hy : standby y = true)
    (hone : ({ d.put d.next y with next := d.next + 1 } : Side α).AtMostOne) :
    SideOne standby { d.put d.next y with next := d.next + 1 } where
  one := hone
  live_active x' y' hy' hl := by
    by_cases hxx : x' = d.next
    · subst hxx
      simp only [Side.put, Function.update_same, Option.some.injEq] at hy'
      simp [← hy', hy] at hl
    · have hx' : d.streams x' = some y' := by simpa [Side.put, hxx] using hy'
      have hlt := hb.lt_next hx'
      exact absurd (hone x' (by simp only; omega) d.next (by simp only; omega)
        (by simp [Side.put, hxx, hx']) (by simp [Side.put])) hxx

/-- A stream freed: what is left out of standby is still named. -/
theorem erase (h : SideOne standby d) :
    SideOne standby { d with streams := Function.update d.streams x none } where
  one := h.one.erase
  live_active x' y' hy' hl := by
    have hne : x' ≠ x := by rintro rfl; simp at hy'
    exact h.live_active x' y' (by simpa [hne] using hy') hl

end SideOne

end One

/-! ## Both directions -/

/-- Each direction has at most one open stream. -/
def OneEach (s : Hal) : Prop :=
  s.outSide.AtMostOne ∧ s.inSide.AtMostOne

instance (s : Hal) : Decidable (OneEach s) :=
  inferInstanceAs (Decidable (s.outSide.AtMostOne ∧ s.inSide.AtMostOne))

/-- Each direction has at most one open stream, and its pointer names it if it is out of
standby. -/
structure One (s : Hal) : Prop where
  out : SideOne StreamOut.standby s.outSide
  inp : SideOne StreamIn.standby s.inSide

theorem one_adevOpen : One adevOpen :=
  ⟨⟨fun _ _ _ _ h ↦ (by cases h), fun _ _ h ↦ (by cases h)⟩,
    ⟨fun _ _ _ _ h ↦ (by cases h), fun _ _ h ↦ (by cases h)⟩⟩

namespace One

variable {s : Hal} {o i : Nat} {out : StreamOut} {inp : StreamIn}

/-- Anything that leaves both sides as they were keeps the invariant. -/
theorem of_sides {s' : Hal} (h : One s) (ho : s'.outSide = s.outSide)
    (hi : s'.inSide = s.inSide) : One s' :=
  ⟨ho ▸ h.out, hi ▸ h.inp⟩

/-! ### Standby and start -/

theorem doOutStandby (hb : Books s) (h : One s) (o : Nat) : One (doOutStandby s o).hal := by
  unfold Omap4AudioHal.doOutStandby
  split
  next out hx =>
    split_ifs
    · exact h
    · exact ⟨h.out.put_standby hb.out hx rfl, h.inp⟩
  · exact h

theorem doInStandby (hb : Books s) (h : One s) (i : Nat) : One (doInStandby s i).hal := by
  unfold Omap4AudioHal.doInStandby
  split
  next inp hx =>
    split_ifs
    · exact h
    · exact ⟨h.out, h.inp.put_standby hb.inp hx rfl⟩
  · exact h

theorem inStandbyOnClash (hb : Books s) (h : One s) (r : Nat) :
    One (inStandbyOnClash s r).hal := by
  unfold Omap4AudioHal.inStandbyOnClash
  repeat' split
  all_goals first | exact h | exact h.doInStandby hb _

theorem outStandbyOnClash (hb : Books s) (h : One s) (r : Nat) :
    One (outStandbyOnClash s r).hal := by
  unfold Omap4AudioHal.outStandbyOnClash
  repeat' split
  all_goals first | exact h | exact h.doOutStandby hb _

theorem startOutputStream_fail (hb : Books s) (h : One s) (hx : s.outs o = some out) :
    One (startOutputStream s o false).hal where
  out := by rw [startOutputStream_outSide hx]; exact h.out.put hx (by simp)
  inp := by rw [startOutputStream_inSide hx]; exact (h.inStandbyOnClash hb _).inp

theorem startOutputStream_ok (hb : Books s) (h : One s) (hx : s.outs o = some out)
    (y : StreamOut) : One ((startOutputStream s o true).hal.setOut o y) where
  out := by rw [startOutputStream_setOut_outSide hx]; exact h.out.put_active hb.out hx
  inp := by
    change SideOne _ (startOutputStream s o true).hal.inSide
    rw [startOutputStream_inSide hx]
    exact (h.inStandbyOnClash hb _).inp

theorem startInputStream_fail (hb : Books s) (h : One s) (hx : s.ins i = some inp) :
    One (startInputStream s i false).hal where
  out := by rw [startInputStream_outSide hx]; exact (h.outStandbyOnClash hb _).out
  inp := by rw [startInputStream_inSide hx]; exact h.inp.put hx (by simp)

theorem startInputStream_ok (hb : Books s) (h : One s) (hx : s.ins i = some inp)
    (y : StreamIn) : One ((startInputStream s i true).hal.setIn i y) where
  out := by
    change SideOne _ (startInputStream s i true).hal.outSide
    rw [startInputStream_outSide hx]
    exact (h.outStandbyOnClash hb _).out
  inp := by rw [startInputStream_setIn_inSide hx]; exact h.inp.put_active hb.inp hx

/-! ### The entry points -/

theorem outWritePass (hb : Books s) (h : One s) (o bytes : Nat) (a : WriteAttempt)
    (l : WriteLocals) : One (outWritePass s o bytes a l).hal := by
  cases hx : s.outs o with
  | none => simp [Omap4AudioHal.outWritePass, hx, h]
  | some out =>
    cases hsb : out.standby
    · rw [outWritePass_of_live hx hsb]
      have hs := (writeBody_sameSetup o (scoOn s) a { out with standby := false } l).standby
      exact ⟨h.out.put hx (hs.trans hsb.symm), h.inp⟩
    · cases hr : a.ready
      · rw [outWritePass_of_open_fails hx hsb hr]
        exact h.startOutputStream_fail hb hx
      · rw [outWritePass_of_opened hx hsb hr]
        exact h.startOutputStream_ok hb hx _

theorem outWriteLoop (hb : Books s) (h : One s) (o bytes : Nat) (l : WriteLocals)
    (as : List WriteAttempt) : One (outWriteLoop o bytes s l as).hal := by
  induction as generalizing s l with
  | nil => exact h
  | cons a as ih =>
    have hp := h.outWritePass hb o bytes a l
    have hbp := hb.outWritePass o bytes a l
    simp only [Omap4AudioHal.outWriteLoop]
    split_ifs
    · exact ih (hbp.doOutStandby o) (hp.doOutStandby hbp o) _
    · exact hp

theorem inRead (hb : Books s) (h : One s) (i : Nat) (client : Nat → UInt16) (bytes : Nat)
    (env : ReadEnv) : One (inRead s i client bytes env).hal := by
  cases hx : s.ins i with
  | none => simp [Omap4AudioHal.inRead, hx, h]
  | some inp =>
    cases hsb : inp.standby
    · rw [inRead_of_live hx hsb, inReadData_hal]
      exact ⟨h.out, h.inp.put hx ((readPath_sameSetup inp i bytes client env).standby)⟩
    · cases hr : env.ready
      · rw [inRead_of_open_fails hx hsb hr]
        exact h.startInputStream_fail hb hx
      · rw [inRead_of_opened hx hsb hr]
        dsimp only
        rw [inReadData_hal]
        exact h.startInputStream_ok hb hx _

theorem adevOpenOutputStream (hb : Books s) (h : One s) (devices flags : UInt32)
    (env : OpenOutEnv) (hone : OneEach (adevOpenOutputStream s devices flags env).hal) :
    One (adevOpenOutputStream s devices flags env).hal := by
  revert hone
  unfold Omap4AudioHal.adevOpenOutputStream
  by_cases hc : (!env.callocOk) = true
  · rw [if_pos hc]; exact fun _ ↦ h
  rw [if_neg hc]
  dsimp only
  by_cases hr : (devices &&& audioDeviceOutAllSco != 0) = true ∧ env.createStatus ≠ 0
  · rw [if_pos hr]; exact fun _ ↦ h
  rw [if_neg hr]
  exact fun hone ↦ ⟨SideOne.add hb.out rfl hone.1, h.inp⟩

theorem adevCloseOutputStream (hb : Books s) (h : One s) (o : Nat) :
    One (adevCloseOutputStream s o).hal :=
  ⟨(h.doOutStandby hb o).out.erase, (h.doOutStandby hb o).inp⟩

theorem adevOpenInputStream (hb : Books s) (h : One s) (devices : UInt32) (rate : Nat)
    (mask : UInt32) (env : OpenInEnv)
    (hone : OneEach (adevOpenInputStream s devices rate mask env).hal) :
    One (adevOpenInputStream s devices rate mask env).hal := by
  revert hone
  unfold Omap4AudioHal.adevOpenInputStream
  by_cases h₁ : mask ≠ audioChannelInMono
  · simp only [if_pos h₁]; exact fun _ ↦ h
  by_cases h₂ : (!env.callocOk) = true
  · simp only [if_neg h₁, if_pos h₂]; exact fun _ ↦ h
  simp only [if_neg h₁, if_neg h₂]
  split_ifs
  · exact fun _ ↦ h.of_sides rfl rfl
  · exact fun _ ↦ h.of_sides rfl rfl
  · exact fun hone ↦ ⟨h.out, SideOne.add hb.inp rfl hone.2⟩

theorem adevCloseInputStream (hb : Books s) (h : One s) (i : Nat) :
    One (adevCloseInputStream s i).hal :=
  ⟨(h.doInStandby hb i).out, (h.doInStandby hb i).inp.erase⟩

theorem outSetParameters (hb : Books s) (h : One s) (o : Nat) (routing : Option UInt32) :
    One (outSetParameters s o routing).hal := by
  unfold Omap4AudioHal.outSetParameters
  split
  · exact h
  · split_ifs
    · exact (h.doOutStandby hb o).of_sides rfl rfl
    · exact h.of_sides rfl rfl
    · exact h

theorem inSetParameters (hb : Books s) (h : One s) (i : Nat) (routing : Option UInt32) :
    One (inSetParameters s i routing).hal := by
  dsimp only [Omap4AudioHal.inSetParameters]
  split
  · exact h
  · split_ifs
    · exact (h.doInStandby hb i).of_sides rfl rfl
    · exact h.of_sides rfl rfl
    · exact h

theorem adevSetParameters (h : One s) (orientation screenState : Option String) :
    One (adevSetParameters s orientation screenState) := by
  cases orientation <;> cases screenState <;> dsimp only [Omap4AudioHal.adevSetParameters] <;>
    (try split_ifs) <;> exact h.of_sides rfl rfl

/-- **Every call that leaves one stream a direction keeps the invariant.** -/
theorem apply (hb : Books s) (h : One s) (c : HalCall) (hone : OneEach (c.apply s).1) :
    One (c.apply s).1 := by
  cases c with
  | openOutputStream devices flags env => exact h.adevOpenOutputStream hb devices flags env hone
  | closeOutputStream o => exact h.adevCloseOutputStream hb o
  | openInputStream devices rate mask env =>
    exact h.adevOpenInputStream hb devices rate mask env hone
  | closeInputStream i => exact h.adevCloseInputStream hb i
  | outWrite o client bytes attempts => exact h.outWriteLoop hb o bytes _ attempts
  | outStandby o => exact h.doOutStandby hb o
  | outSetParameters o routing => exact h.outSetParameters hb o routing
  | inRead i client bytes env => exact h.inRead hb i client bytes env
  | inStandby i => exact h.doInStandby hb i
  | inSetParameters i routing => exact h.inSetParameters hb i routing
  | setParameters orientation screenState => exact h.adevSetParameters orientation screenState
  | setMicMute state => exact h.of_sides rfl rfl

/-- A run after every call of which each direction has at most one stream keeps the invariant. -/
theorem run (hb : Books s) (h : One s) (cs : List HalCall)
    (hone : ∀ k ≤ cs.length, OneEach (Omap4AudioHal.run s (cs.take k)).1) :
    One (Omap4AudioHal.run s cs).1 := by
  induction cs generalizing s with
  | nil => exact h
  | cons c cs ih =>
    have h₁ : One (c.apply s).1 := h.apply hb c (hone 1 (by simp))
    exact ih (hb.apply c) h₁ fun k hk ↦ hone (k + 1) (by simp; omega)

end One

/-! ## The pointers with one stream a direction -/

/-- **With one stream a direction the pointers are exact.** In a run from `adev_open` after every
call of which each direction has at most one open stream, each active pointer names exactly the
stream of its direction that is out of standby. -/
theorem one_stream_each_pointers_exact (cs : List HalCall)
    (hone : ∀ k ≤ cs.length, OneEach (run adevOpen (cs.take k)).1) :
    (∀ o, (run adevOpen cs).1.adev.activeOut = some o ↔
      ∃ out, (run adevOpen cs).1.outs o = some out ∧ out.standby = false) ∧
    (∀ i, (run adevOpen cs).1.adev.activeIn = some i ↔
      ∃ inp, (run adevOpen cs).1.ins i = some inp ∧ inp.standby = false) := by
  have hb := (Reachable.init.run cs).books
  have h := One.run books_adevOpen one_adevOpen cs hone
  exact ⟨fun o ↦ ⟨hb.out.active_live o, fun ⟨out, hx, hl⟩ ↦ h.out.live_active o out hx hl⟩,
    fun i ↦ ⟨hb.inp.active_live i, fun ⟨inp, hx, hl⟩ ↦ h.inp.live_active i inp hx hl⟩⟩

/-- A speaker output and a microphone input, started; the output is closed and a second output
opened and started in its place. -/
def reopenedOutputRun : List HalCall :=
  [.openOutputStream audioDeviceOutSpeaker 0 ⟨true, 0, true⟩,
   .openInputStream audioDeviceInBuiltinMic 44100 audioChannelInMono ⟨true, true, 0⟩,
   .outWrite 0 (fun _ ↦ 0) 4 [.plain true],
   .inRead 0 (fun _ ↦ 0) 2 (.plain true 0 fun _ ↦ 0),
   .closeOutputStream 0,
   .openOutputStream audioDeviceOutSpeaker 0 ⟨true, 0, true⟩,
   .outWrite 1 (fun _ ↦ 0) 4 [.plain true]]

theorem reopened_output_pointers_exact :
    (∀ k ≤ reopenedOutputRun.length, OneEach (run adevOpen (reopenedOutputRun.take k)).1) ∧
    (∀ o, (run adevOpen reopenedOutputRun).1.adev.activeOut = some o ↔
      ∃ out, (run adevOpen reopenedOutputRun).1.outs o = some out ∧ out.standby = false) ∧
    (∀ i, (run adevOpen reopenedOutputRun).1.adev.activeIn = some i ↔
      ∃ inp, (run adevOpen reopenedOutputRun).1.ins i = some inp ∧ inp.standby = false) :=
  ⟨by decide, one_stream_each_pointers_exact reopenedOutputRun (by decide)⟩

end Omap4AudioHal
