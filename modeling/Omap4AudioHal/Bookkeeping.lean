import Omap4AudioHal.Entry

/-!
# The coordinator's bookkeeping

The device keeps one active pointer per direction, and every stream a standby flag and a PCM
handle. What the source relies on is that the pointer names a stream that is out of standby, and
that a stream out of standby holds its handle: the rate-group check of a start reaches the other
direction only through the pointer, and the data paths use the handle.

## One direction, once

Both directions are kept the same way, so the invariant is stated once over what the coordinator
sees of a direction (`Side`: the streams, the pointer, the next number to hand out), and the five
things the HAL does to a side are lemmas about it: replace a stream by one with the same standby
flag, put a stream into standby and clear the pointer, start a stream and point at it, add a
fresh stream, and free a stream the pointer does not name. Every entry point is then shown to do
one of these to each side (`Books.apply`), and the invariant holds of every reachable state.

## What does not hold

The converse of either half fails. A start whose `pcm_open` hands back a handle that is not
ready closes it but keeps the pointer in `out->pcm`, so a stream in standby can hold a handle;
and with two output streams the pointer names only the last one started, and the standby of that
one clears it while the other plays on. With one stream a direction the pointer half does hold
(`Omap4AudioHal.SingleStream`).
-/

namespace Omap4AudioHal

/-- What the coordinator sees of one direction. -/
structure Side (α : Type) where
  streams : Nat → Option α
  active : Option Nat
  next : Nat

namespace Side

variable {α : Type}

/-- Replace (or add) the stream with number `x`. -/
def put (d : Side α) (x : Nat) (y : α) : Side α :=
  { d with streams := Function.update d.streams x (some y) }

end Side

section Books

variable {α : Type} (standby hasPcm : α → Bool) (good : α → Prop)

/-- The bookkeeping of one direction: the pointer names an open stream out of standby, every
stream out of standby holds a handle, nothing is open at or past the next number, and every
stream has come about in a `good` way. -/
structure SideBooks (d : Side α) : Prop where
  active_live : ∀ x, d.active = some x → ∃ y, d.streams x = some y ∧ standby y = false
  live_pcm : ∀ x y, d.streams x = some y → standby y = false → hasPcm y = true
  fresh : ∀ x, d.next ≤ x → d.streams x = none
  good_of : ∀ x y, d.streams x = some y → good y

variable {standby hasPcm good} {d : Side α} {x : Nat} {y z : α}

namespace SideBooks

theorem lt_next (h : SideBooks standby hasPcm good d) (hx : d.streams x = some z) : x < d.next :=
  Nat.lt_of_not_le fun hle ↦ by simp [h.fresh x hle] at hx

/-- Replacing an open stream keeps the invariant when the new stream holds a handle if it is
live and the pointer still names a live stream. -/
theorem put_with {active : Option Nat} (h : SideBooks standby hasPcm good d)
    (hx : d.streams x = some z) (hp : standby y = false → hasPcm y = true) (hg : good y)
    (hact : ∀ x', active = some x' →
      ∃ y', (d.put x y).streams x' = some y' ∧ standby y' = false) :
    SideBooks standby hasPcm good { d.put x y with active } where
  active_live := hact
  live_pcm x' y' hy' hl := by
    by_cases hxx : x' = x
    · subst hxx
      simp only [Side.put, Function.update_same, Option.some.injEq] at hy'
      subst hy'
      exact hp hl
    · exact h.live_pcm x' y' (by simpa [Side.put, hxx] using hy') hl
  fresh x' hle := by
    change d.next ≤ x' at hle
    have hne : x' ≠ x := by have := h.lt_next hx; omega
    simp [Side.put, hne, h.fresh x' hle]
  good_of x' y' hy' := by
    by_cases hxx : x' = x
    · subst hxx
      simp only [Side.put, Function.update_same, Option.some.injEq] at hy'
      exact hy' ▸ hg
    · exact h.good_of x' y' (by simpa [Side.put, hxx] using hy')

/-- A stream replaced by one with the same standby flag. -/
theorem put (h : SideBooks standby hasPcm good d) (hx : d.streams x = some z)
    (hs : standby y = standby z) (hp : standby y = false → hasPcm y = true) (hg : good y) :
    SideBooks standby hasPcm good (d.put x y) :=
  h.put_with hx hp hg fun x' hx' ↦ by
    obtain ⟨y', hy', hl⟩ := h.active_live x' hx'
    by_cases hxx : x' = x
    · subst hxx
      rw [hx, Option.some.injEq] at hy'
      exact ⟨y, by simp [Side.put], hs.trans (hy' ▸ hl)⟩
    · exact ⟨y', by simpa [Side.put, hxx] using hy', hl⟩

/-- A stream put into standby, and the pointer cleared. -/
theorem put_standby (h : SideBooks standby hasPcm good d) (hx : d.streams x = some z)
    (hy : standby y = true) (hg : good y) :
    SideBooks standby hasPcm good { d.put x y with active := none } :=
  h.put_with hx (fun hl ↦ by simp [hy] at hl) hg fun _ h ↦ by cases h

/-- A stream started, and the pointer set to it. -/
theorem put_active (h : SideBooks standby hasPcm good d) (hx : d.streams x = some z)
    (hy : standby y = false) (hp : hasPcm y = true) (hg : good y) :
    SideBooks standby hasPcm good { d.put x y with active := some x } :=
  h.put_with hx (fun _ ↦ hp) hg fun _ h ↦ by cases h; exact ⟨y, by simp [Side.put], hy⟩

/-- A fresh stream in standby under the next number. -/
theorem add (h : SideBooks standby hasPcm good d) (hy : standby y = true) (hg : good y) :
    SideBooks standby hasPcm good { d.put d.next y with next := d.next + 1 } where
  active_live x' hx' := by
    obtain ⟨y', hy', hl⟩ := h.active_live x' hx'
    have hne : x' ≠ d.next := by have := h.lt_next hy'; omega
    exact ⟨y', by simpa [Side.put, hne] using hy', hl⟩
  live_pcm x' y' hy' hl := by
    by_cases hxx : x' = d.next
    · subst hxx
      simp only [Side.put, Function.update_same, Option.some.injEq] at hy'
      simp [← hy', hy] at hl
    · exact h.live_pcm x' y' (by simpa [Side.put, hxx] using hy') hl
  fresh x' hle := by
    have hne : x' ≠ d.next := by simp only at hle; omega
    simp only at hle
    simp [Side.put, hne, h.fresh x' (by omega)]
  good_of x' y' hy' := by
    by_cases hxx : x' = d.next
    · subst hxx
      simp only [Side.put, Function.update_same, Option.some.injEq] at hy'
      exact hy' ▸ hg
    · exact h.good_of x' y' (by simpa [Side.put, hxx] using hy')

/-- A stream the pointer does not name, freed. -/
theorem erase (h : SideBooks standby hasPcm good d) (hact : d.active ≠ some x) :
    SideBooks standby hasPcm good { d with streams := Function.update d.streams x none } where
  active_live x' hx' := by
    have hne : x' ≠ x := by rintro rfl; exact hact hx'
    simpa [hne] using h.active_live x' hx'
  live_pcm x' y' hy' hl := by
    by_cases hxx : x' = x
    · subst hxx; simp at hy'
    · exact h.live_pcm x' y' (by simpa [hxx] using hy') hl
  fresh x' hle := by
    by_cases hxx : x' = x
    · subst hxx; simp
    · simpa [hxx] using h.fresh x' hle
  good_of x' y' hy' := by
    by_cases hxx : x' = x
    · subst hxx; simp at hy'
    · exact h.good_of x' y' (by simpa [hxx] using hy')

end SideBooks

end Books

/-! ## The two sides of the HAL -/

namespace Hal

/-- The outputs as the coordinator sees them. -/
def outSide (s : Hal) : Side StreamOut := ⟨s.outs, s.adev.activeOut, s.nextOut⟩

/-- The inputs as the coordinator sees them. -/
def inSide (s : Hal) : Side StreamIn := ⟨s.ins, s.adev.activeIn, s.nextIn⟩

end Hal

/-! ## The life of a stream -/

/-- The states an output stream can be in: opened, then started, put into standby and written
to, in any order. -/
inductive OutputLife : StreamOut → Prop
  | opened (devices flags : UInt32) (mallocOk : Bool) :
      OutputLife (openedOutput devices flags mallocOk)
  | started {out : StreamOut} (dev : UInt32) (ready : Bool) :
      OutputLife out → OutputLife (outputStarted dev out ready)
  | live {out : StreamOut} : OutputLife out → OutputLife { out with standby := false }
  | standby {out : StreamOut} :
      OutputLife out → OutputLife { out with pcm := none, standby := true }
  | data {out out' : StreamOut} : OutputLife out → out.SameSetup out' → OutputLife out'

/-- The states an input stream can be in: opened, then started, put into standby and read from,
in any order. -/
inductive InputLife : StreamIn → Prop
  | opened (rate : Nat) : InputLife (openedInput rate)
  | started {inp : StreamIn} (dev : UInt32) (ready : Bool) :
      InputLife inp → InputLife (inputStarted dev inp ready)
  | live {inp : StreamIn} : InputLife inp → InputLife { inp with standby := false }
  | standby {inp : StreamIn} :
      InputLife inp → InputLife { inp with pcm := none, standby := true }
  | data {inp inp' : StreamIn} : InputLife inp → inp.SameSetup inp' → InputLife inp'

/-- The bookkeeping of both directions. -/
structure Books (s : Hal) : Prop where
  out : SideBooks StreamOut.standby (fun out ↦ out.pcm.isSome) OutputLife s.outSide
  inp : SideBooks StreamIn.standby (fun inp ↦ inp.pcm.isSome) InputLife s.inSide

theorem books_adevOpen : Books adevOpen :=
  ⟨⟨fun _ h ↦ (by cases h), fun _ _ h ↦ (by cases h), fun _ _ ↦ rfl, fun _ _ h ↦ (by cases h)⟩,
    ⟨fun _ h ↦ (by cases h), fun _ _ h ↦ (by cases h), fun _ _ ↦ rfl, fun _ _ h ↦ (by cases h)⟩⟩

/-! ## Standby and start, side by side -/

section Primitives

variable {s : Hal} {o i : Nat} {out : StreamOut} {inp : StreamIn}

theorem doOutStandby_inSide (s : Hal) (o : Nat) : (doOutStandby s o).hal.inSide = s.inSide := by
  unfold doOutStandby; split <;> (try split_ifs) <;> rfl

theorem doInStandby_outSide (s : Hal) (i : Nat) : (doInStandby s i).hal.outSide = s.outSide := by
  unfold doInStandby; split <;> (try split_ifs) <;> rfl

theorem inStandbyOnClash_outSide (s : Hal) (r : Nat) :
    (inStandbyOnClash s r).hal.outSide = s.outSide := by
  unfold inStandbyOnClash
  repeat' split
  all_goals first | rfl | exact doInStandby_outSide s _

theorem outStandbyOnClash_inSide (s : Hal) (r : Nat) :
    (outStandbyOnClash s r).hal.inSide = s.inSide := by
  unfold outStandbyOnClash
  repeat' split
  all_goals first | rfl | exact doOutStandby_inSide s _

namespace Books

theorem doOutStandby (h : Books s) (o : Nat) : Books (doOutStandby s o).hal := by
  unfold Omap4AudioHal.doOutStandby
  split
  next out hx =>
    split_ifs
    · exact h
    · exact ⟨h.out.put_standby hx rfl (.standby (h.out.good_of o out hx)), h.inp⟩
  · exact h

theorem doInStandby (h : Books s) (i : Nat) : Books (doInStandby s i).hal := by
  unfold Omap4AudioHal.doInStandby
  split
  next inp hx =>
    split_ifs
    · exact h
    · exact ⟨h.out, h.inp.put_standby hx rfl (.standby (h.inp.good_of i inp hx))⟩
  · exact h

theorem inStandbyOnClash (h : Books s) (r : Nat) : Books (inStandbyOnClash s r).hal := by
  unfold Omap4AudioHal.inStandbyOnClash
  repeat' split
  all_goals first | exact h | exact h.doInStandby _

theorem outStandbyOnClash (h : Books s) (r : Nat) : Books (outStandbyOnClash s r).hal := by
  unfold Omap4AudioHal.outStandbyOnClash
  repeat' split
  all_goals first | exact h | exact h.doOutStandby _

end Books

theorem startOutputStream_outSide (hx : s.outs o = some out) (ready : Bool) :
    (startOutputStream s o ready).hal.outSide =
      { s.outSide.put o (outputStarted s.adev.outDevice out ready) with
        active := if ready then some o else s.adev.activeOut } := by
  have hc := inStandbyOnClash_outSide s (outputGeometry s.adev.outDevice out).stream.pcmConfig.rate
  simp only [Hal.outSide, Side.mk.injEq] at hc
  cases ready <;> simp [startOutputStream, hx, Hal.outSide, Side.put, Hal.setOut, hc]

theorem startOutputStream_inSide (hx : s.outs o = some out) (ready : Bool) :
    (startOutputStream s o ready).hal.inSide =
      (inStandbyOnClash s (outputGeometry s.adev.outDevice out).stream.pcmConfig.rate).hal.inSide := by
  cases ready <;> simp [startOutputStream, hx, Hal.inSide]

theorem startInputStream_inSide (hx : s.ins i = some inp) (ready : Bool) :
    (startInputStream s i ready).hal.inSide =
      { s.inSide.put i (inputStarted s.adev.inDevice inp ready) with
        active := if ready then some i else s.adev.activeIn } := by
  have hc := outStandbyOnClash_inSide s (inputGeometry s.adev.inDevice inp).stream.pcmConfig.rate
  simp only [Hal.inSide, Side.mk.injEq] at hc
  cases ready <;> simp [startInputStream, hx, Hal.inSide, Side.put, Hal.setIn, hc]

theorem startInputStream_outSide (hx : s.ins i = some inp) (ready : Bool) :
    (startInputStream s i ready).hal.outSide =
      (outStandbyOnClash s (inputGeometry s.adev.inDevice inp).stream.pcmConfig.rate).hal.outSide := by
  cases ready <;> simp [startInputStream, hx, Hal.outSide]

/-- A start that opened its PCM, followed by the pass's own update of the stream. -/
theorem startOutputStream_setOut_outSide (hx : s.outs o = some out) (y : StreamOut) :
    ((startOutputStream s o true).hal.setOut o y).outSide = { s.outSide.put o y with active := some o } := by
  have e := startOutputStream_outSide hx true
  simp only [Hal.outSide, Side.put, Side.mk.injEq, if_true] at e
  simp [Hal.outSide, Side.put, Hal.setOut, e]

theorem startInputStream_setIn_inSide (hx : s.ins i = some inp) (y : StreamIn) :
    ((startInputStream s i true).hal.setIn i y).inSide = { s.inSide.put i y with active := some i } := by
  have e := startInputStream_inSide hx true
  simp only [Hal.inSide, Side.put, Side.mk.injEq, if_true] at e
  simp [Hal.inSide, Side.put, Hal.setIn, e]

namespace Books

theorem startOutputStream_fail (h : Books s) (hx : s.outs o = some out)
    (hsb : out.standby = true) : Books (startOutputStream s o false).hal where
  out := by
    rw [startOutputStream_outSide hx]
    exact h.out.put hx (by simp) (by simp [hsb]) (.started _ _ (h.out.good_of o out hx))
  inp := by rw [startOutputStream_inSide hx]; exact (h.inStandbyOnClash _).inp

theorem startOutputStream_ok (h : Books s) (hx : s.outs o = some out) {y : StreamOut}
    (hy : y.standby = false) (hp : y.pcm.isSome) (hg : OutputLife y) :
    Books ((startOutputStream s o true).hal.setOut o y) where
  out := by
    rw [startOutputStream_setOut_outSide hx]
    exact h.out.put_active hx hy hp hg
  inp := by
    change SideBooks _ _ _ (startOutputStream s o true).hal.inSide
    rw [startOutputStream_inSide hx]
    exact (h.inStandbyOnClash _).inp

theorem startInputStream_fail (h : Books s) (hx : s.ins i = some inp)
    (hsb : inp.standby = true) : Books (startInputStream s i false).hal where
  out := by rw [startInputStream_outSide hx]; exact (h.outStandbyOnClash _).out
  inp := by
    rw [startInputStream_inSide hx]
    exact h.inp.put hx (by simp) (by simp [hsb]) (.started _ _ (h.inp.good_of i inp hx))

theorem startInputStream_ok (h : Books s) (hx : s.ins i = some inp) {y : StreamIn}
    (hy : y.standby = false) (hp : y.pcm.isSome) (hg : InputLife y) :
    Books ((startInputStream s i true).hal.setIn i y) where
  out := by
    change SideBooks _ _ _ (startInputStream s i true).hal.outSide
    rw [startInputStream_outSide hx]
    exact (h.outStandbyOnClash _).out
  inp := by
    rw [startInputStream_setIn_inSide hx]
    exact h.inp.put_active hx hy hp hg

theorem setOut_same (h : Books s) (hx : s.outs o = some out) {y : StreamOut}
    (hs : y.standby = out.standby) (hp : y.pcm = out.pcm) (hg : OutputLife y) :
    Books (s.setOut o y) :=
  ⟨h.out.put hx hs (fun hl ↦ hp ▸ h.out.live_pcm o out hx (hs ▸ hl)) hg, h.inp⟩

theorem setIn_same (h : Books s) (hx : s.ins i = some inp) {y : StreamIn}
    (hs : y.standby = inp.standby) (hp : y.pcm = inp.pcm) (hg : InputLife y) :
    Books (s.setIn i y) :=
  ⟨h.out, h.inp.put hx hs (fun hl ↦ hp ▸ h.inp.live_pcm i inp hx (hs ▸ hl)) hg⟩

end Books

end Primitives

/-! ## The entry points -/

namespace Books

variable {s : Hal}

/-- Anything that leaves both sides as they were keeps the bookkeeping. -/
theorem of_sides {s' : Hal} (h : Books s) (ho : s'.outSide = s.outSide)
    (hi : s'.inSide = s.inSide) : Books s' :=
  ⟨ho ▸ h.out, hi ▸ h.inp⟩

theorem outWritePass (h : Books s) (o bytes : Nat) (a : WriteAttempt) (l : WriteLocals) :
    Books (outWritePass s o bytes a l).hal := by
  cases hx : s.outs o with
  | none => simp [Omap4AudioHal.outWritePass, hx, h]
  | some out =>
    cases hsb : out.standby
    · rw [outWritePass_of_live hx hsb]
      have hb := writeBody_sameSetup o (scoOn s) a { out with standby := false } l
      exact h.setOut_same hx (hb.standby.trans hsb.symm) hb.pcm
        (.data (.live (h.out.good_of o out hx)) hb)
    · cases hr : a.ready
      · rw [outWritePass_of_open_fails hx hsb hr]
        exact h.startOutputStream_fail hx hsb
      · rw [outWritePass_of_opened hx hsb hr]
        have hb := writeBody_sameSetup o (scoOn (startOutputStream s o true).hal) a
          { outputStarted s.adev.outDevice out true with standby := false } l
        exact h.startOutputStream_ok hx hb.standby (by rw [hb.pcm]; rfl)
          (.data (.live (.started _ _ (h.out.good_of o out hx))) hb)

theorem outWriteLoop (h : Books s) (o bytes : Nat) (l : WriteLocals) (as : List WriteAttempt) :
    Books (outWriteLoop o bytes s l as).hal := by
  induction as generalizing s l with
  | nil => exact h
  | cons a as ih =>
    have hp := h.outWritePass o bytes a l
    simp only [Omap4AudioHal.outWriteLoop]
    split_ifs
    · exact ih (hp.doOutStandby o) _
    · exact hp

theorem inRead (h : Books s) (i : Nat) (client : Nat → UInt16) (bytes : Nat) (env : ReadEnv) :
    Books (inRead s i client bytes env).hal := by
  cases hx : s.ins i with
  | none => simp [Omap4AudioHal.inRead, hx, h]
  | some inp =>
    cases hsb : inp.standby
    · rw [inRead_of_live hx hsb, inReadData_hal]
      have hr := readPath_sameSetup inp i bytes client env
      exact h.setIn_same hx hr.standby hr.pcm (.data (h.inp.good_of i inp hx) hr)
    · cases hr : env.ready
      · rw [inRead_of_open_fails hx hsb hr]
        exact h.startInputStream_fail hx hsb
      · rw [inRead_of_opened hx hsb hr]
        dsimp only
        rw [inReadData_hal]
        have hp := readPath_sameSetup { inputStarted s.adev.inDevice inp true with standby := false }
          i bytes client env
        exact h.startInputStream_ok hx hp.standby (by rw [hp.pcm]; simp)
          (.data (.live (.started _ _ (h.inp.good_of i inp hx))) hp)

theorem doOutStandby_activeOut_ne (h : Books s) (o : Nat) :
    (Omap4AudioHal.doOutStandby s o).hal.adev.activeOut ≠ some o := by
  intro hact
  unfold Omap4AudioHal.doOutStandby at hact
  split at hact
  next out hx =>
    split_ifs at hact with hsb
    · obtain ⟨y, hy, hl⟩ := h.out.active_live o hact
      simp only [Hal.outSide, hx, Option.some.injEq] at hy
      simp [← hy, hsb] at hl
  next hx =>
    obtain ⟨y, hy, -⟩ := h.out.active_live o hact
    simp [Hal.outSide, hx] at hy

theorem doInStandby_activeIn_ne (h : Books s) (i : Nat) :
    (Omap4AudioHal.doInStandby s i).hal.adev.activeIn ≠ some i := by
  intro hact
  unfold Omap4AudioHal.doInStandby at hact
  split at hact
  next inp hx =>
    split_ifs at hact with hsb
    · obtain ⟨y, hy, hl⟩ := h.inp.active_live i hact
      simp only [Hal.inSide, hx, Option.some.injEq] at hy
      simp [← hy, hsb] at hl
  next hx =>
    obtain ⟨y, hy, -⟩ := h.inp.active_live i hact
    simp [Hal.inSide, hx] at hy

theorem adevOpenOutputStream (h : Books s) (devices flags : UInt32) (env : OpenOutEnv) :
    Books (adevOpenOutputStream s devices flags env).hal := by
  unfold Omap4AudioHal.adevOpenOutputStream
  by_cases hc : (!env.callocOk) = true
  · rw [if_pos hc]; exact h
  rw [if_neg hc]
  dsimp only
  by_cases hr : (devices &&& audioDeviceOutAllSco != 0) = true ∧ env.createStatus ≠ 0
  · rw [if_pos hr]; exact h
  rw [if_neg hr]
  exact ⟨h.out.add rfl (.opened _ _ _), h.inp⟩

theorem adevCloseOutputStream (h : Books s) (o : Nat) :
    Books (adevCloseOutputStream s o).hal :=
  ⟨(h.doOutStandby o).out.erase (h.doOutStandby_activeOut_ne o), (h.doOutStandby o).inp⟩

theorem adevOpenInputStream (h : Books s) (devices : UInt32) (rate : Nat) (mask : UInt32)
    (env : OpenInEnv) : Books (adevOpenInputStream s devices rate mask env).hal := by
  dsimp only [Omap4AudioHal.adevOpenInputStream]
  split_ifs
  · exact h
  · exact h
  · exact h.of_sides rfl rfl
  · exact h.of_sides rfl rfl
  · exact ⟨h.out, h.inp.add rfl (.opened _)⟩

theorem adevCloseInputStream (h : Books s) (i : Nat) :
    Books (adevCloseInputStream s i).hal :=
  ⟨(h.doInStandby i).out, (h.doInStandby i).inp.erase (h.doInStandby_activeIn_ne i)⟩

theorem outSetParameters (h : Books s) (o : Nat) (routing : Option UInt32) :
    Books (outSetParameters s o routing).hal := by
  unfold Omap4AudioHal.outSetParameters
  split
  · exact h
  · split_ifs
    · exact (h.doOutStandby o).of_sides rfl rfl
    · exact h.of_sides rfl rfl
    · exact h

theorem inSetParameters (h : Books s) (i : Nat) (routing : Option UInt32) :
    Books (inSetParameters s i routing).hal := by
  dsimp only [Omap4AudioHal.inSetParameters]
  split
  · exact h
  · split_ifs
    · exact (h.doInStandby i).of_sides rfl rfl
    · exact h.of_sides rfl rfl
    · exact h

theorem adevSetParameters (h : Books s) (orientation screenState : Option String) :
    Books (adevSetParameters s orientation screenState) := by
  cases orientation <;> cases screenState <;> dsimp only [Omap4AudioHal.adevSetParameters] <;>
    (try split_ifs) <;> exact h.of_sides rfl rfl

/-- **Every call keeps the bookkeeping.** -/
theorem apply (h : Books s) (c : HalCall) : Books (c.apply s).1 := by
  cases c with
  | openOutputStream devices flags env => exact h.adevOpenOutputStream devices flags env
  | closeOutputStream o => exact h.adevCloseOutputStream o
  | openInputStream devices rate mask env => exact h.adevOpenInputStream devices rate mask env
  | closeInputStream i => exact h.adevCloseInputStream i
  | outWrite o client bytes attempts => exact h.outWriteLoop o bytes _ attempts
  | outStandby o => exact h.doOutStandby o
  | outSetParameters o routing => exact h.outSetParameters o routing
  | inRead i client bytes env => exact h.inRead i client bytes env
  | inStandby i => exact h.doInStandby i
  | inSetParameters i routing => exact h.inSetParameters i routing
  | setParameters orientation screenState => exact h.adevSetParameters orientation screenState
  | setMicMute state => exact h.of_sides rfl rfl

end Books

theorem Reachable.books {s : Hal} (h : Reachable s) : Books s := by
  induction h with
  | init => exact books_adevOpen
  | step c _ ih => exact ih.apply c

/-! ## Environments for concrete runs -/

/-- A pass in which the PCM opens or not as `ready` says, every allocation succeeds, the
converter hands its input through, the kernel buffer is empty and the write succeeds. -/
def WriteAttempt.plain (ready : Bool) : WriteAttempt :=
  ⟨ready, 0, true, fun x n _ ↦ ⟨n, n, x⟩, [], 0⟩

/-- A read in which the PCM opens or not as `ready` says and every `pcm_read` returns `status`
with the samples `data`; the converter produces nothing. -/
def ReadEnv.plain (ready : Bool) (status : Int) (data : Nat → UInt16) : ReadEnv :=
  ⟨ready, ⟨status, data⟩, []⟩

/-- **The half of the bookkeeping that holds.** In every reachable state each active pointer names
an open stream that is out of standby and holds a PCM handle. -/
theorem active_pointers_name_live_streams {s : Hal} (h : Reachable s) :
    (∀ o, s.adev.activeOut = some o →
      ∃ out, s.outs o = some out ∧ out.standby = false ∧ out.pcm.isSome) ∧
    (∀ i, s.adev.activeIn = some i →
      ∃ inp, s.ins i = some inp ∧ inp.standby = false ∧ inp.pcm.isSome) := by
  have hb := h.books
  refine ⟨fun o ho ↦ ?_, fun i hi ↦ ?_⟩
  · obtain ⟨out, hx, hl⟩ := hb.out.active_live o ho
    exact ⟨out, hx, hl, hb.out.live_pcm o out hx hl⟩
  · obtain ⟨inp, hx, hl⟩ := hb.inp.active_live i hi
    exact ⟨inp, hx, hl, hb.inp.live_pcm i inp hx hl⟩

/-- A speaker output and a built-in microphone input, each started once. -/
def outputAndInputStartedRun : List HalCall :=
  [.openOutputStream audioDeviceOutSpeaker 0 ⟨true, 0, true⟩,
   .openInputStream audioDeviceInBuiltinMic 44100 audioChannelInMono ⟨true, true, 0⟩,
   .outWrite 0 (fun _ ↦ 0) 4 [.plain true],
   .inRead 0 (fun _ ↦ 0) 2 (.plain true 0 fun _ ↦ 0)]

theorem output_and_input_started_pointers_live :
    (∀ o, (run adevOpen outputAndInputStartedRun).1.adev.activeOut = some o →
      ∃ out, (run adevOpen outputAndInputStartedRun).1.outs o = some out ∧
        out.standby = false ∧ out.pcm.isSome) ∧
    (∀ i, (run adevOpen outputAndInputStartedRun).1.adev.activeIn = some i →
      ∃ inp, (run adevOpen outputAndInputStartedRun).1.ins i = some inp ∧
        inp.standby = false ∧ inp.pcm.isSome) :=
  active_pointers_name_live_streams (Reachable.init.run outputAndInputStartedRun)

/-- The speaker output, opened and written once with a `pcm_open` that fails. -/
def failedStartRun : List HalCall :=
  [.openOutputStream audioDeviceOutSpeaker 0 ⟨true, 0, true⟩,
   .outWrite 0 (fun _ ↦ 0) 4 [.plain false]]

/-- Two speaker outputs started one after the other; the second goes into standby. -/
def twoOutputsRun : List HalCall :=
  [.openOutputStream audioDeviceOutSpeaker 0 ⟨true, 0, true⟩,
   .openOutputStream audioDeviceOutSpeaker 0 ⟨true, 0, true⟩,
   .outWrite 0 (fun _ ↦ 0) 4 [.plain true],
   .outWrite 1 (fun _ ↦ 0) 4 [.plain true],
   .outStandby 1]

/-- Neither converse holds: after a failed start the stream is in standby and holds a handle,
and after the second of two outputs goes into standby the first plays with no active pointer. -/
theorem standby_and_pointer_diverge_from_handles :
    Reachable (run adevOpen failedStartRun).1 ∧
    ((run adevOpen failedStartRun).1.outs 0).map (fun out ↦ (out.standby, out.pcm.isSome)) =
      some (true, true) ∧
    Reachable (run adevOpen twoOutputsRun).1 ∧
    (run adevOpen twoOutputsRun).1.adev.activeOut = none ∧
    ((run adevOpen twoOutputsRun).1.outs 0).map (·.standby) = some false :=
  ⟨Reachable.init.run _, by decide, Reachable.init.run _, by decide, by decide⟩

end Omap4AudioHal
