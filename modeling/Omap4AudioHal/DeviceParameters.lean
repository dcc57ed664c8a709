import Omap4AudioHal.Entry

/-!
# What `adev_set_parameters` reaches

`adev_set_parameters` writes three fields of the device: the orientation, the `low_power` flag of
the `screen_state` key, and, on a new orientation, the route of the current devices. No stream
reads any of the three. `select_devices` computes the route from the two device masks alone, the
geometry of a start comes from the stream's own `low_power` (set from the deep-buffer flag when
the stream is opened), and the route is only ever written. So neither key reaches a stream or an
endpoint.

## Two runs

`Hal.withUnread` replaces the three fields. Every part of the HAL commutes with it: run on a state
whose fields were replaced, it makes the same collaborator calls, returns the same value and
leaves its own state with the same fields replaced; a call that writes the route leaves its own
route on both sides (`HalCall.apply_withUnread`). Two runs of the same calls from states that
differ at most in the three fields therefore make the same calls and keep the same streams, and an
`adev_set_parameters` call inserted anywhere in a run from `adev_open` changes neither
(`set_parameters_changes_no_call`).
-/

namespace Omap4AudioHal

/-- The fields of the device that no stream reads: the orientation, the `low_power` flag of the
screen state, and the route last applied to the mixer. -/
structure UnreadFields where
  orientation : Orientation
  lowPower : Bool
  route : List String

/-- The state with the unread fields of the device replaced. -/
def Hal.withUnread (s : Hal) (u : UnreadFields) : Hal :=
  { s with adev := { s.adev with orientation := u.orientation, lowPower := u.lowPower,
                                 route := u.route } }

/-- An outcome whose state has the unread fields of the device replaced. -/
def Outcome.withUnread {α : Type} (r : Outcome α) (u : UnreadFields) : Outcome α :=
  ⟨r.hal.withUnread u, r.events, r.ret⟩

/-- A read's outcome whose state has the unread fields of the device replaced. -/
def ReadOutcome.withUnread (r : ReadOutcome) (u : UnreadFields) : ReadOutcome :=
  { r with hal := r.hal.withUnread u }

namespace Hal

variable (s : Hal) (u : UnreadFields)

@[simp] theorem withUnread_outs : (s.withUnread u).outs = s.outs := rfl
@[simp] theorem withUnread_ins : (s.withUnread u).ins = s.ins := rfl
@[simp] theorem withUnread_adev :
    (s.withUnread u).adev =
      { s.adev with orientation := u.orientation, lowPower := u.lowPower, route := u.route } := rfl

theorem withUnread_withUnread (u' : UnreadFields) : (s.withUnread u).withUnread u' = s.withUnread u' :=
  rfl

end Hal

section Outcome

variable {α : Type} (r : Outcome α) (u : UnreadFields)

@[simp] theorem Outcome.withUnread_hal : (r.withUnread u).hal = r.hal.withUnread u := rfl
@[simp] theorem Outcome.withUnread_events : (r.withUnread u).events = r.events := rfl
@[simp] theorem Outcome.withUnread_ret : (r.withUnread u).ret = r.ret := rfl

end Outcome

/-! ## Every part commutes with the unread fields -/

section Commute

variable (s : Hal) (u : UnreadFields)

theorem doOutStandby_withUnread (o : Nat) :
    doOutStandby (s.withUnread u) o = (doOutStandby s o).withUnread u := by
  rcases hx : s.outs o with _ | out <;> simp only [doOutStandby, Hal.withUnread_outs, hx]
  · rfl
  · split_ifs <;> rfl

theorem doInStandby_withUnread (i : Nat) :
    doInStandby (s.withUnread u) i = (doInStandby s i).withUnread u := by
  rcases hx : s.ins i with _ | inp <;> simp only [doInStandby, Hal.withUnread_ins, hx]
  · rfl
  · split_ifs <;> rfl

theorem inStandbyOnClash_withUnread (r : Nat) :
    inStandbyOnClash (s.withUnread u) r = (inStandbyOnClash s r).withUnread u := by
  unfold inStandbyOnClash
  simp only [Hal.withUnread_adev, Hal.withUnread_ins]
  repeat' split
  all_goals first | rfl | exact doInStandby_withUnread s u _

theorem outStandbyOnClash_withUnread (r : Nat) :
    outStandbyOnClash (s.withUnread u) r = (outStandbyOnClash s r).withUnread u := by
  unfold outStandbyOnClash
  simp only [Hal.withUnread_adev, Hal.withUnread_outs]
  repeat' split
  all_goals first | rfl | exact doOutStandby_withUnread s u _

theorem startOutputStream_withUnread (o : Nat) (ready : Bool) :
    startOutputStream (s.withUnread u) o ready = (startOutputStream s o ready).withUnread u := by
  rcases hx : s.outs o with _ | out <;>
    simp only [startOutputStream, Hal.withUnread_outs, Hal.withUnread_adev, hx]
  · rfl
  · rw [inStandbyOnClash_withUnread]
    cases ready <;> rfl

theorem startInputStream_withUnread (i : Nat) (ready : Bool) :
    startInputStream (s.withUnread u) i ready = (startInputStream s i ready).withUnread u := by
  rcases hx : s.ins i with _ | inp <;>
    simp only [startInputStream, Hal.withUnread_ins, Hal.withUnread_adev, hx]
  · rfl
  · rw [outStandbyOnClash_withUnread]
    cases ready <;> rfl

theorem outWritePass_withUnread (o bytes : Nat) (a : WriteAttempt) (l : WriteLocals) :
    outWritePass (s.withUnread u) o bytes a l = (outWritePass s o bytes a l).withUnread u := by
  rcases hx : s.outs o with _ | out
  · simp only [outWritePass, Hal.withUnread_outs, hx]; rfl
  · have hx' : (s.withUnread u).outs o = some out := hx
    cases hsb : out.standby
    · rw [outWritePass_of_live hx hsb, outWritePass_of_live hx' hsb]; rfl
    · cases hr : a.ready
      · rw [outWritePass_of_open_fails hx hsb hr, outWritePass_of_open_fails hx' hsb hr,
          startOutputStream_withUnread]
        rfl
      · rw [outWritePass_of_opened hx hsb hr, outWritePass_of_opened hx' hsb hr]
        simp only [startOutputStream_withUnread, Hal.withUnread_adev]
        rfl

theorem outWriteLoop_withUnread (o bytes : Nat) (l : WriteLocals) (as : List WriteAttempt) :
    outWriteLoop o bytes (s.withUnread u) l as = (outWriteLoop o bytes s l as).withUnread u := by
  induction as generalizing s l with
  | nil => rfl
  | cons a as ih =>
    simp only [outWriteLoop, outWritePass_withUnread, Outcome.withUnread_ret,
      Outcome.withUnread_hal, doOutStandby_withUnread, ih]
    split_ifs <;> rfl

theorem inReadData_withUnread (i : Nat) (inp : StreamIn) (client : Nat → UInt16) (bytes : Nat)
    (env : ReadEnv) (delay : List Event) :
    inReadData (s.withUnread u) i inp client bytes env delay =
      (inReadData s i inp client bytes env delay).withUnread u := by
  dsimp only [inReadData]
  split <;> rfl

theorem inRead_withUnread (i : Nat) (client : Nat → UInt16) (bytes : Nat) (env : ReadEnv) :
    inRead (s.withUnread u) i client bytes env = (inRead s i client bytes env).withUnread u := by
  rcases hx : s.ins i with _ | inp
  · simp only [inRead, Hal.withUnread_ins, hx]; rfl
  · have hx' : (s.withUnread u).ins i = some inp := hx
    cases hsb : inp.standby
    · rw [inRead_of_live hx hsb, inRead_of_live hx' hsb, inReadData_withUnread]
    · cases hr : env.ready
      · rw [inRead_of_open_fails hx hsb hr, inRead_of_open_fails hx' hsb hr,
          startInputStream_withUnread]
        rfl
      · rw [inRead_of_opened hx hsb hr, inRead_of_opened hx' hsb hr]
        simp only [startInputStream_withUnread, Outcome.withUnread_hal, Hal.withUnread_adev,
          inReadData_withUnread]
        rfl

theorem adevCloseOutputStream_withUnread (o : Nat) :
    adevCloseOutputStream (s.withUnread u) o = (adevCloseOutputStream s o).withUnread u := by
  simp only [adevCloseOutputStream, doOutStandby_withUnread]; rfl

theorem adevCloseInputStream_withUnread (i : Nat) :
    adevCloseInputStream (s.withUnread u) i = (adevCloseInputStream s i).withUnread u := by
  simp only [adevCloseInputStream, doInStandby_withUnread]; rfl

/-! The calls that route write the route on both sides alike. -/

theorem adevOpenOutputStream_withUnread (devices flags : UInt32) (env : OpenOutEnv) :
    ∃ u', adevOpenOutputStream (s.withUnread u) devices flags env =
      (adevOpenOutputStream s devices flags env).withUnread u' := by
  unfold adevOpenOutputStream
  split_ifs
  · exact ⟨u, rfl⟩
  · exact ⟨u, rfl⟩
  · exact ⟨{ u with route := _ }, rfl⟩

theorem adevOpenInputStream_withUnread (devices : UInt32) (rate : Nat) (mask : UInt32)
    (env : OpenInEnv) :
    ∃ u', adevOpenInputStream (s.withUnread u) devices rate mask env =
      (adevOpenInputStream s devices rate mask env).withUnread u' := by
  unfold adevOpenInputStream
  by_cases h₁ : mask ≠ audioChannelInMono
  · simp only [if_pos h₁]; exact ⟨u, rfl⟩
  by_cases h₂ : (!env.callocOk) = true
  · simp only [if_neg h₁, if_pos h₂]; exact ⟨u, rfl⟩
  simp only [if_neg h₁, if_neg h₂]
  split_ifs <;> exact ⟨{ u with route := _ }, rfl⟩

theorem outSetParameters_withUnread (o : Nat) (routing : Option UInt32) :
    ∃ u', outSetParameters (s.withUnread u) o routing = (outSetParameters s o routing).withUnread u' := by
  cases routing with
  | none => exact ⟨u, rfl⟩
  | some val =>
    simp only [outSetParameters, Hal.withUnread_adev]
    split_ifs
    · simp only [doOutStandby_withUnread, Outcome.withUnread_hal, Outcome.withUnread_events]
      exact ⟨{ u with route := _ }, rfl⟩
    · exact ⟨{ u with route := _ }, rfl⟩
    · exact ⟨u, rfl⟩

theorem inSetParameters_withUnread (i : Nat) (routing : Option UInt32) :
    ∃ u', inSetParameters (s.withUnread u) i routing = (inSetParameters s i routing).withUnread u' := by
  cases routing with
  | none => exact ⟨u, rfl⟩
  | some raw =>
    simp only [inSetParameters, Hal.withUnread_adev]
    split_ifs
    · simp only [doInStandby_withUnread, Outcome.withUnread_hal, Outcome.withUnread_events]
      exact ⟨{ u with route := _ }, rfl⟩
    · exact ⟨{ u with route := _ }, rfl⟩
    · exact ⟨u, rfl⟩

/-- `adev_set_parameters` writes the unread fields and nothing else. -/
theorem adevSetParameters_eq_withUnread (orientation screenState : Option String) :
    ∃ u', adevSetParameters s orientation screenState = s.withUnread u' := by
  rcases orientation with _ | v <;> rcases screenState with _ | w <;>
    dsimp only [adevSetParameters] <;> (try split_ifs) <;> exact ⟨⟨_, _, _⟩, rfl⟩

end Commute

/-! ## Runs -/

/-- **A call does the same from states that differ only in the unread fields.** It makes the same
collaborator calls and leaves states that again differ at most in those fields. -/
theorem HalCall.apply_withUnread (c : HalCall) (s : Hal) (u : UnreadFields) :
    ∃ u', c.apply (s.withUnread u) = ((c.apply s).1.withUnread u', (c.apply s).2) := by
  cases c with
  | openOutputStream devices flags env =>
    obtain ⟨u', h⟩ := adevOpenOutputStream_withUnread s u devices flags env
    exact ⟨u', by simp only [HalCall.apply, h]; rfl⟩
  | closeOutputStream o =>
    exact ⟨u, by simp only [HalCall.apply, adevCloseOutputStream_withUnread]; rfl⟩
  | openInputStream devices rate mask env =>
    obtain ⟨u', h⟩ := adevOpenInputStream_withUnread s u devices rate mask env
    exact ⟨u', by simp only [HalCall.apply, h]; rfl⟩
  | closeInputStream i =>
    exact ⟨u, by simp only [HalCall.apply, adevCloseInputStream_withUnread]; rfl⟩
  | outWrite o client bytes attempts =>
    exact ⟨u, by simp only [HalCall.apply, Omap4AudioHal.outWrite, outWriteLoop_withUnread]; rfl⟩
  | outStandby o => exact ⟨u, by simp only [HalCall.apply, doOutStandby_withUnread]; rfl⟩
  | outSetParameters o routing =>
    obtain ⟨u', h⟩ := outSetParameters_withUnread s u o routing
    exact ⟨u', by simp only [HalCall.apply, h]; rfl⟩
  | inRead i client bytes env => exact ⟨u, by simp only [HalCall.apply, inRead_withUnread]; rfl⟩
  | inStandby i => exact ⟨u, by simp only [HalCall.apply, doInStandby_withUnread]; rfl⟩
  | inSetParameters i routing =>
    obtain ⟨u', h⟩ := inSetParameters_withUnread s u i routing
    exact ⟨u', by simp only [HalCall.apply, h]; rfl⟩
  | setParameters orientation screenState =>
    obtain ⟨u₁, h₁⟩ := adevSetParameters_eq_withUnread (s.withUnread u) orientation screenState
    obtain ⟨u₂, h₂⟩ := adevSetParameters_eq_withUnread s orientation screenState
    exact ⟨u₁, by simp only [HalCall.apply, h₁, h₂, Hal.withUnread_withUnread]⟩
  | setMicMute state => exact ⟨u, rfl⟩

theorem run_withUnread (cs : List HalCall) (s : Hal) (u : UnreadFields) :
    ∃ u', run (s.withUnread u) cs = ((run s cs).1.withUnread u', (run s cs).2) := by
  induction cs generalizing s u with
  | nil => exact ⟨u, rfl⟩
  | cons c cs ih =>
    obtain ⟨u₁, h₁⟩ := HalCall.apply_withUnread c s u
    obtain ⟨u₂, h₂⟩ := ih (c.apply s).1 u₁
    exact ⟨u₂, by rw [run_cons, run_cons, h₁, h₂]⟩

/-- **`adev_set_parameters` reaches no stream.** A call of `adev_set_parameters`, with any
orientation and any screen state, inserted anywhere in a run from `adev_open`, changes none of the
collaborator calls of the run (no `pcm_open` geometry, no byte count, no sleep) and none of its
streams. -/
theorem set_parameters_changes_no_call (pre post : List HalCall)
    (orientation screenState : Option String) :
    (run adevOpen (pre ++ .setParameters orientation screenState :: post)).2 =
        (run adevOpen (pre ++ post)).2 ∧
      (run adevOpen (pre ++ .setParameters orientation screenState :: post)).1.outs =
        (run adevOpen (pre ++ post)).1.outs ∧
      (run adevOpen (pre ++ .setParameters orientation screenState :: post)).1.ins =
        (run adevOpen (pre ++ post)).1.ins := by
  obtain ⟨u, hu⟩ := adevSetParameters_eq_withUnread (run adevOpen pre).1 orientation screenState
  obtain ⟨u', h⟩ := run_withUnread post (run adevOpen pre).1 u
  have hset : (HalCall.setParameters orientation screenState).apply (run adevOpen pre).1 =
      ((run adevOpen pre).1.withUnread u, []) := by
    simp only [HalCall.apply, hu]
  simp only [run_append, run_cons, hset, h, List.nil_append, Hal.withUnread_outs,
    Hal.withUnread_ins, and_self]

end Omap4AudioHal
