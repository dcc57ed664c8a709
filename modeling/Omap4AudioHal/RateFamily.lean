import Omap4AudioHal.Capture
import Omap4AudioHal.Playback

/-!
# Rate families

All PCMs open at one time must share a clock family: multiples of 8 kHz (SCO, HDMI) or of
11.025 kHz (44.1 kHz playback and capture). Each start compares the rate it is about to open at
with the rate of the stream the other direction's active pointer names, and puts that stream into
standby on a clash.

## Through the pointer only

The check sees the other direction only through its single active pointer. With two output
streams the pointer names the one started last, and when that one goes into standby (forced by
an SCO capture, for instance) the first output plays on unseen: an SCO capture at 8 kHz and a
44.1 kHz playback then run together (`two_outputs_break_rate_exclusion`).

## Forced standbys

Under a fixed routing whose two start rates clash, a write and a read evict each other at every
turn (`alternating_starts_force_repeated_standbys`). When they are of one family, a run of writes
to one output and reads from one input forces at most one standby: `PairStep` packages what one
call keeps (the situation, at most one forced standby, and calm after it), and `PairStep.trans`
composes calls, so the bound for a whole run (`forced_standbys_at_most_one`) is an induction over
the calls.
-/

namespace Omap4AudioHal

/-- No output and input stream out of standby run at rates of different families. -/
def RateExclusion (s : Hal) : Prop :=
  ∀ o i out inp, s.outs o = some out → s.ins i = some inp → out.standby = false →
    inp.standby = false → sameRateFamily out.pcmConfig.rate inp.pcmConfig.rate

/-- Two speaker outputs and an SCO input: both outputs start, then the capture starts, forcing
the output the pointer names into standby. -/
def twoOutputsScoRun : List HalCall :=
  [.openOutputStream audioDeviceOutSpeaker 0 ⟨true, 0, true⟩,
   .openOutputStream audioDeviceOutSpeaker 0 ⟨true, 0, true⟩,
   .openInputStream audioDeviceInAllSco 8000 audioChannelInMono ⟨true, true, 0⟩,
   .outWrite 0 (fun _ ↦ 0) 4 [.plain true],
   .outWrite 1 (fun _ ↦ 0) 4 [.plain true],
   .inRead 0 (fun _ ↦ 0) 2 (.plain true 0 fun _ ↦ 0)]

/-- The first output keeps playing at 44.1 kHz while the SCO capture runs at 8 kHz. -/
theorem two_outputs_break_rate_exclusion :
    Reachable (run adevOpen twoOutputsScoRun).1 ∧ ¬ RateExclusion (run adevOpen twoOutputsScoRun).1 :=
  ⟨Reachable.init.run _, fun h ↦ absurd (h 0 0 _ _ rfl rfl rfl rfl) (by decide)⟩

/-! ## Forced standbys -/

/-- Whether an event closes a PCM of direction `d`. -/
def Event.closes (d : Dir) : Event → Bool
  | .pcmClose d' _ => d' == d
  | _ => false

/-- The standbys of the other direction a call forces: a write closes inputs, and a read
outputs, only in the rate-group check of a start. -/
def forcedStandbys : HalCall → List Event → Nat
  | .outWrite _ _ _ _, evs => evs.countP (Event.closes .input)
  | .inRead _ _ _ _, evs => evs.countP (Event.closes .output)
  | _, _ => 0

/-- The forced standbys of a run from `s`. -/
def runForcedStandbys : Hal → List HalCall → Nat
  | _, [] => 0
  | s, c :: cs => forcedStandbys c (c.apply s).2 + runForcedStandbys (c.apply s).1 cs

/-- A speaker output and an SCO input, both open. -/
def speakerScoOpens : List HalCall :=
  [.openOutputStream audioDeviceOutSpeaker 0 ⟨true, 0, true⟩,
   .openInputStream audioDeviceInAllSco 8000 audioChannelInMono ⟨true, true, 0⟩]

/-- Writes and reads taking turns. -/
def alternatingCalls : List HalCall :=
  [.outWrite 0 (fun _ ↦ 0) 4 [.plain true], .inRead 0 (fun _ ↦ 0) 2 (.plain true 0 fun _ ↦ 0),
   .outWrite 0 (fun _ ↦ 0) 4 [.plain true], .inRead 0 (fun _ ↦ 0) 2 (.plain true 0 fun _ ↦ 0),
   .outWrite 0 (fun _ ↦ 0) 4 [.plain true]]

/-- With the routing fixed, 44.1 kHz playback and 8 kHz SCO capture evict each other at every
turn: five calls, four forced standbys. -/
theorem alternating_starts_force_repeated_standbys :
    Reachable (run adevOpen speakerScoOpens).1 ∧
    runForcedStandbys (run adevOpen speakerScoOpens).1 alternatingCalls = 4 :=
  ⟨Reachable.init.run _, by decide⟩

/-! ## The rates the two starts pick -/

/-- The rate a start of `out` opens at under the output routing `dev`. -/
def outStartRate (dev : UInt32) (out : StreamOut) : Nat :=
  (outputGeometry dev out).stream.pcmConfig.rate

/-- The rate a start of an input opens at under the input routing `dev`. -/
def inStartRate (dev : UInt32) : Nat :=
  if inDeviceHas dev audioDeviceInAllSco then pcmConfigSco.rate else pcmConfigIn.rate

theorem outStartRate_congr (dev : UInt32) {out out' : StreamOut}
    (h : out'.pcmConfig = out.pcmConfig) : outStartRate dev out' = outStartRate dev out := by
  simp only [outStartRate, outputGeometry]; split_ifs <;> simp [h]

/-- A start leaves the stream opening at the same rate at its next start under the same routing. -/
theorem outStartRate_outputStarted (dev : UInt32) (out : StreamOut) (ready : Bool) :
    outStartRate dev (outputStarted dev out ready) = outStartRate dev out := by
  simp only [outStartRate, outputStarted_pcmConfig, outputGeometry]; split_ifs <;> rfl

theorem inputStarted_rate (dev : UInt32) (inp : StreamIn) (ready : Bool) :
    (inputStarted dev inp ready).pcmConfig.rate = inStartRate dev := by
  simp only [inputStarted_pcmConfig, inStartRate]; split_ifs <;> rfl

/-! ## The rate-group checks -/

section Checks

variable {t : Hal}

/-- The check of an output start either leaves everything alone or puts the active input, which
clashes with `r`, into standby. -/
theorem inStandbyOnClash_cases (h : Books t) (r : Nat) :
    inStandbyOnClash t r = ⟨t, [], ()⟩ ∨
    ∃ x inp, t.adev.activeIn = some x ∧ t.ins x = some inp ∧
      rateGroupsClash r inp.pcmConfig.rate = true ∧
      inStandbyOnClash t r = ⟨{ t.setIn x { inp with pcm := none, standby := true } with
        adev := { t.adev with activeIn := none } }, [.pcmClose .input x], ()⟩ := by
  unfold inStandbyOnClash
  split
  · exact .inl rfl
  next x hx =>
    split
    · exact .inl rfl
    next inp hinp =>
      split_ifs with hc
      · obtain ⟨y, hy, hl⟩ := h.inp.active_live x hx
        simp only [Hal.inSide, hinp, Option.some.injEq] at hy
        subst hy
        exact .inr ⟨x, inp, hx, hinp, hc, by simp [doInStandby, hinp, hl]⟩
      · exact .inl rfl

/-- The check of an input start either leaves everything alone or puts the active output, which
clashes with `r`, into standby. -/
theorem outStandbyOnClash_cases (h : Books t) (r : Nat) :
    outStandbyOnClash t r = ⟨t, [], ()⟩ ∨
    ∃ x out, t.adev.activeOut = some x ∧ t.outs x = some out ∧
      rateGroupsClash r out.pcmConfig.rate = true ∧
      outStandbyOnClash t r = ⟨{ t.setOut x { out with pcm := none, standby := true } with
        adev := { t.adev with activeOut := none } }, [.pcmClose .output x], ()⟩ := by
  unfold outStandbyOnClash
  split
  · exact .inl rfl
  next x hx =>
    split
    · exact .inl rfl
    next out hout =>
      split_ifs with hc
      · obtain ⟨y, hy, hl⟩ := h.out.active_live x hx
        simp only [Hal.outSide, hout, Option.some.injEq] at hy
        subst hy
        exact .inr ⟨x, out, hx, hout, hc, by simp [doOutStandby, hout, hl]⟩
      · exact .inl rfl

theorem inStandbyOnClash_frame (h : Books t) (r : Nat) :
    (inStandbyOnClash t r).hal.outs = t.outs ∧
    (inStandbyOnClash t r).hal.adev.activeOut = t.adev.activeOut ∧
    (inStandbyOnClash t r).hal.adev.outDevice = t.adev.outDevice ∧
    (inStandbyOnClash t r).hal.adev.inDevice = t.adev.inDevice := by
  rcases inStandbyOnClash_cases h r with e | ⟨x, inp, -, -, -, e⟩ <;> simp [e]

theorem outStandbyOnClash_frame (h : Books t) (r : Nat) :
    (outStandbyOnClash t r).hal.ins = t.ins ∧
    (outStandbyOnClash t r).hal.adev.activeIn = t.adev.activeIn ∧
    (outStandbyOnClash t r).hal.adev.outDevice = t.adev.outDevice ∧
    (outStandbyOnClash t r).hal.adev.inDevice = t.adev.inDevice := by
  rcases outStandbyOnClash_cases h r with e | ⟨x, out, -, -, -, e⟩ <;> simp [e]

/-- The check of an output start keeps every input's configuration, and opens none. -/
theorem inStandbyOnClash_ins (h : Books t) (r x : Nat) :
    ((inStandbyOnClash t r).hal.ins x).map (·.pcmConfig) = (t.ins x).map (·.pcmConfig) := by
  rcases inStandbyOnClash_cases h r with e | ⟨x', inp, -, hix, -, e⟩ <;> rw [e]
  by_cases hxx : x = x'
  · subst hxx; simp [hix]
  · simp [hxx]

/-- The check of an input start keeps every output's configuration, and opens none. -/
theorem outStandbyOnClash_outs (h : Books t) (r x : Nat) :
    ((outStandbyOnClash t r).hal.outs x).map (·.pcmConfig) = (t.outs x).map (·.pcmConfig) := by
  rcases outStandbyOnClash_cases h r with e | ⟨x', out, -, hox, -, e⟩ <;> rw [e]
  by_cases hxx : x = x'
  · subst hxx; simp [hox]
  · simp [hxx]

end Checks

/-! ## Runs of writes and reads on one output and one input -/

section Pair

variable (o i Rout Rin : Nat)

/-- The situation of a run of writes to `o` and reads from `i`: the bookkeeping holds, no other
stream is open, a start of `o` opens at `Rout` and a start of an input at `Rin`. -/
structure PairCtx (t : Hal) : Prop where
  books : Books t
  out_rate : ∃ out, t.outs o = some out ∧ outStartRate t.adev.outDevice out = Rout
  in_rate : inStartRate t.adev.inDevice = Rin
  outs_only : ∀ x, x ≠ o → t.outs x = none
  ins_only : ∀ x, x ≠ i → t.ins x = none

/-- The active input, if any, runs at a rate of `Rout`'s family. -/
def CalmIn (d : Side StreamIn) : Prop :=
  ∀ x inp, d.active = some x → d.streams x = some inp → sameRateFamily Rout inp.pcmConfig.rate

/-- The active output, if any, runs at a rate of `Rin`'s family. -/
def CalmOut (d : Side StreamOut) : Prop :=
  ∀ x out, d.active = some x → d.streams x = some out → sameRateFamily out.pcmConfig.rate Rin

/-- Neither active pointer names a stream that a start of the other direction clashes with. -/
structure Calm (t : Hal) : Prop where
  inp : CalmIn Rout t.inSide
  out : CalmOut Rin t.outSide

/-- A step of such a run from `t` to `t'` forcing `n` standbys: the situation is kept, at most
one standby is forced and the state is calm after it, and a calm state forces none and stays
calm. -/
structure PairStep (t t' : Hal) (n : Nat) : Prop where
  ctx : PairCtx o i Rout Rin t'
  le_one : n ≤ 1
  calm_of_forced : n ≠ 0 → Calm Rout Rin t'
  calm : Calm Rout Rin t → n = 0 ∧ Calm Rout Rin t'

variable {o i Rout Rin}

/-- A step that forces nothing and keeps a calm state calm. -/
theorem PairStep.quiet {t t' : Hal} (h : PairCtx o i Rout Rin t')
    (hcalm : Calm Rout Rin t → Calm Rout Rin t') : PairStep o i Rout Rin t t' 0 :=
  ⟨h, Nat.zero_le _, fun h ↦ absurd rfl h, fun hc ↦ ⟨rfl, hcalm hc⟩⟩

theorem PairStep.refl {t : Hal} (h : PairCtx o i Rout Rin t) : PairStep o i Rout Rin t t 0 :=
  .quiet h id

theorem PairStep.trans {t t' t'' : Hal} {n m : Nat} (h₁ : PairStep o i Rout Rin t t' n)
    (h₂ : PairStep o i Rout Rin t' t'' m) : PairStep o i Rout Rin t t'' (n + m) where
  ctx := h₂.ctx
  le_one := by
    rcases Nat.eq_zero_or_pos n with hn | hn
    · simpa [hn] using h₂.le_one
    · have := (h₂.calm (h₁.calm_of_forced (by omega))).1
      have := h₁.le_one
      omega
  calm_of_forced hnm := by
    by_cases hm : m = 0
    · exact (h₂.calm (h₁.calm_of_forced (by omega))).2
    · exact h₂.calm_of_forced hm
  calm hc := by
    obtain ⟨hn, hc'⟩ := h₁.calm hc
    obtain ⟨hm, hc''⟩ := h₂.calm hc'
    exact ⟨by omega, hc''⟩

end Pair

/-! ## One write pass, one standby, one read -/

section PairSteps

variable {o i Rout Rin : Nat} {t : Hal}

/-- Replacing stream `x` by one that keeps `P` keeps `P` of the active stream. -/
theorem Side.active_put {α : Type} {P : α → Prop} {d : Side α} {x : Nat} {y z : α}
    (hc : ∀ x' y', d.active = some x' → d.streams x' = some y' → P y')
    (hx : d.streams x = some z) (hy : P z → P y) :
    ∀ x' y', (d.put x y).active = some x' → (d.put x y).streams x' = some y' → P y' :=
  fun x' y' ha hy' ↦ by
    by_cases hxx : x' = x
    · subst hxx
      simp only [Side.put, Function.update_same, Option.some.injEq] at hy'
      exact hy' ▸ hy (hc x' z ha hx)
    · exact hc x' y' ha (by simpa [Side.put, hxx] using hy')

/-- Making stream `x`, replaced by `y`, the active one: `P` of the active stream is `P y`. -/
theorem Side.active_activate {α : Type} {P : α → Prop} {d : Side α} {x : Nat} {y : α} (hy : P y) :
    ∀ x' y', ({ d.put x y with active := some x } : Side α).active = some x' →
      ({ d.put x y with active := some x } : Side α).streams x' = some y' → P y' :=
  fun x' y' ha hy' ↦ by
    cases ha
    simp only [Side.put, Function.update_same, Option.some.injEq] at hy'
    exact hy' ▸ hy

/-- A side whose only stream is in standby has no active stream. -/
theorem SideBooks.active_eq_none {α : Type} {standby hasPcm : α → Bool} {good : α → Prop}
    {d : Side α} (h : SideBooks standby hasPcm good d) {x : Nat} {y : α}
    (hx : d.streams x = some y) (hsb : standby y = true)
    (honly : ∀ x', x' ≠ x → d.streams x' = none) : d.active = none := by
  cases hact : d.active with
  | none => rfl
  | some x' =>
    obtain ⟨z, hz, hl⟩ := h.active_live x' hact
    by_cases hxx : x' = x
    · subst hxx
      rw [hx, Option.some.injEq] at hz
      subst hz
      simp [hsb] at hl
    · rw [honly x' hxx] at hz
      cases hz

theorem throttleSleeps_countP (th : Nat) (d : Dir) :
    ∀ ks, (throttleSleeps th ks).countP (Event.closes d) = 0
  | [] => rfl
  | none :: _ => rfl
  | some kf :: rest => by
    unfold throttleSleeps
    split_ifs
    · simp [Event.closes, throttleSleeps_countP th d rest]
    · rfl

theorem writeBody_countP (d : Dir) (o : Nat) (scoOn : Bool) (a : WriteAttempt) (out : StreamOut)
    (l : WriteLocals) : (writeBody o scoOn a out l).events.countP (Event.closes d) = 0 := by
  dsimp only [writeBody]
  split_ifs <;> (try cases scoOn) <;> simp [throttleAndWrite, throttleSleeps_countP, Event.closes]

theorem startOutputStream_countP {out : StreamOut} (hx : t.outs o = some out) (ready : Bool) :
    (startOutputStream t o ready).events.countP (Event.closes .input) =
      (inStandbyOnClash t (outStartRate t.adev.outDevice out)).events.countP (Event.closes .input) := by
  cases ready <;> simp [startOutputStream, hx, outStartRate, Event.closes]

theorem startOutputStream_devices (h : Books t) {out : StreamOut} (hx : t.outs o = some out)
    (ready : Bool) :
    (startOutputStream t o ready).hal.adev.outDevice = t.adev.outDevice ∧
    (startOutputStream t o ready).hal.adev.inDevice = t.adev.inDevice := by
  have hf := inStandbyOnClash_frame h (outputGeometry t.adev.outDevice out).stream.pcmConfig.rate
  cases ready <;> simp [startOutputStream, hx, hf.2.2.1, hf.2.2.2]

theorem Hal.setOut_of_outs (s : Hal) {o : Nat} {out : StreamOut} (h : s.outs o = some out) :
    s.setOut o out = s := by
  cases s
  simp only [Hal.setOut, Hal.mk.injEq, and_true, true_and]
  rw [← h, Function.update_eq_self]

/-- A start of `o` from standby, with `o` then replaced by a stream of the same configuration
(the data path of a write that follows it). -/
theorem PairStep.start (hfam : sameRateFamily Rout Rin) (hc : PairCtx o i Rout Rin t)
    {out : StreamOut} (hx : t.outs o = some out) (hsb : out.standby = true) (ready : Bool)
    {y : StreamOut} (hy : y.pcmConfig = (outputGeometry t.adev.outDevice out).stream.pcmConfig)
    (hb : Books ((startOutputStream t o ready).hal.setOut o y)) :
    PairStep o i Rout Rin t ((startOutputStream t o ready).hal.setOut o y)
      ((startOutputStream t o ready).events.countP (Event.closes .input)) := by
  obtain ⟨out', hx', hR⟩ := hc.out_rate
  rw [hx, Option.some.injEq] at hx'
  subst hx'
  have hnone : t.adev.activeOut = none := hc.books.out.active_eq_none hx hsb hc.outs_only
  have hdev := startOutputStream_devices hc.books hx ready
  have hout : ((startOutputStream t o ready).hal.setOut o y).outSide =
      { t.outSide.put o y with active := if ready then some o else none } := by
    have e := startOutputStream_outSide hx ready
    simp only [Hal.outSide, Side.put, Side.mk.injEq, hnone] at e
    simp [Hal.outSide, Side.put, Hal.setOut, e]
  have hin : ((startOutputStream t o ready).hal.setOut o y).inSide =
      (inStandbyOnClash t Rout).hal.inSide := by
    rw [← hR]; exact startOutputStream_inSide hx ready
  have hrate : y.pcmConfig.rate = Rout := by rw [hy]; exact hR
  have hcalmOut : CalmOut Rin ((startOutputStream t o ready).hal.setOut o y).outSide := by
    rw [hout]
    cases ready
    · exact fun _ _ ha ↦ by cases ha
    · exact Side.active_activate (hrate ▸ hfam)
  have hctx_out : ∀ x, x ≠ o → ((startOutputStream t o ready).hal.setOut o y).outs x = none :=
    fun x hxo ↦ by
      have := congrArg (fun d : Side StreamOut ↦ d.streams x) hout
      simpa [Hal.outSide, Side.put, hxo, hc.outs_only x hxo] using this
  have hctx_in : ∀ x, x ≠ i → ((startOutputStream t o ready).hal.setOut o y).ins x = none :=
    fun x hxi ↦ by
      have hins : ((startOutputStream t o ready).hal.setOut o y).ins =
        (inStandbyOnClash t Rout).hal.ins := congrArg Side.streams hin
      have := inStandbyOnClash_ins hc.books Rout x
      rwa [hc.ins_only x hxi, ← hins, Option.map_none', Option.map_eq_none'] at this
  have hrate' : outStartRate t.adev.outDevice y = Rout := by
    rw [outStartRate_congr _ (hy.trans (outputStarted_pcmConfig _ out ready).symm),
      outStartRate_outputStarted]
    exact hR
  have hctx : PairCtx o i Rout Rin ((startOutputStream t o ready).hal.setOut o y) :=
    ⟨hb, ⟨y, by simp, by simpa [hdev.1] using hrate'⟩, by simpa [hdev.2] using hc.in_rate,
      hctx_out, hctx_in⟩
  rw [startOutputStream_countP hx ready, hR]
  rcases inStandbyOnClash_cases hc.books Rout with e | ⟨x, inp, hax, hix, hclash, e⟩
  · -- no input clashes: the input side is untouched
    rw [e] at hin ⊢
    exact .quiet hctx fun hcalm ↦ ⟨hin ▸ hcalm.inp, hcalmOut⟩
  · -- the active input clashes and is put into standby
    rw [e] at hin
    have hcalmIn : CalmIn Rout ((startOutputStream t o ready).hal.setOut o y).inSide :=
      fun _ _ ha ↦ by rw [hin] at ha; cases ha
    refine ⟨hctx, by simp [e, Event.closes], fun _ ↦ ⟨hcalmIn, hcalmOut⟩, fun hcalm ↦ ?_⟩
    have := (sameRateFamily_iff_not_clash _ _).mp (hcalm.inp x inp hax hix)
    simp [this.1] at hclash

theorem usleep_countP (n : Nat) (d : Dir) : [Event.usleep n].countP (Event.closes d) = 0 := rfl

theorem usleepTail_countP (c : Prop) [Decidable c] (n : Nat) (d : Dir) :
    (if c then [Event.usleep n] else []).countP (Event.closes d) = 0 := by
  split <;> rfl

theorem doOutStandby_countP (s : Hal) (o : Nat) :
    (doOutStandby s o).events.countP (Event.closes .input) = 0 := by
  unfold doOutStandby; split <;> (try split_ifs) <;> rfl

/-- One pass of `out_write` forces at most the standby of its start. -/
theorem PairStep.outWritePass (hfam : sameRateFamily Rout Rin) (hc : PairCtx o i Rout Rin t)
    (bytes : Nat) (a : WriteAttempt) (l : WriteLocals) :
    PairStep o i Rout Rin t (outWritePass t o bytes a l).hal
      ((outWritePass t o bytes a l).events.countP (Event.closes .input)) := by
  have hb := hc.books.outWritePass o bytes a l
  obtain ⟨out, hx, hR⟩ := hc.out_rate
  cases hsb : out.standby
  · -- out of standby: only the data path runs, on a stream of the same configuration
    rw [outWritePass_of_live hx hsb] at hb ⊢
    dsimp only at hb ⊢
    rw [List.countP_append, writeBody_countP, usleepTail_countP]
    have hs := writeBody_sameSetup o (scoOn t) a { out with standby := false } l
    exact .quiet ⟨hb, ⟨_, by simp, (@outStartRate_congr _ out _ hs.pcmConfig).trans hR⟩,
      hc.in_rate, fun x hxo ↦ by simp [hxo, hc.outs_only x hxo], hc.ins_only⟩
      fun hcalm ↦ ⟨hcalm.inp, Side.active_put hcalm.out hx (congrArg PcmConfig.rate hs.pcmConfig ▸ ·)⟩
  · cases hr : a.ready
    · -- the start fails: the started stream stays as the start left it
      rw [outWritePass_of_open_fails hx hsb hr] at hb ⊢
      rw [← Hal.setOut_of_outs _ (startOutputStream_outs_self hx false)] at hb ⊢
      rw [List.countP_append, usleep_countP, Nat.add_zero]
      exact PairStep.start hfam hc hx hsb false (outputStarted_pcmConfig _ _ _) hb
    · -- the start opens the PCM, then the data path runs on the started stream
      rw [outWritePass_of_opened hx hsb hr] at hb ⊢
      dsimp only at hb ⊢
      rw [List.countP_append, List.countP_append, writeBody_countP, usleepTail_countP]
      exact PairStep.start hfam hc hx hsb true
        ((writeBody_sameSetup _ _ a _ l).pcmConfig.trans (outputStarted_pcmConfig _ _ true)) hb

/-- The standby after `-EPIPE` closes the output only. -/
theorem PairStep.doOutStandby (hc : PairCtx o i Rout Rin t) :
    PairStep o i Rout Rin t (doOutStandby t o).hal 0 := by
  obtain ⟨out, hx, hR⟩ := hc.out_rate
  have hb := hc.books.doOutStandby o
  unfold Omap4AudioHal.doOutStandby at hb ⊢
  simp only [hx] at hb ⊢
  split_ifs at hb ⊢
  · exact .refl hc
  · have hR' : outStartRate t.adev.outDevice { out with pcm := none, standby := true } = Rout :=
      (@outStartRate_congr _ out { out with pcm := none, standby := true } rfl).trans hR
    exact .quiet ⟨hb, ⟨_, by simp, hR'⟩, hc.in_rate,
      fun x hxo ↦ by simp [hxo, hc.outs_only x hxo], hc.ins_only⟩
      fun hcalm ↦ ⟨hcalm.inp, fun _ _ ha ↦ by cases ha⟩

/-- The passes of one `out_write` force at most one standby between them. -/
theorem PairStep.outWriteLoop (hfam : sameRateFamily Rout Rin) (bytes : Nat)
    (l : WriteLocals) (as : List WriteAttempt) (hc : PairCtx o i Rout Rin t) :
    PairStep o i Rout Rin t (outWriteLoop o bytes t l as).hal
      ((outWriteLoop o bytes t l as).events.countP (Event.closes .input)) := by
  induction as generalizing t l with
  | nil => exact .refl hc
  | cons a as ih =>
    have hp := PairStep.outWritePass hfam hc bytes a l
    simp only [Omap4AudioHal.outWriteLoop]
    split_ifs
    · have hs := PairStep.doOutStandby hp.ctx
      rw [List.countP_append, List.countP_append, doOutStandby_countP]
      exact (hp.trans hs).trans (ih _ hs.ctx)
    · exact hp

/-! ### The read side -/

theorem getNextBuffer_countP (inp : StreamIn) (i n : Nat) (rd : PcmRead) (d : Dir) :
    (getNextBuffer inp i n rd).events.countP (Event.closes d) = 0 := by
  unfold getNextBuffer; split <;> (try split_ifs) <;> rfl

theorem pullAll_countP (i : Nat) (d : Dir) :
    ∀ (inp : StreamIn) (ps : List (Nat × PcmRead)), (pullAll i inp ps).2.1.countP (Event.closes d) = 0
  | _, [] => rfl
  | inp, (n, rd) :: rest => by
    unfold pullAll; dsimp only; split
    · exact getNextBuffer_countP inp i n rd d
    · rw [List.countP_append, getNextBuffer_countP, pullAll_countP i d _ rest]

theorem readFramesLoop_countP (i frames : Nat) (d : Dir) :
    ∀ (inp : StreamIn) (client : Nat → UInt16) (wr : Nat) (rs : List PullRound),
      (readFramesLoop i frames inp client wr rs).events.countP (Event.closes d) = 0
  | _, _, _, [] => by unfold readFramesLoop; split_ifs <;> rfl
  | inp, client, wr, r :: rest => by
    unfold readFramesLoop; dsimp only
    split_ifs
    · exact pullAll_countP i d inp r.pulls
    · rw [List.countP_append, pullAll_countP, readFramesLoop_countP i frames d _ _ _ rest]
    · rfl

theorem readPath_countP (inp : StreamIn) (i bytes : Nat) (client : Nat → UInt16) (env : ReadEnv)
    (d : Dir) : (readPath inp i bytes client env).events.countP (Event.closes d) = 0 := by
  unfold readPath
  split_ifs
  · exact readFramesLoop_countP i _ d inp client 0 env.rounds
  · rfl
  · rfl

theorem inReadData_countP (s : Hal) (i : Nat) (inp : StreamIn) (client : Nat → UInt16)
    (bytes : Nat) (env : ReadEnv) {d : Dir} (n : Nat) :
    (inReadData s i inp client bytes env [.usleep n]).events.countP (Event.closes d) = 0 := by
  dsimp only [inReadData]
  split
  · exact readPath_countP inp i bytes client env d
  · rw [List.countP_append, readPath_countP]; split_ifs <;> rfl

theorem inputGeometry_rate (dev : UInt32) (inp : StreamIn) :
    (inputGeometry dev inp).stream.pcmConfig.rate = inStartRate dev := by
  simp only [inputGeometry, inStartRate]; split_ifs <;> rfl

theorem startInputStream_countP {inp : StreamIn} (hx : t.ins i = some inp) (ready : Bool) :
    (startInputStream t i ready).events.countP (Event.closes .output) =
      (outStandbyOnClash t (inStartRate t.adev.inDevice)).events.countP (Event.closes .output) := by
  rw [← inputGeometry_rate _ inp]
  cases ready <;> simp [startInputStream, hx, Event.closes]

theorem startInputStream_devices (h : Books t) {inp : StreamIn} (hx : t.ins i = some inp)
    (ready : Bool) :
    (startInputStream t i ready).hal.adev.outDevice = t.adev.outDevice ∧
    (startInputStream t i ready).hal.adev.inDevice = t.adev.inDevice := by
  have hf := outStandbyOnClash_frame h (inputGeometry t.adev.inDevice inp).stream.pcmConfig.rate
  cases ready <;> simp [startInputStream, hx, hf.2.2.1, hf.2.2.2]

theorem Hal.setIn_of_ins (s : Hal) {i : Nat} {inp : StreamIn} (h : s.ins i = some inp) :
    s.setIn i inp = s := by
  cases s
  simp only [Hal.setIn, Hal.mk.injEq, and_true, true_and]
  rw [← h, Function.update_eq_self]

/-- A start of `i` from standby, with `i` then replaced by a stream of the same configuration
(the data path of a read that follows it). -/
theorem PairStep.startIn (hfam : sameRateFamily Rout Rin) (hc : PairCtx o i Rout Rin t)
    {inp : StreamIn} (hx : t.ins i = some inp) (hsb : inp.standby = true) (ready : Bool)
    {y : StreamIn} (hy : y.pcmConfig = (inputStarted t.adev.inDevice inp ready).pcmConfig)
    (hb : Books ((startInputStream t i ready).hal.setIn i y)) :
    PairStep o i Rout Rin t ((startInputStream t i ready).hal.setIn i y)
      ((startInputStream t i ready).events.countP (Event.closes .output)) := by
  have hnone : t.adev.activeIn = none := hc.books.inp.active_eq_none hx hsb hc.ins_only
  have hdev := startInputStream_devices hc.books hx ready
  have hin : ((startInputStream t i ready).hal.setIn i y).inSide =
      { t.inSide.put i y with active := if ready then some i else none } := by
    have e := startInputStream_inSide hx ready
    simp only [Hal.inSide, Side.put, Side.mk.injEq, hnone] at e
    simp [Hal.inSide, Side.put, Hal.setIn, e]
  have hout : ((startInputStream t i ready).hal.setIn i y).outSide =
      (outStandbyOnClash t Rin).hal.outSide := by
    rw [← hc.in_rate, ← inputGeometry_rate _ inp]; exact startInputStream_outSide hx ready
  have hrate : y.pcmConfig.rate = Rin := by rw [hy, inputStarted_rate]; exact hc.in_rate
  have hcalmIn : CalmIn Rout ((startInputStream t i ready).hal.setIn i y).inSide := by
    rw [hin]
    cases ready
    · exact fun _ _ ha ↦ by cases ha
    · exact Side.active_activate (hrate ▸ hfam)
  have hctx_in : ∀ x, x ≠ i → ((startInputStream t i ready).hal.setIn i y).ins x = none :=
    fun x hxi ↦ by
      have := congrArg (fun d : Side StreamIn ↦ d.streams x) hin
      simpa [Hal.inSide, Side.put, hxi, hc.ins_only x hxi] using this
  have hin_rate : inStartRate ((startInputStream t i ready).hal.setIn i y).adev.inDevice = Rin := by
    rw [Hal.setIn_adev, hdev.2]; exact hc.in_rate
  have houts : ((startInputStream t i ready).hal.setIn i y).outs =
    (outStandbyOnClash t Rin).hal.outs := congrArg Side.streams hout
  obtain ⟨out, hxo, hR⟩ := hc.out_rate
  have hout_rate : ∃ out', ((startInputStream t i ready).hal.setIn i y).outs o = some out' ∧
      outStartRate ((startInputStream t i ready).hal.setIn i y).adev.outDevice out' = Rout := by
    have := outStandbyOnClash_outs hc.books Rin o
    rw [hxo, ← houts, Option.map_some', Option.map_eq_some'] at this
    obtain ⟨out', h', hcfg⟩ := this
    exact ⟨out', h', by rw [Hal.setIn_adev, hdev.1, outStartRate_congr _ hcfg]; exact hR⟩
  have hctx_out : ∀ x, x ≠ o → ((startInputStream t i ready).hal.setIn i y).outs x = none :=
    fun x hne ↦ by
      have := outStandbyOnClash_outs hc.books Rin x
      rwa [hc.outs_only x hne, ← houts, Option.map_none', Option.map_eq_none'] at this
  have hctx : PairCtx o i Rout Rin ((startInputStream t i ready).hal.setIn i y) :=
    ⟨hb, hout_rate, hin_rate, hctx_out, hctx_in⟩
  rw [startInputStream_countP hx ready, hc.in_rate]
  rcases outStandbyOnClash_cases hc.books Rin with e | ⟨x, out', hax, hox, hclash, e⟩
  · -- no output clashes: the output side is untouched
    rw [e] at hout ⊢
    exact .quiet hctx fun hcalm ↦ ⟨hcalmIn, hout ▸ hcalm.out⟩
  · -- the active output clashes and is put into standby
    rw [e] at hout
    have hcalmOut : CalmOut Rin ((startInputStream t i ready).hal.setIn i y).outSide :=
      fun _ _ ha ↦ by rw [hout] at ha; cases ha
    refine ⟨hctx, by simp [e, Event.closes], fun _ ↦ ⟨hcalmIn, hcalmOut⟩, fun hcalm ↦ ?_⟩
    have := (sameRateFamily_iff_not_clash _ _).mp (hcalm.out x out' hax hox)
    simp [this.2] at hclash

/-- One `in_read` forces at most the standby of its start. -/
theorem PairStep.inRead (hfam : sameRateFamily Rout Rin) (hc : PairCtx o i Rout Rin t)
    (client : Nat → UInt16) (bytes : Nat) (env : ReadEnv) :
    PairStep o i Rout Rin t (inRead t i client bytes env).hal
      ((inRead t i client bytes env).events.countP (Event.closes .output)) := by
  have hb := hc.books.inRead i client bytes env
  cases hx : t.ins i with
  | none => simp only [Omap4AudioHal.inRead, hx]; exact .refl hc
  | some inp =>
    cases hsb : inp.standby
    · -- out of standby: only the data path runs, on a stream of the same configuration
      rw [inRead_of_live hx hsb, inReadData_countP] at *
      rw [inReadData_hal] at hb ⊢
      have hs := readPath_sameSetup inp i bytes client env
      exact .quiet ⟨hb, hc.out_rate, hc.in_rate, hc.outs_only,
        fun x hxi ↦ by simp [hxi, hc.ins_only x hxi]⟩
        fun hcalm ↦ ⟨Side.active_put hcalm.inp hx (congrArg PcmConfig.rate hs.pcmConfig ▸ ·),
          hcalm.out⟩
    · cases hr : env.ready
      · -- the start fails: the started stream stays as the start left it
        rw [inRead_of_open_fails hx hsb hr] at hb ⊢
        rw [← Hal.setIn_of_ins _ (startInputStream_ins_self hx false)] at hb ⊢
        rw [List.countP_append, usleep_countP, Nat.add_zero]
        exact PairStep.startIn hfam hc hx hsb false rfl hb
      · -- the start opens the PCM, then the data path runs on the started stream
        rw [inRead_of_opened hx hsb hr] at hb ⊢
        dsimp only at hb ⊢
        rw [List.countP_append, inReadData_countP, Nat.add_zero]
        rw [inReadData_hal] at hb ⊢
        exact PairStep.startIn hfam hc hx hsb true (readPath_sameSetup _ i bytes client env).pcmConfig hb

end PairSteps

/-! ## Runs of writes and reads -/

/-- Whether a call is a write to `o` or a read from `i`. -/
def HalCall.onPair (o i : Nat) : HalCall → Bool
  | .outWrite o' _ _ _ => o' == o
  | .inRead i' _ _ _ => i' == i
  | _ => false

section PairRuns

variable {o i Rout Rin : Nat}

theorem PairStep.apply (hfam : sameRateFamily Rout Rin) {t : Hal} (hc : PairCtx o i Rout Rin t)
    {c : HalCall} (hpc : c.onPair o i = true) :
    PairStep o i Rout Rin t (c.apply t).1 (forcedStandbys c (c.apply t).2) := by
  cases c with
  | outWrite o' client bytes attempts =>
    obtain rfl : o' = o := by simpa [HalCall.onPair] using hpc
    exact PairStep.outWriteLoop hfam bytes _ attempts hc
  | inRead i' client bytes env =>
    obtain rfl : i' = i := by simpa [HalCall.onPair] using hpc
    exact PairStep.inRead hfam hc client bytes env
  | _ => simp [HalCall.onPair] at hpc

theorem PairStep.calls (hfam : sameRateFamily Rout Rin) (cs : List HalCall) {t : Hal}
    (hc : PairCtx o i Rout Rin t) (hcs : ∀ c ∈ cs, c.onPair o i = true) :
    PairStep o i Rout Rin t (run t cs).1 (runForcedStandbys t cs) := by
  induction cs generalizing t with
  | nil => exact .refl hc
  | cons c cs ih =>
    have h₁ := PairStep.apply hfam hc (hcs c (List.mem_cons_self c cs))
    exact h₁.trans (ih h₁.ctx fun c' hc' ↦ hcs c' (List.mem_cons_of_mem c hc'))

end PairRuns

/-- The situation of a pair run, from a reachable state in which only `o` and `i` are open. -/
theorem PairCtx.of_reachable {s : Hal} (hs : Reachable s) {o i : Nat} {out : StreamOut}
    (hout : s.outs o = some out) (hother_outs : ∀ x < s.nextOut, x ≠ o → (s.outs x).isNone)
    (hother_ins : ∀ x < s.nextIn, x ≠ i → (s.ins x).isNone) :
    PairCtx o i (outStartRate s.adev.outDevice out) (inStartRate s.adev.inDevice) s := by
  have hb := hs.books
  refine ⟨hb, ⟨out, hout, rfl⟩, rfl, fun x hx ↦ ?_, fun x hx ↦ ?_⟩
  · by_cases h : x < s.nextOut
    · exact Option.isNone_iff_eq_none.mp (hother_outs x h hx)
    · exact hb.out.fresh x (Nat.le_of_not_lt h)
  · by_cases h : x < s.nextIn
    · exact Option.isNone_iff_eq_none.mp (hother_ins x h hx)
    · exact hb.inp.fresh x (Nat.le_of_not_lt h)

/-- **With rates of one family, at most one forced standby.** From a reachable state in which
only the output `o` and the input `i` are open, and in which, under the routing there, a start of
`o` and a start of an input open at rates of one family, writes to `o` and reads from `i`
interleaved in any way force at most one standby of the other direction between them: the one
that may clear a stream left running at a rate of an earlier routing. -/
theorem forced_standbys_at_most_one {s : Hal} (hs : Reachable s) {o i : Nat} {out : StreamOut}
    (hout : s.outs o = some out) (hother_outs : ∀ x < s.nextOut, x ≠ o → (s.outs x).isNone)
    (hother_ins : ∀ x < s.nextIn, x ≠ i → (s.ins x).isNone)
    (hfam : sameRateFamily (outStartRate s.adev.outDevice out) (inStartRate s.adev.inDevice))
    {cs : List HalCall} (hcs : ∀ c ∈ cs, c.onPair o i = true) :
    runForcedStandbys s cs ≤ 1 :=
  (PairStep.calls hfam cs (PairCtx.of_reachable hs hout hother_outs hother_ins) hcs).le_one

/-- **From a calm state, none.** When moreover no active stream runs at a rate the other
direction's start clashes with, such a run forces no standby at all. -/
theorem calm_pair_runs_force_no_standby {s : Hal} (hs : Reachable s) {o i : Nat}
    {out : StreamOut} (hout : s.outs o = some out)
    (hother_outs : ∀ x < s.nextOut, x ≠ o → (s.outs x).isNone)
    (hother_ins : ∀ x < s.nextIn, x ≠ i → (s.ins x).isNone)
    (hfam : sameRateFamily (outStartRate s.adev.outDevice out) (inStartRate s.adev.inDevice))
    (hcalm : Calm (outStartRate s.adev.outDevice out) (inStartRate s.adev.inDevice) s)
    {cs : List HalCall} (hcs : ∀ c ∈ cs, c.onPair o i = true) :
    runForcedStandbys s cs = 0 :=
  ((PairStep.calls hfam cs (PairCtx.of_reachable hs hout hother_outs hother_ins) hcs).calm
    hcalm).1

/-- A speaker output and a built-in microphone input, both at 44.1 kHz, neither started. -/
def speakerMicOpens : List HalCall :=
  [.openOutputStream audioDeviceOutSpeaker 0 ⟨true, 0, true⟩,
   .openInputStream audioDeviceInBuiltinMic 44100 audioChannelInMono ⟨true, true, 0⟩]

theorem speaker_mic_turns_force_no_standby :
    runForcedStandbys (run adevOpen speakerMicOpens).1 alternatingCalls = 0 :=
  @calm_pair_runs_force_no_standby _ (Reachable.init.run speakerMicOpens) 0 0
    (openedOutput audioDeviceOutSpeaker 0 true) rfl (by decide) (by decide) (by decide)
    ⟨fun _ _ h ↦ (nomatch h), fun _ _ h ↦ nomatch h⟩ _ (by decide)

/-- A speaker output, and an input left running on the SCO headset at 8 kHz while the input
routing has moved to the built-in microphone (by the open of a second input, since closed). -/
def staleScoCaptureOpens : List HalCall :=
  [.openOutputStream audioDeviceOutSpeaker 0 ⟨true, 0, true⟩,
   .openInputStream audioDeviceInAllSco 44100 audioChannelInMono ⟨true, true, 0⟩,
   .inRead 0 (fun _ ↦ 0) 2 (.plain true 0 fun _ ↦ 0),
   .openInputStream audioDeviceInBuiltinMic 44100 audioChannelInMono ⟨true, true, 0⟩,
   .closeInputStream 1]

theorem stale_sco_capture_forces_at_most_one :
    runForcedStandbys (run adevOpen staleScoCaptureOpens).1 alternatingCalls ≤ 1 :=
  @forced_standbys_at_most_one _ (Reachable.init.run staleScoCaptureOpens) 0 0
    (openedOutput audioDeviceOutSpeaker 0 true) rfl (by decide) (by decide) (by decide) _ (by decide)

/-- The bound is reached: the first start of the output clears the stale capture. -/
example : runForcedStandbys (run adevOpen staleScoCaptureOpens).1 alternatingCalls = 1 := by
  decide

end Omap4AudioHal
