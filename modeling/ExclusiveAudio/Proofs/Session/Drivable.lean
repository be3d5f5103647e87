import ExclusiveAudio.Proofs.Session.Agreement

/-!
What a session can drive, and what it does drive.

The ranking of formats finds a candidate that can be driven, but the session runs with the format
that the stream shows after the switch, and of that only the samples and the channel count are
checked. A stream that shows no format of its own shows the layout of the candidate. So a session
that cannot be driven comes from a stream that shows something else, or from a candidate whose rate
rounds to zero.
-/

namespace ExclusiveAudio

namespace Stream

variable {confirm : Bool} {target : StreamFormat}

@[simp] theorem live_advance (s : Stream) : (s.advance confirm).live = s.live := by
  unfold advance
  split
  · rfl
  · split <;> rfl

@[simp] theorem live_awaited (reads : Nat) (s : Stream) :
    (s.awaited confirm target reads).live = s.live := by
  induction reads generalizing s with
  | zero => rfl
  | succ reads ih =>
    rw [awaited]
    split
    · exact live_advance s
    · rw [ih, live_advance]

/-- A stream with a format of its own shows it, and any other one the physical format. -/
theorem virtualFormat_eq (s : Stream) :
    s.live = some s.virtualFormat ∨ s.live = none ∧ s.virtualFormat = s.physical := by
  unfold virtualFormat
  cases s.live with
  | none => exact .inr ⟨rfl, rfl⟩
  | some format => exact .inl rfl

/-- A wait that succeeds ends in the layout that it waited for. -/
theorem sameLayout_of_arrives {reads : Nat} {s : Stream}
    (h : s.arrives confirm target reads = true) :
    (s.awaited confirm target reads).physical.sameLayout target = true := by
  induction reads generalizing s with
  | zero => cases h
  | succ reads ih =>
    rw [awaited]
    split
    · next hat => exact hat
    · next hnot =>
      rw [arrives, Bool.or_eq_true] at h
      exact ih (h.resolve_left hnot)

end Stream

namespace Hardware

variable {hw : Hardware} {stream : StreamId}

/-- After a switch that succeeds, the stream has the layout that was wanted, and still shows
whatever it shows of its own. -/
theorem stream?_carryOut_of_switched {reads : Nat} {target initial : StreamFormat}
    (h : hw.switchAnswer reads stream target = .ok initial) :
    ∃ before after, hw.stream? stream = some before ∧
      ((hw.course stream target).carryOut reads hw).stream? stream = some after ∧
      after.live = before.live ∧ after.physical.sameLayout target := by
  unfold switchAnswer at h
  split at h
  · cases h
  · next hread =>
    cases hst : hw.stream? stream with
    | none => rw [hst] at h; cases h
    | some st =>
      rw [hst] at h
      dsimp only at h
      unfold course
      rw [hst]
      dsimp only
      rw [if_neg hread]
      split at h
      · next hsame =>
        refine ⟨st, st.advance hw.confirmSwitches, rfl, ?_, Stream.live_advance st, hsame⟩
        rw [if_pos (.inl hsame)]
        exact stream?_updateStream_of_some hst (Stream.id_advance _)
      · next hother =>
        split at h
        · cases h
        · next hset =>
          split at h
          · next harrives =>
            refine ⟨st, _, rfl, ?_, ?_, Stream.sameLayout_of_arrives harrives⟩
            · rw [if_neg (by simp [hother, hset])]
              exact stream?_updateStream_of_some hst fun st => by simp
            · rw [Stream.live_awaited]
              exact Stream.live_advance st
          · cases h

/-- What is picked for a stream is a format that it offers, and can be driven. -/
theorem mem_of_targetFor {params : OutputParams} {target : StreamFormat} {st : Stream}
    (h : hw.targetFor stream params = .ok target) (hst : hw.stream? stream = some st) :
    target ∈ st.available ∧ target.isValid := by
  obtain ⟨desired, -, h⟩ := bind_eq_ok_iff.mp h
  obtain ⟨candidates, hcandidates, h⟩ := bind_eq_ok_iff.mp h
  obtain ⟨st', hst', hoffered⟩ := stream?_of_answer (mapError_eq_ok_iff.mp hcandidates)
  cases hst.symm.trans hst'
  have hbest : desired.selectBest? candidates = some target := by
    have hselect := mapError_eq_ok_iff.mp h
    unfold StreamFormat.selectBest at hselect
    split at hselect
    · next best hbest =>
      cases hselect
      exact hbest
    · cases hselect
  obtain ⟨hmem, hvalid, -⟩ := StreamFormat.mem_of_selectBest? hbest
  exact ⟨hoffered ▸ hmem, hvalid⟩

end Hardware

/-- A session runs with what its stream shows of its own, or with a format of the layout that was
picked for it. -/
theorem AudioSystem.Reaches.found {s : AudioSystem} {options : Options} {device : DeviceId}
    {params : OutputParams} {stream : StreamId} {index : Nat} {target initial found : StreamFormat}
    (h : s.Reaches options device params stream index target initial found) :
    ∃ st, s.hardware.stream? stream = some st ∧ target ∈ st.available ∧ target.isValid ∧
      (st.live = some found ∨ st.live = none ∧ found.sameLayout target) := by
  obtain ⟨st, after, hst, hafter, hlive, hsame⟩ :=
    Hardware.stream?_carryOut_of_switched h.switched
  obtain ⟨after', hafter', rfl⟩ := Hardware.stream?_of_answer h.shown
  cases hafter.symm.trans hafter'
  obtain ⟨hmem, hvalid⟩ := Hardware.mem_of_targetFor h.wanted hst
  refine ⟨st, hst, hmem, hvalid, ?_⟩
  rw [← hlive]
  refine after.virtualFormat_eq.imp_right fun ⟨hnone, hphysical⟩ => ⟨hnone, ?_⟩
  rw [hphysical]
  exact hsame

namespace Driver

variable {d : Driver} {s : AudioSystem} {params : OutputParams}

/-- A session that begins runs with a format that can be driven exactly if its rate is a finite
positive number and its channels are neither none nor too many, and its host is told a positive rate
exactly if that rate is at least one half. All of this holds where the stream shows no format of its
own and offers no rate below one half. -/
theorem init_drives (hok : (d.init params s).1.result = .ok ()) :
    ∃ session st, (d.init params s).1.driver.session = some session ∧
      s.hardware.stream? session.stream = some st ∧
      (session.configured.isValid ↔
        session.configured.rate.isFinite ∧ (Binary64.zero false).lessThan session.configured.rate ∧
        session.configured.channels ≠ 0 ∧ session.configured.channels ≤ maxChannels) ∧
      (0 < (d.init params s).1.params.rate ↔
        session.configured.rate.isNaN = false ∧ session.configured.rate.lessThan .half = false) ∧
      (∀ shown, st.live = some shown → session.configured = shown) ∧
      (st.live = none → ∃ target ∈ st.available, target.isValid ∧
        session.configured.sameLayout target ∧
        (target.rate.lessThan .half = false →
          session.configured.isValid ∧ 0 < (d.init params s).1.params.rate)) := by
  have hd := session_of_init_ok hok
  obtain ⟨device, session, hdevice, hplan⟩ := plan_of_init_ok hd hok
  obtain ⟨agreed, _, _, _, hagreed, -, hinit⟩ := init_of_plan_ok hd hdevice hplan
  obtain ⟨⟨target, hreaches⟩, -, -⟩ := AudioSystem.session_of_plan hplan hagreed
  obtain ⟨-, format, hformat, -, hparams⟩ := StreamFormat.agreed_eq_ok_iff.mp hagreed
  obtain ⟨st, hst, hmem, hvalid, hshown⟩ := hreaches.found
  have hrate : (d.init params s).1.params.rate = session.configured.rate.round.toUInt32 := by
    rw [hinit, hparams]
  refine ⟨session, st, by rw [hinit], hst, ?_, ?_, ?_, fun hnone => ?_⟩
  · rw [StreamFormat.isValid_iff]
    exact ⟨fun ⟨hfinite, hpositive, hsome, hle, _⟩ => ⟨hfinite, hpositive, hsome, hle⟩,
      fun ⟨hfinite, hpositive, hsome, hle⟩ => ⟨hfinite, hpositive, hsome, hle, format, hformat⟩⟩
  · rw [hrate]
    exact Binary64.toUInt32_round_pos_iff _
  · intro shown hlive
    rcases hshown with hshown | ⟨hnone, -⟩
    · exact Option.some.inj (hshown.symm.trans hlive)
    · cases hnone.symm.trans hlive
  · have hsame : session.configured.sameLayout target := by
      rcases hshown with hshown | ⟨-, hsame⟩
      · cases hnone.symm.trans hshown
      · exact hsame
    refine ⟨target, hmem, hvalid, hsame, fun hhalf => ⟨?_, ?_⟩⟩
    · exact StreamFormat.isValid_of_sameLayout hsame hvalid hhalf
    · have hnumber := Binary64.isNaN_of_isFinite (StreamFormat.isValid_iff.mp hvalid).1
      rw [hrate, StreamFormat.rate_of_sameLayout hsame]
      exact (Binary64.toUInt32_round_pos_iff _).mpr ⟨hnumber, hhalf⟩

/-- What the simulated device shows and offers can be driven. -/
theorem init_drives_standard :
    let s := AudioSystem.standard
    let d : Driver := { options := {} }
    let params : OutputParams := ⟨none, .s16, 48000, 2⟩
    (d.init params s).1.result = .ok () ∧
      ∃ session, (d.init params s).1.driver.session = some session ∧
        session.configured.isValid ∧ 0 < (d.init params s).1.params.rate := by
  intro s d params
  have hok : (d.init params s).1.result = .ok () := by decide +kernel
  have hplain : ∀ st ∈ s.hardware.streams,
      st.live = none ∧ ∀ f ∈ st.available, f.rate.lessThan .half = false := by decide +kernel
  -- from here on the run is not to be evaluated
  clear_value params d s
  obtain ⟨session, st, hsession, hst, -, -, -, hdrives⟩ := init_drives hok
  obtain ⟨hlive, hrates⟩ := hplain st (List.mem_of_find?_eq_some hst)
  obtain ⟨target, hmem, -, -, hdrives⟩ := hdrives hlive
  exact ⟨hok, session, hsession, hdrives (hrates target hmem)⟩

/-- A stream that shows 65 channels is driven all the same. So is one that shows a rate of one
quarter, and the frames of its buffers then take no time. -/
theorem init_drives_undrivable :
    let wide : StreamFormat := .interleaved .s16 48000 65 130
    let slow : StreamFormat := { StreamFormat.interleaved .s16 48000 2 4 with
      rate := .ofBits 0x3fd0000000000000 }
    let showing (format : StreamFormat) : AudioSystem := { AudioSystem.standard with
      hardware := Hardware.standard.setLive ⟨11⟩ (some format) }
    let d : Driver := { options := {} }
    let params : OutputParams := ⟨none, .s16, 48000, 2⟩
    ((d.init params (showing wide)).1.result = .ok () ∧
        (d.init params (showing wide)).1.driver.session.map (·.configured) = some wide ∧
        wide.isValid = false ∧ maxChannels < wide.channels) ∧
      (d.init params (showing slow)).1.result = .ok () ∧
        (d.init params (showing slow)).1.driver.session.map (·.configured) = some slow ∧
        (d.init params (showing slow)).1.params.rate = 0 ∧
        (d.init params (showing slow)).2.servicers.map (·.params.rate) = [0] := by
  intro wide slow showing d params
  refine ⟨⟨by decide +kernel, by decide +kernel, by decide +kernel, by decide⟩,
    by decide +kernel, by decide +kernel, by decide +kernel, by decide +kernel⟩

end Driver

end ExclusiveAudio
