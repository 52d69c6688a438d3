import Ovi.Media.AvDecoder

namespace Ovi

open SendReceive

namespace AvDecoder

variable {n : Nat} {D F δ : Type} (c : Codec D F δ)

-- one turn of the loop frees the packet whether or not the decoder took it
def decode : Nat → AvDecoder n D δ → Option (Except Exn (Option F) × AvDecoder n D δ)
  | 0, _ => none
  | fuel + 1, d =>
    match d.readFrame with
    | (.error e,d) => some (.error e,d)
    | (.ok none,d) => some (.ok none,d)
    | (.ok (some pkt),d) =>
      let sent := c.send d.codecCtx pkt.data
      let d := { d with codecCtx := sent.2 }
      if sent.1 < 0 ∧ sent.1 ≠ averrorEagain ∧ sent.1 ≠ averrorEof then some (.ok none,d)
      else
        match c.receive sent.2 with
        | (.ok frame,codecCtx) => some (.ok (some frame),
            { d with codecCtx := codecCtx, frameNum := c.frameNumber codecCtx })
        | (.error ret,codecCtx) =>
          let d := { d with codecCtx := codecCtx }
          if ret = averrorEagain then decode fuel d else some (.ok none,d)

def decodeAll : Nat → AvDecoder n D δ → Option (Except Exn (List F × AvDecoder n D δ))
  | 0, _ => none
  | fuel + 1, d =>
    match d.decode c fuel with
    | none => none
    | some (.error e,_) => some (.error e)
    | some (.ok none,d) => some (.ok ([],d))
    | some (.ok (some frame),d) =>
      (decodeAll fuel d).map (Except.map fun r => (frame :: r.1,r.2))

def calculateTotalFrames (fuel : Nat) (d : AvDecoder n D δ) : Option (Except Exn Nat) :=
  (d.decodeAll c fuel).map (Except.map fun r => r.2.frameNum)

def Ends (d : AvDecoder n D δ) (frames : List F) (d' : AvDecoder n D δ) : Prop :=
  ∃ fuel, d.decodeAll c fuel = some (.ok (frames,d'))

section Turns

variable {c} {d d₁ d₂ d' : AvDecoder n D δ} {pkt : AvPacket n (Option D)} {frames : List F}

theorem expected_continues {ret : Int} (h : Expected ret) :
    ¬(ret < 0 ∧ ret ≠ averrorEagain ∧ ret ≠ averrorEof) := by
  rintro ⟨hneg,hagain,heof⟩
  obtain rfl | h | h := h
  · exact absurd hneg (by decide)
  · exact hagain h
  · exact heof h

theorem decode_frame (hread : d.readFrame = (.ok (some pkt),d₁))
    (hsent : Expected (c.pass d₁.codecCtx pkt.data).1) {frame : F}
    (hrecv : (c.pass d₁.codecCtx pkt.data).2.1 = .ok frame) (fuel : Nat) :
    d.decode c (fuel + 1) = some (.ok (some frame),
      { d₁ with codecCtx := (c.pass d₁.codecCtx pkt.data).2.2,
                frameNum := c.frameNumber (c.pass d₁.codecCtx pkt.data).2.2 }) := by
  rw [decode,hread]
  have hgo : Expected (c.send d₁.codecCtx pkt.data).1 := hsent
  dsimp only
  rw [if_neg (expected_continues hgo)]
  rw [Codec.pass] at hrecv ⊢
  generalize c.receive (c.send d₁.codecCtx pkt.data).2 = r at hrecv ⊢
  obtain ⟨recv,s⟩ := r
  cases hrecv
  rfl

theorem decode_empty (hread : d.readFrame = (.ok (some pkt),d₁))
    (hsent : Expected (c.pass d₁.codecCtx pkt.data).1) {ret : Int}
    (hrecv : (c.pass d₁.codecCtx pkt.data).2.1 = .error ret) (fuel : Nat) :
    d.decode c (fuel + 1) =
      if ret = averrorEagain then
        decode c fuel { d₁ with codecCtx := (c.pass d₁.codecCtx pkt.data).2.2 }
      else some (.ok none,{ d₁ with codecCtx := (c.pass d₁.codecCtx pkt.data).2.2 }) := by
  rw [decode,hread]
  have hgo : Expected (c.send d₁.codecCtx pkt.data).1 := hsent
  dsimp only
  rw [if_neg (expected_continues hgo)]
  rw [Codec.pass] at hrecv ⊢
  generalize c.receive (c.send d₁.codecCtx pkt.data).2 = r at hrecv ⊢
  obtain ⟨recv,s⟩ := r
  cases hrecv
  rfl

theorem decode_again (hread : d.readFrame = (.ok (some pkt),d₁))
    (hsent : Expected (c.pass d₁.codecCtx pkt.data).1)
    (hrecv : (c.pass d₁.codecCtx pkt.data).2.1 = .error averrorEagain) (fuel : Nat) :
    d.decode c (fuel + 1) =
      decode c fuel { d₁ with codecCtx := (c.pass d₁.codecCtx pkt.data).2.2 } :=
  (decode_empty hread hsent hrecv fuel).trans (if_pos rfl)

theorem decode_end (hread : d.readFrame = (.ok (some pkt),d₁))
    (hsent : Expected (c.pass d₁.codecCtx pkt.data).1)
    (hrecv : (c.pass d₁.codecCtx pkt.data).2.1 = .error averrorEof) (fuel : Nat) :
    d.decode c (fuel + 1) =
      some (.ok none,{ d₁ with codecCtx := (c.pass d₁.codecCtx pkt.data).2.2 }) :=
  (decode_empty hread hsent hrecv fuel).trans (if_neg (by decide))

theorem decode_succ {fuel : Nat} {r : Except Exn (Option F) × AvDecoder n D δ}
    (h : d.decode c fuel = some r) : d.decode c (fuel + 1) = some r := by
  induction fuel generalizing d with
  | zero => cases h
  | succ fuel ih =>
    rw [decode] at h ⊢
    generalize d.readFrame = turn at h ⊢
    obtain ⟨read,d₁⟩ := turn
    cases read with
    | error e => exact h
    | ok pkt =>
      cases pkt with
      | none => exact h
      | some pkt =>
        dsimp only at h ⊢
        split
        · rename_i hret
          rwa [if_pos hret] at h
        · rename_i hret
          rw [if_neg hret] at h
          generalize c.receive (c.send d₁.codecCtx pkt.data).2 = turn at h ⊢
          obtain ⟨recv,s⟩ := turn
          cases recv with
          | ok frame => exact h
          | error ret =>
            dsimp only at h ⊢
            split
            · rename_i hagain
              rw [if_pos hagain] at h
              exact ih h
            · rename_i hagain
              rwa [if_neg hagain] at h

theorem decodeAll_succ {fuel : Nat} (h : d.decodeAll c fuel = some (.ok (frames,d'))) :
    d.decodeAll c (fuel + 1) = some (.ok (frames,d')) := by
  induction fuel generalizing d frames with
  | zero => cases h
  | succ fuel ih =>
    rw [decodeAll] at h ⊢
    cases hd : d.decode c fuel with
    | none =>
      rw [hd] at h
      cases h
    | some r =>
      rw [hd] at h
      rw [decode_succ hd]
      obtain ⟨result,d₁⟩ := r
      cases result with
      | error e => exact h
      | ok frame =>
        cases frame with
        | none => exact h
        | some frame =>
          obtain ⟨rest,hrest,heq⟩ := Option.map_eq_some_iff.mp h
          cases rest with
          | error e => cases heq
          | ok r =>
            obtain ⟨frames₁,d₂⟩ := r
            cases heq
            exact Option.map_eq_some_iff.mpr ⟨_,ih hrest,rfl⟩

theorem ends_unique {frames' : List F} {d'' : AvDecoder n D δ} (h : d.Ends c frames d')
    (h' : d.Ends c frames' d'') : frames = frames' ∧ d' = d'' := by
  obtain ⟨fuel,h⟩ := h
  obtain ⟨fuel',h'⟩ := h'
  have hmono : ∀ {k m frames} {e : AvDecoder n D δ}, d.decodeAll c k = some (.ok (frames,e)) →
      d.decodeAll c (k + m) = some (.ok (frames,e)) := by
    intro k m frames e hk
    induction m with
    | zero => exact hk
    | succ m ih => exact decodeAll_succ ih
  have hboth := (hmono (m := fuel') h).symm.trans (Nat.add_comm fuel fuel' ▸ hmono (m := fuel) h')
  injection hboth with hboth
  injection hboth with hboth
  exact Prod.mk.inj hboth

theorem ends_of_frame {frame : F}
    (heq : ∀ fuel, d.decode c (fuel + 1) = some (.ok (some frame),d₁))
    (h : d₁.Ends c frames d') : d.Ends c (frame :: frames) d' := by
  obtain ⟨fuel,h⟩ := h
  refine ⟨fuel + 2,?_⟩
  rw [decodeAll,heq fuel]
  dsimp only
  rw [decodeAll_succ h]
  rfl

theorem ends_of_again (heq : ∀ fuel, d.decode c (fuel + 1) = d₁.decode c fuel)
    (h : d₁.Ends c frames d') : d.Ends c frames d' := by
  obtain ⟨fuel,h⟩ := h
  cases fuel with
  | zero => cases h
  | succ fuel =>
    have hlong := decodeAll_succ h
    refine ⟨fuel + 2,?_⟩
    rw [decodeAll] at h ⊢
    rw [heq fuel]
    cases hd : d₁.decode c fuel with
    | none =>
      rw [hd] at h
      cases h
    | some r =>
      rw [decodeAll,decode_succ hd] at hlong
      exact hlong

theorem ends_of_end (heq : ∀ fuel, d.decode c (fuel + 1) = some (.ok none,d₁)) :
    d.Ends c [] d₁ := by
  refine ⟨2,?_⟩
  rw [decodeAll,heq 0]

end Turns

section Runs

variable {c} {output : List D → List F} (C : Contract c output) {d d₁ d₂ d' : AvDecoder n D δ}
  {frames : List F} {xs ys : List D}

structure Decoded (d : AvDecoder n D δ) (xs : List D) (frames : List F)
    (d' : AvDecoder n D δ) : Prop where
  ends : d.Ends c frames d'
  consumed : (C.history d'.codecCtx).consumed = (C.history d.codecCtx).consumed ++ xs
  emitted : (C.history d'.codecCtx).emitted = (C.history d.codecCtx).emitted ++ frames
  complete : (C.history d'.codecCtx).emitted = output (C.history d'.codecCtx).consumed
  counted : (∀ s, c.frameNumber s = (C.history s).emitted.length) →
    d.frameNum = (C.history d.codecCtx).emitted.length →
    d'.frameNum = (C.history d'.codecCtx).emitted.length

variable {C}

theorem Decoded.of_frame {frame : F}
    (heq : ∀ fuel, d.decode c (fuel + 1) = some (.ok (some frame),d₁))
    (hc : (C.history d₁.codecCtx).consumed = (C.history d.codecCtx).consumed ++ ys)
    (he : (C.history d₁.codecCtx).emitted = (C.history d.codecCtx).emitted ++ [frame])
    (hn : d₁.frameNum = c.frameNumber d₁.codecCtx) (h : d₁.Decoded C xs frames d') :
    d.Decoded C (ys ++ xs) (frame :: frames) d' where
  ends := ends_of_frame heq h.ends
  consumed := by rw [h.consumed,hc,List.append_assoc]
  emitted := by rw [h.emitted,he,List.append_assoc,List.singleton_append]
  complete := h.complete
  counted := fun hnumber _ => h.counted hnumber (by rw [hn,hnumber])

theorem Decoded.of_again (heq : ∀ fuel, d.decode c (fuel + 1) = d₁.decode c fuel)
    (hc : (C.history d₁.codecCtx).consumed = (C.history d.codecCtx).consumed ++ ys)
    (he : (C.history d₁.codecCtx).emitted = (C.history d.codecCtx).emitted)
    (hn : d₁.frameNum = d.frameNum) (h : d₁.Decoded C xs frames d') :
    d.Decoded C (ys ++ xs) frames d' where
  ends := ends_of_again heq h.ends
  consumed := by rw [h.consumed,hc,List.append_assoc]
  emitted := by rw [h.emitted,he]
  complete := h.complete
  counted := fun hnumber hcount => h.counted hnumber (by rw [hn,hcount,he])

theorem readFrame_flush (h0 : d.passes 0 = true)
    (hreads : d.readLoop d.formatCtx.reads = d.readLoop []) :
    ∃ time, d.readFrame = (.ok (some (avPacketAlloc n D)),
      { d.rest [] with eof := true, timeBase := time }) := by
  obtain ⟨time,heq⟩ := d.readLoop_eof
  rw [atEof,if_pos h0] at heq
  exact ⟨time,hreads.trans heq⟩

variable (C)

theorem drained (d : AvDecoder n D δ) (h0 : d.passes 0 = true)
    (hreads : d.readLoop d.formatCtx.reads = d.readLoop []) :
    ∃ frames d', d.Decoded C [] frames d' := by
  induction hk : C.backlog d.codecCtx using Nat.strong_induction_on generalizing d with
  | h k ih =>
    obtain ⟨time,hread⟩ := readFrame_flush h0 hreads
    have hpass := C.flush_pass d.codecCtx
    obtain ⟨frame,hrecv,hemitted⟩ | ⟨hrecv,hsame,hall⟩ := hpass.received
    · have hlt := C.backlog_lt hpass.consumed hemitted
      rw [hk] at hlt
      have heq := decode_frame hread hpass.sent hrecv
      obtain ⟨frames,d',h⟩ := ih _ hlt { d.rest [] with
        eof := true
        timeBase := time
        codecCtx := (c.pass d.codecCtx none).2.2
        frameNum := c.frameNumber (c.pass d.codecCtx none).2.2 } h0 rfl rfl
      have hc := hpass.consumed.trans (List.append_nil _).symm
      exact ⟨frame :: frames,d',.of_frame heq hc hemitted rfl h⟩
    · refine ⟨[],_,ends_of_end (decode_end hread hpass.sent hrecv),?_,?_,?_,?_⟩
      · exact hpass.consumed.trans (List.append_nil _).symm
      · exact hsame.trans (List.append_nil _).symm
      · exact (hsame.trans hall).trans (congrArg output hpass.consumed.symm)
      · exact fun _ hcount => hcount.trans (congrArg List.length hsame.symm)

theorem decoded (d : AvDecoder n D δ) {packets : List (AvPacket n D)} (heof : d.eof = false)
    (hreads : d.formatCtx.reads = packets.map .ok) (h0 : d.passes 0 = true)
    (hflushed : (C.history d.codecCtx).flushed = false) : ∃ frames d',
      d.Decoded C (c.taken d.codecCtx ((d.passing packets).map (·.data))) frames d' := by
  induction hq : d.passing packets generalizing d packets with
  | nil =>
    exact drained C d h0 (by rw [hreads,readLoop_empty d heof hq])
  | cons pkt more ih =>
    obtain ⟨left,hread,hleft⟩ := readLoop_cons d heof hq
    rw [← hreads] at hread
    have hpass := C.data_pass hflushed pkt.data
    have hsent : Expected (c.pass d.codecCtx (some pkt.data)).1 :=
      hpass.sent.imp_right .inl
    have htaken : c.taken d.codecCtx ((pkt :: more).map (·.data)) =
        (if (c.pass d.codecCtx (some pkt.data)).1 = 0 then [pkt.data] else []) ++
          c.taken (c.pass d.codecCtx (some pkt.data)).2.2 (more.map (·.data)) := by
      rw [List.map_cons,Codec.taken]
      split <;> rfl
    rw [htaken]
    obtain ⟨frame,hrecv,hemitted⟩ | ⟨hrecv,hemitted⟩ := hpass.received
    · have heq := decode_frame hread hsent hrecv
      obtain ⟨frames,d',h⟩ := @ih { (d.rest (left.map .ok)) with
        timeBase := (d.formatCtx.streams pkt.streamIndex).timeBase
        codecCtx := (c.pass d.codecCtx (some pkt.data)).2.2
        frameNum := c.frameNumber (c.pass d.codecCtx (some pkt.data)).2.2 } left heof rfl h0
        hpass.flushed hleft
      exact ⟨frame :: frames,d',.of_frame heq hpass.consumed hemitted rfl h⟩
    · have heq := decode_again hread hsent hrecv
      obtain ⟨frames,d',h⟩ := @ih { (d.rest (left.map .ok)) with
        timeBase := (d.formatCtx.streams pkt.streamIndex).timeBase
        codecCtx := (c.pass d.codecCtx (some pkt.data)).2.2 } left heof rfl h0
        hpass.flushed hleft
      exact ⟨frames,d',.of_again heq hpass.consumed hemitted rfl h⟩

def sequence (d : AvDecoder n D δ) (packets : List (AvPacket n D)) : List D :=
  (d.passing packets).map (·.data)

def DecodesAll (d : AvDecoder n D δ) (xs : List D) : Prop :=
  ∃ frames d', d.Ends c frames d' ∧ frames = output xs ∧
    (C.history d'.codecCtx).consumed = xs

variable {C}

theorem decodes_all_iff (mediaType : AvMediaType) (streamId : Fin (n + 1))
    (streams : Fin (n + 1) → AvStream) (packets : List (AvPacket n D)) {s : δ}
    (hopen : C.history s = ⟨[],false,[]⟩) (h0 : (streams 0).codecType = mediaType) :
    let d := make mediaType streamId ⟨streams,packets.map .ok⟩ s
    d.DecodesAll C (d.sequence packets) ↔ c.takesAll s (d.sequence packets) = true := by
  intro d
  have hflushed : (C.history s).flushed = false := by rw [hopen]
  obtain ⟨frames,d',h⟩ := decoded C d rfl (show d.formatCtx.reads = packets.map .ok from rfl)
    (beq_iff_eq.mpr h0) hflushed
  have hc : (C.history d'.codecCtx).consumed = c.taken s (d.sequence packets) := by
    rw [h.consumed,show C.history d.codecCtx = ⟨[],false,[]⟩ from hopen]
    rfl
  have hframes : frames = output (c.taken s (d.sequence packets)) := by
    rw [← hc,← h.complete,h.emitted,show C.history d.codecCtx = ⟨[],false,[]⟩ from hopen]
    rfl
  rw [← C.taken_eq_iff hflushed]
  constructor
  · rintro ⟨frames',d'',hends,-,hall⟩
    obtain ⟨-,rfl⟩ := ends_unique h.ends hends
    exact hc.symm.trans hall
  · intro htaken
    exact ⟨frames,d',h.ends,by rw [hframes,htaken],by rw [hc,htaken]⟩

def videoOnly (_ : Fin 1) : AvStream := ⟨.video,1⟩

theorem decodes_all_iff_videoOnly :
    (make .video 0 ⟨videoOnly,[⟨0,1⟩,⟨0,2⟩].map .ok⟩ ⟨[],false,0⟩).DecodesAll
      (bufferedContract fun x : Nat => [x]) [1,2] :=
  (decodes_all_iff .video 0 videoOnly [⟨0,1⟩,⟨0,2⟩] (by rfl) (by rfl)).mpr (by decide)

-- two frames a packet: the second packet is refused, freed and never sent again
theorem decodesAll_two_frames :
    ¬(make .video 0 ⟨videoOnly,[⟨0,1⟩,⟨0,2⟩].map .ok⟩ ⟨[],false,0⟩).DecodesAll
      (bufferedContract fun x : Nat => [x,x]) [1,2] := by
  rintro ⟨frames,d',hends,hframes,-⟩
  have hrun : ∃ d'', (make .video 0 ⟨videoOnly,[⟨0,1⟩,⟨0,2⟩].map .ok⟩ ⟨[],false,0⟩).Ends
      (buffered fun x : Nat => [x,x]) [1,1] d'' := ⟨_,6,rfl⟩
  obtain ⟨d'',hrun⟩ := hrun
  obtain ⟨hsame,-⟩ := ends_unique hends hrun
  rw [hframes] at hsame
  revert hsame
  decide

theorem calculateTotalFrames_eq (mediaType : AvMediaType) (streamId : Fin (n + 1))
    (streams : Fin (n + 1) → AvStream) (packets : List (AvPacket n D)) {s : δ}
    (hopen : C.history s = ⟨[],false,[]⟩) (h0 : (streams 0).codecType = mediaType)
    (hnumber : ∀ s, c.frameNumber s = (C.history s).emitted.length) :
    let d := make mediaType streamId ⟨streams,packets.map .ok⟩ s
    ∃ fuel, d.calculateTotalFrames c fuel =
      some (.ok (output (c.taken s (d.sequence packets))).length) := by
  intro d
  have hd : C.history d.codecCtx = ⟨[],false,[]⟩ := hopen
  obtain ⟨frames,d',h⟩ := decoded C d rfl (show d.formatCtx.reads = packets.map .ok from rfl)
    (beq_iff_eq.mpr h0) (by rw [hd])
  obtain ⟨fuel,hfuel⟩ := h.ends
  have hcount := h.counted hnumber (by rw [hd]; rfl)
  refine ⟨fuel,?_⟩
  rw [calculateTotalFrames,hfuel,Option.map_some,Except.map,hcount,h.complete,h.consumed,hd]
  rfl

end Runs

end AvDecoder

end Ovi
