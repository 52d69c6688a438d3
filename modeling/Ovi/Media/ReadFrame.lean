import Ovi.Media.AvDecoder

namespace Ovi

theorem filter_eq_filter_iff {α : Type} {p q : α → Bool} {l : List α} :
    l.filter p = l.filter q ↔ ∀ x ∈ l, p x = q x := by
  constructor
  · intro h x hx
    have hmem : x ∈ l.filter p ↔ x ∈ l.filter q := by rw [h]
    rw [List.mem_filter,List.mem_filter] at hmem
    exact Bool.eq_iff_iff.mpr ⟨fun hp => (hmem.mp ⟨hx,hp⟩).2,fun hq => (hmem.mpr ⟨hx,hq⟩).2⟩
  · exact List.filter_congr

theorem padded_eq_iff {α : Type} {l l' : List α} {x : α} (hl : x ∉ l) (hl' : x ∉ l') :
    (∀ i : Nat, l[i]?.getD x = l'[i]?.getD x) ↔ l = l' := by
  constructor
  · intro h
    apply List.ext_getElem?
    intro i
    have hi := h i
    cases hy : l[i]? with
    | none =>
      cases hz : l'[i]? with
      | none => rfl
      | some z =>
        rw [hy,hz] at hi
        exact absurd (List.mem_of_getElem? (hz.trans (congrArg some hi.symm))) hl'
    | some y =>
      cases hz : l'[i]? with
      | none =>
        rw [hy,hz] at hi
        exact absurd (List.mem_of_getElem? (hy.trans (congrArg some hi))) hl
      | some z =>
        rw [hy,hz] at hi
        exact congrArg some hi
  · rintro rfl i
    rfl

theorem map_range_eq_iff {α : Type} {f g : Nat → α} :
    (∀ n, (List.range n).map f = (List.range n).map g) ↔ ∀ i, f i = g i := by
  constructor
  · intro h i
    exact List.map_inj_left.mp (h (i + 1)) i (List.mem_range.mpr (Nat.lt_succ_self i))
  · intro h n
    exact List.map_congr_left fun i _ => h i

variable {n : Nat} {D δ : Type}

theorem AvPacket.filled_injective :
    Function.Injective (fun pkt : AvPacket n D => some pkt.filled) := by
  intro pkt pkt' h
  injection h with h
  injection h with hindex hdata
  injection hdata with hdata
  cases pkt
  cases pkt'
  exact congrArg₂ AvPacket.mk hindex hdata

theorem AvPacket.flush_notMem (pkts : List (AvPacket n D)) :
    some (avPacketAlloc n D) ∉ pkts.map (some ·.filled) := by
  intro hmem
  obtain ⟨pkt,-,heq⟩ := List.mem_map.mp hmem
  injection heq with heq
  injection heq with hindex hdata
  cases hdata

namespace AvDecoder

def own (d : AvDecoder n D δ) (packets : List (AvPacket n D)) : List (AvPacket n D) :=
  packets.filter (fun pkt => pkt.streamIndex == d.streamId)

def ReadsOwnStream (d : AvDecoder n D δ) (packets : List (AvPacket n D)) : Prop :=
  ∀ calls, d.readFrames calls = .ok ((List.range calls).map fun i =>
    ((d.own packets).map (some ·.filled))[i]?.getD (some (avPacketAlloc n D)))

theorem reads_own_stream_iff (mediaType : AvMediaType) (streamId : Fin (n + 1))
    (streams : Fin (n + 1) → AvStream) (packets : List (AvPacket n D)) (codecCtx : δ) :
    (make mediaType streamId ⟨streams,packets.map .ok⟩ codecCtx).ReadsOwnStream packets ↔
      (∀ pkt ∈ packets,
        ((streams pkt.streamIndex).codecType = mediaType ↔ pkt.streamIndex = streamId)) ∧
      (streams 0).codecType = mediaType := by
  let d := make mediaType streamId ⟨streams,packets.map .ok⟩ codecCtx
  have hreads := d.readFrames_passing rfl (show d.formatCtx.reads = packets.map .ok from rfl)
  have hpass : ∀ i, d.passes i = true ↔ (streams i).codecType = mediaType := fun i => beq_iff_eq
  have hfilter : d.passing packets = d.own packets ↔ ∀ pkt ∈ packets,
      ((streams pkt.streamIndex).codecType = mediaType ↔ pkt.streamIndex = streamId) := by
    rw [passing,own,filter_eq_filter_iff]
    refine forall₂_congr fun pkt _ => ?_
    rw [Bool.eq_iff_iff,hpass,beq_iff_eq]
    rfl
  have hlast : d.atEof = some (avPacketAlloc n D) ↔ (streams 0).codecType = mediaType := by
    rw [← hpass,atEof]
    cases d.passes 0 <;> simp
  have hseq : d.ReadsOwnStream packets ↔ ∀ i : Nat,
      ((d.passing packets).map (some ·.filled))[i]?.getD d.atEof =
        ((d.own packets).map (some ·.filled))[i]?.getD (some (avPacketAlloc n D)) := by
    rw [← map_range_eq_iff]
    refine forall_congr' fun calls => ?_
    rw [hreads calls,Except.ok.injEq]
  rw [hseq,← hfilter,← hlast]
  constructor
  · intro h
    have heof : d.atEof = some (avPacketAlloc n D) := by
      have hend := h ((d.passing packets).length + (d.own packets).length)
      rwa [List.getElem?_eq_none (by rw [List.length_map]; omega),
        List.getElem?_eq_none (by rw [List.length_map]; omega)] at hend
    rw [heof] at h
    have hmap := (padded_eq_iff (AvPacket.flush_notMem _) (AvPacket.flush_notMem _)).mp h
    exact ⟨(List.map_inj_right fun _ _ h => AvPacket.filled_injective h).mp hmap,heof⟩
  · rintro ⟨hown,heof⟩ i
    rw [hown,heof]

-- the audio of a film comes first, so the decoder of its video never gets the flush packet
def audioFirst (i : Fin 2) : AvStream := if i = 0 then ⟨.audio,1⟩ else ⟨.video,1⟩

theorem audioFirst_not_drained : ¬ReadsOwnStream
    (make .video 1 ⟨audioFirst,[⟨0,10⟩,⟨1,20⟩].map .ok⟩ ()) [⟨0,10⟩,(⟨1,20⟩ : AvPacket 1 Nat)] := by
  intro h
  have h2 := h 2
  revert h2
  decide

end AvDecoder

end Ovi
