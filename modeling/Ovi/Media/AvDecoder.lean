import Ovi.Types
import Ovi.Library.SendReceive

namespace Ovi

open SendReceive

inductive AvMediaType where
  | unknown
  | video
  | audio
  | data
  | subtitle
  | attachment
deriving DecidableEq, Repr

structure AvStream where
  -- `avcodec_get_type(codecpar->codec_id)`
  codecType : AvMediaType
  timeBase : ℚ
deriving DecidableEq, Repr

structure AvPacket (n : Nat) (D : Type) where
  streamIndex : Fin (n + 1)
  data : D
deriving DecidableEq, Repr

def avPacketAlloc (n : Nat) (D : Type) : AvPacket n (Option D) := ⟨0,none⟩

def AvPacket.filled {n : Nat} {D : Type} (pkt : AvPacket n D) : AvPacket n (Option D) :=
  ⟨pkt.streamIndex,some pkt.data⟩

structure AvFormatContext (n : Nat) (D : Type) where
  streams : Fin (n + 1) → AvStream
  -- what `av_read_frame` still has to give before `AVERROR_EOF`
  reads : List (Except Int (AvPacket n D))

structure AvDecoder (n : Nat) (D δ : Type) where
  formatCtx : AvFormatContext n D
  codecCtx : δ
  mediaType : AvMediaType
  streamId : Fin (n + 1)
  eof : Bool
  timeBase : ℚ
  frameNum : Nat

namespace AvDecoder

variable {n : Nat} {D F δ : Type}

def make (mediaType : AvMediaType) (streamId : Fin (n + 1)) (formatCtx : AvFormatContext n D)
    (codecCtx : δ) : AvDecoder n D δ where
  formatCtx := formatCtx
  codecCtx := codecCtx
  mediaType := mediaType
  streamId := streamId
  eof := false
  timeBase := 0
  frameNum := 0

def rest (d : AvDecoder n D δ) (reads : List (Except Int (AvPacket n D))) : AvDecoder n D δ :=
  { d with formatCtx := { d.formatCtx with reads := reads } }

def passes (d : AvDecoder n D δ) (streamIndex : Fin (n + 1)) : Bool :=
  (d.formatCtx.streams streamIndex).codecType == d.mediaType

def deliver (d : AvDecoder n D δ) (pkt : AvPacket n (Option D)) :
    Except Exn (Option (AvPacket n (Option D))) × AvDecoder n D δ :=
  (.ok (some pkt),{ d with timeBase := (d.formatCtx.streams pkt.streamIndex).timeBase })

-- `while (1)`: a packet of another media type is freed, and the loop is left once `_eof` is set
def readLoop (d : AvDecoder n D δ) : List (Except Int (AvPacket n D)) →
    Except Exn (Option (AvPacket n (Option D))) × AvDecoder n D δ
  | [] =>
    let d := { d.rest [] with eof := true }
    if d.passes (avPacketAlloc n D).streamIndex then d.deliver (avPacketAlloc n D)
    else (.ok none,d)
  | .error _ :: reads => (.error (.ovi oviErrorInvalidOperation),d.rest reads)
  | .ok pkt :: reads =>
    if d.passes pkt.streamIndex then (d.rest reads).deliver pkt.filled
    else if d.eof then (.ok none,d.rest reads)
    else d.readLoop reads

def readFrame (d : AvDecoder n D δ) :
    Except Exn (Option (AvPacket n (Option D))) × AvDecoder n D δ :=
  d.readLoop d.formatCtx.reads

def readFrames : Nat → AvDecoder n D δ → Except Exn (List (Option (AvPacket n (Option D))))
  | 0, _ => .ok []
  | calls + 1, d => do
    let pkt ← d.readFrame.1
    let pkts ← readFrames calls d.readFrame.2
    return pkt :: pkts

def passing (d : AvDecoder n D δ) (packets : List (AvPacket n D)) : List (AvPacket n D) :=
  packets.filter (fun pkt => d.passes pkt.streamIndex)

def atEof (d : AvDecoder n D δ) : Option (AvPacket n (Option D)) :=
  if d.passes 0 then some (avPacketAlloc n D) else none

theorem readLoop_eof (d : AvDecoder n D δ) : ∃ time, d.readLoop [] =
    (.ok d.atEof,{ d.rest [] with eof := true, timeBase := time }) := by
  rw [readLoop,atEof]
  by_cases h : d.passes 0
  · rw [if_pos h]
    exact ⟨_,if_pos h⟩
  · rw [if_neg h]
    exact ⟨d.timeBase,if_neg h⟩

theorem readLoop_skip (d : AvDecoder n D δ) {pkt : AvPacket n D}
    (h : d.passes pkt.streamIndex = false) (heof : d.eof = false)
    (reads : List (Except Int (AvPacket n D))) :
    d.readLoop (.ok pkt :: reads) = d.readLoop reads := by
  rw [readLoop,if_neg (Bool.eq_false_iff.mp h),if_neg (Bool.eq_false_iff.mp heof)]

theorem readLoop_pass (d : AvDecoder n D δ) {pkt : AvPacket n D}
    (h : d.passes pkt.streamIndex = true) (reads : List (Except Int (AvPacket n D))) :
    d.readLoop (.ok pkt :: reads) = (d.rest reads).deliver pkt.filled := by
  rw [readLoop,if_pos h]

theorem readLoop_empty (d : AvDecoder n D δ) {packets : List (AvPacket n D)}
    (heof : d.eof = false) (h : d.passing packets = []) :
    d.readLoop (packets.map .ok) = d.readLoop [] := by
  induction packets with
  | nil => rfl
  | cons pkt packets ih =>
    obtain ⟨hpkt,hrest⟩ := List.forall_mem_cons.mp (List.filter_eq_nil_iff.mp h)
    rw [List.map_cons,readLoop_skip d (Bool.eq_false_iff.mpr hpkt) heof]
    exact ih (List.filter_eq_nil_iff.mpr hrest)

theorem readLoop_cons (d : AvDecoder n D δ) {packets more : List (AvPacket n D)}
    {pkt : AvPacket n D} (heof : d.eof = false) (h : d.passing packets = pkt :: more) :
    ∃ left, d.readLoop (packets.map .ok) = (d.rest (left.map .ok)).deliver pkt.filled ∧
      d.passing left = more := by
  induction packets with
  | nil => cases h
  | cons head packets ih =>
    rw [passing,List.filter_cons] at h
    cases hpass : d.passes head.streamIndex with
    | true =>
      rw [if_pos hpass] at h
      obtain ⟨rfl,hmore⟩ := List.cons_eq_cons.mp h
      exact ⟨packets,readLoop_pass d hpass _,hmore⟩
    | false =>
      rw [if_neg (Bool.eq_false_iff.mp hpass)] at h
      rw [List.map_cons,readLoop_skip d hpass heof]
      exact ih h

theorem readFrames_eof (d : AvDecoder n D δ) (h : d.formatCtx.reads = []) (calls : Nat) :
    d.readFrames calls = .ok ((List.range calls).map fun _ => d.atEof) := by
  induction calls generalizing d with
  | zero => rfl
  | succ calls ih =>
    obtain ⟨time,heq⟩ := d.readLoop_eof
    rw [List.range_succ_eq_map,List.map_cons,List.map_map,readFrames,readFrame,h,heq]
    rw [ih { d.rest [] with eof := true, timeBase := time } rfl]
    rfl

theorem readFrames_passing (d : AvDecoder n D δ) {packets : List (AvPacket n D)}
    (heof : d.eof = false) (h : d.formatCtx.reads = packets.map .ok) (calls : Nat) :
    d.readFrames calls = .ok ((List.range calls).map fun i =>
      ((d.passing packets).map (some ·.filled))[i]?.getD d.atEof) := by
  induction calls generalizing d packets with
  | zero => rfl
  | succ calls ih =>
    rw [List.range_succ_eq_map,List.map_cons,List.map_map,readFrames,readFrame,h]
    cases hp : d.passing packets with
    | nil =>
      obtain ⟨time,heq⟩ := d.readLoop_eof
      rw [readLoop_empty d heof hp,heq]
      rw [readFrames_eof { d.rest [] with eof := true, timeBase := time } rfl]
      rfl
    | cons pkt more =>
      obtain ⟨left,heq,hleft⟩ := readLoop_cons d heof hp
      have hnext := @ih ((d.rest (left.map .ok)).deliver pkt.filled).2 left heof rfl
      rw [heq,hnext,← hleft]
      rfl

end AvDecoder

end Ovi
