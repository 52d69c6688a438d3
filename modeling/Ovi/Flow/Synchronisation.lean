import Ovi.Flow.Reading
import Mathlib.Data.List.Induction
import Mathlib.Tactic.Linarith
import Mathlib.Tactic.NormNum

namespace Ovi

structure Times (frames : List FramePack) : Prop where
  increasing : frames.Pairwise (fun f g => f.pts < g.pts)
  nonneg : ∀ f ∈ frames, 0 ≤ f.pts

structure Streams where
  hasVideo : Bool
  hasAudio : Bool
  video : List FramePack
  audio : List FramePack
  video_of_frames : hasVideo = false → video = []
  audio_of_frames : hasAudio = false → audio = []
  video_times : Times video
  audio_times : Times audio

def Streams.extractor (m : Streams) : FrameExtractor :=
  ⟨m.hasVideo,m.hasAudio,m.video.map .ok,m.audio.map .ok⟩

inductive Alternates (e : FrameExtractor) : AvSynchronizer → List FramePack → Prop
  | start : Alternates e (AvSynchronizer.make e) []
  | next {s s₁ s₂ : AvSynchronizer} {returned aFrames : List FramePack}
    {vFrame : Option FramePack} : Alternates e s returned → s.getNextVideo = .ok (vFrame,s₁) →
      s₁.getNextAudio = .ok (aFrames,s₂) → Alternates e s₂ (returned ++ aFrames)

def laterThan (p : ℚ) (frames : List FramePack) : Nat := frames.countP (fun a => a.pts > p)

def PrefixKept (m : Streams) : Prop :=
  ∀ s returned, Alternates m.extractor s returned → returned <+: m.audio

def Synchronised (m : Streams) : Prop :=
  ∀ s returned vFrame s₁ aFrames s₂, Alternates m.extractor s returned →
    s.getNextVideo = .ok (some vFrame,s₁) → s₁.audioEOF = false →
    s₁.getNextAudio = .ok (aFrames,s₂) →
      (∀ a ∈ m.audio, a.pts ≤ vFrame.pts → a ∈ returned ++ aFrames) ∧
        laterThan vFrame.pts (returned ++ aFrames) ≤ 1

def AudioPaced (m : Streams) : Prop :=
  ∀ p q, [p,q] <:+: m.video → 2 ≤ laterThan q.pts m.audio →
    ∃ a ∈ m.audio, p.pts < a.pts ∧ a.pts ≤ q.pts

section Batch

variable {pts : ℚ} {audio : List FramePack}

structure BatchEnds (pts : ℚ) (b : List FramePack) (rest : List FramePack) (ended : Bool) :
    Prop where
  at_eof : ended = true → rest = [] ∧ ∀ a ∈ b, a.pts ≤ pts
  at_later : ended = false → ∃ init x, b = init ++ [x] ∧ (∀ a ∈ init, a.pts ≤ pts) ∧ pts < x.pts

theorem batch_append (pts : ℚ) (audio : List FramePack) :
    (batch pts audio).1 ++ (batch pts audio).2.1 = audio := by
  induction audio with
  | nil => rfl
  | cons a audio ih =>
    rw [batch]
    split
    · rfl
    · exact congrArg (List.cons a) ih

theorem batch_ends (hp : pts ≠ noPts) (audio : List FramePack) :
    BatchEnds pts (batch pts audio).1 (batch pts audio).2.1 (batch pts audio).2.2 := by
  induction audio with
  | nil =>
    constructor
    · intro _
      exact ⟨rfl,List.forall_mem_nil _⟩
    · intro he
      cases he
  | cons a audio ih =>
    rw [batch]
    split
    · rename_i h
      constructor
      · intro he
        cases he
      · intro _
        exact ⟨[],a,rfl,List.forall_mem_nil _,h.resolve_left hp⟩
    · rename_i h
      have ha : a.pts ≤ pts := not_lt.mp (not_or.mp h).2
      constructor
      · intro he
        obtain ⟨hrest,hall⟩ := ih.at_eof he
        exact ⟨hrest,List.forall_mem_cons.mpr ⟨ha,hall⟩⟩
      · intro he
        obtain ⟨init,x,hb,hall,hx⟩ := ih.at_later he
        exact ⟨a :: init,x,congrArg (List.cons a) hb,List.forall_mem_cons.mpr ⟨ha,hall⟩,hx⟩

theorem laterThan_append (p : ℚ) (xs ys : List FramePack) :
    laterThan p (xs ++ ys) = laterThan p xs + laterThan p ys := List.countP_append

theorem laterThan_eq_zero {p : ℚ} {frames : List FramePack} (h : ∀ a ∈ frames, a.pts ≤ p) :
    laterThan p frames = 0 := by
  rw [laterThan,List.countP_eq_zero]
  intro a ha
  simpa using h a ha

theorem laterThan_mono {p q : ℚ} (h : p ≤ q) (frames : List FramePack) :
    laterThan q frames ≤ laterThan p frames := by
  refine List.countP_mono_left (fun a _ ha => ?_)
  simp only [decide_eq_true_eq] at ha ⊢
  exact h.trans_lt ha

theorem exists_later {p : ℚ} {frames : List FramePack} (h : 0 < laterThan p frames) :
    ∃ a ∈ frames, p < a.pts := by
  obtain ⟨a,ha,hp⟩ := List.countP_pos_iff.mp h
  exact ⟨a,ha,by simpa using hp⟩

theorem laterThan_pos {p : ℚ} {frames : List FramePack} {a : FramePack} (ha : a ∈ frames)
    (hp : p < a.pts) : 0 < laterThan p frames :=
  List.countP_pos_iff.mpr ⟨a,ha,by simpa using hp⟩

theorem laterThan_lt {p q : ℚ} (h : p ≤ q) {frames : List FramePack} {a : FramePack}
    (ha : a ∈ frames) (hp : p < a.pts) (hq : a.pts ≤ q) :
    laterThan q frames < laterThan p frames := by
  obtain ⟨xs,ys,rfl⟩ := List.append_of_mem ha
  have hxs := laterThan_mono h xs
  have hys := laterThan_mono h ys
  have hap : laterThan p [a] = 1 := by simp [laterThan,hp]
  have haq : laterThan q [a] = 0 := laterThan_eq_zero (by simpa using hq)
  rw [List.append_cons,laterThan_append,laterThan_append,laterThan_append,laterThan_append]
  omega

theorem BatchEnds.laterThan_le {b rest : List FramePack} {ended : Bool}
    (h : BatchEnds pts b rest ended) : laterThan pts b ≤ if ended then 0 else 1 := by
  cases ended with
  | true => exact (laterThan_eq_zero (h.at_eof rfl).2).le
  | false =>
    obtain ⟨init,x,rfl,hall,-⟩ := h.at_later rfl
    have hx : laterThan pts [x] ≤ 1 := List.countP_le_length
    rw [laterThan_append,laterThan_eq_zero hall]
    simpa using hx

end Batch

section Reachable

variable {m : Streams}

def Streams.start (m : Streams) : Reading := Reading.start m.hasVideo m.hasAudio m.video m.audio

structure Consumed (m : Streams) (r : Reading) (done returned : List FramePack) : Prop where
  hasVideo : r.hasVideo = m.hasVideo
  video : done ++ r.video = m.video
  audio : returned ++ r.audio = m.audio
  at_eof : r.videoEOF = true → r.hasVideo = true → r.video = []

theorem Consumed.start (m : Streams) : Consumed m m.start [] [] :=
  ⟨rfl,rfl,rfl,fun h h' => by simp_all [Streams.start,Reading.start]⟩

theorem Consumed.nextVideo {r : Reading} {done returned : List FramePack}
    (h : Consumed m r done returned) :
    Consumed m r.nextVideo.2 (done ++ r.nextVideo.1.toList) returned := by
  obtain ⟨hasVideo,hasAudio,video,audio,videoEOF,audioEOF,pts⟩ := r
  cases videoEOF with
  | true => exact ⟨h.hasVideo,by simpa [Reading.nextVideo] using h.video,h.audio,h.at_eof⟩
  | false =>
    cases video with
    | nil => exact ⟨h.hasVideo,by simpa [Reading.nextVideo] using h.video,h.audio,fun _ _ => rfl⟩
    | cons f video => exact ⟨h.hasVideo,by simpa [Reading.nextVideo] using h.video,h.audio,nofun⟩

theorem Consumed.nextAudio {r : Reading} {done returned : List FramePack}
    (h : Consumed m r done returned) :
    Consumed m r.nextAudio.2 done (returned ++ r.nextAudio.1) := by
  unfold Reading.nextAudio
  split
  · simpa using h
  · refine ⟨h.hasVideo,h.video,?_,h.at_eof⟩
    rw [List.append_assoc,batch_append]
    exact h.audio

theorem consumed_of_alternates {s : AvSynchronizer} {returned : List FramePack}
    (h : Alternates m.extractor s returned) :
    ∃ r done, s = r.synchronizer ∧ Consumed m r done returned := by
  induction h with
  | start => exact ⟨m.start,[],synchronizer_make _ _ _ _,.start m⟩
  | next _ hv ha ih =>
    obtain ⟨r,done,rfl,hr⟩ := ih
    rw [getNextVideo_synchronizer] at hv
    cases hv
    rw [getNextAudio_synchronizer] at ha
    cases ha
    exact ⟨_,_,rfl,hr.nextVideo.nextAudio⟩

theorem alternates_both {r : Reading} {returned : List FramePack}
    (h : Alternates m.extractor r.synchronizer returned) :
    Alternates m.extractor r.both.2.synchronizer (returned ++ r.both.1.2) :=
  .next h (getNextVideo_synchronizer r) (getNextAudio_synchronizer r.nextVideo.2)

theorem prefixKept (m : Streams) : PrefixKept m := by
  intro s returned h
  obtain ⟨r,done,-,hr⟩ := consumed_of_alternates h
  exact ⟨r.audio,hr.audio⟩

theorem alternates_continue {s : AvSynchronizer} {returned : List FramePack}
    (h : Alternates m.extractor s returned) :
    ∃ vFrame s₁ aFrames s₂, s.getNextVideo = .ok (vFrame,s₁) ∧
      s₁.getNextAudio = .ok (aFrames,s₂) := by
  obtain ⟨r,done,rfl,-⟩ := consumed_of_alternates h
  exact ⟨_,_,_,_,getNextVideo_synchronizer r,getNextAudio_synchronizer r.nextVideo.2⟩

end Reachable

section Current

variable {m : Streams} {q : FramePack} {returned b rest : List FramePack} {ended : Bool}

structure Call (m : Streams) (q : FramePack) (returned b rest : List FramePack) (ended : Bool) :
    Prop where
  audio : returned ++ b ++ rest = m.audio
  ends : BatchEnds q.pts b rest ended

theorem Call.returns_due (h : Call m q returned b rest ended) {a : FramePack} (ha : a ∈ m.audio)
    (hq : a.pts ≤ q.pts) : a ∈ returned ++ b := by
  rw [← h.audio] at ha
  refine (List.mem_append.mp ha).resolve_right (fun hrest => ?_)
  cases ended with
  | true =>
    rw [(h.ends.at_eof rfl).1] at hrest
    cases hrest
  | false =>
    obtain ⟨init,x,rfl,-,hx⟩ := h.ends.at_later rfl
    have hsorted := m.audio_times.increasing
    rw [← h.audio] at hsorted
    have hlt := (List.pairwise_append.mp hsorted).2.2 x (by simp) a hrest
    linarith

theorem Call.due_returned (h : Call m q returned b rest ended) {a y : FramePack}
    (ha : a ∈ returned ++ b) (hq : a.pts ≤ q.pts) (hy : y ∈ returned) (hyq : q.pts < y.pts) :
    a ∈ returned := by
  refine (List.mem_append.mp ha).resolve_right (fun hb => ?_)
  have hsorted := m.audio_times.increasing
  rw [← h.audio,List.append_assoc] at hsorted
  have hlt := (List.pairwise_append.mp hsorted).2.2 y hy a (List.mem_append_left _ hb)
  linarith

theorem Call.paced (h : Call m q returned b rest ended) {p : FramePack} (hpq : p.pts < q.pts)
    (hp : laterThan p.pts returned ≤ 1)
    (hpaced : 2 ≤ laterThan q.pts m.audio → ∃ a ∈ m.audio, p.pts < a.pts ∧ a.pts ≤ q.pts) :
    laterThan q.pts (returned ++ b) ≤ 1 := by
  have hmono := laterThan_mono hpq.le returned
  have hb := h.ends.laterThan_le
  rw [laterThan_append]
  cases ended with
  | true =>
    simp only [if_true] at hb
    omega
  | false =>
    by_contra hgt
    simp only [Bool.false_eq_true,if_false] at hb
    have hreturned : 0 < laterThan q.pts returned := by omega
    have htwo : 2 ≤ laterThan q.pts m.audio := by
      rw [← h.audio,laterThan_append,laterThan_append]
      omega
    obtain ⟨a,ha,hpa,haq⟩ := hpaced htwo
    obtain ⟨y,hy,hyq⟩ := exists_later hreturned
    have hmem := h.due_returned (h.returns_due ha haq) haq hy hyq
    have hlt := laterThan_lt hpq.le hmem hpa haq
    omega

theorem Call.first (h : Call m q [] b rest ended) : laterThan q.pts ([] ++ b) ≤ 1 := by
  have hb := h.ends.laterThan_le
  rw [List.nil_append]
  split at hb <;> omega

end Current

section Paced

variable {m : Streams} {r : Reading} {done returned : List FramePack} {q : FramePack}
  {post : List FramePack}

def Behind (r : Reading) (done returned : List FramePack) : Prop :=
  r.videoEOF = false → r.audioEOF = false →
    (done = [] → returned = []) ∧ ∀ p, done.getLast? = some p → laterThan p.pts returned ≤ 1

theorem Consumed.call (hr : Consumed m r done returned) (hq : r.video = q :: post) :
    Call m q returned (batch q.pts r.audio).1 (batch q.pts r.audio).2.1
      (batch q.pts r.audio).2.2 := by
  have hmem : q ∈ m.video := by
    rw [← hr.video,hq]
    simp
  have hpts : q.pts ≠ noPts := by
    have hpos := m.video_times.nonneg q hmem
    unfold noPts
    linarith
  refine ⟨?_,batch_ends hpts r.audio⟩
  rw [List.append_assoc,batch_append]
  exact hr.audio

theorem Consumed.pair (hr : Consumed m r done returned) (hq : r.video = q :: post) {p : FramePack}
    (hp : done.getLast? = some p) : [p,q] <:+: m.video ∧ p.pts < q.pts := by
  obtain ⟨pre,rfl⟩ := List.getLast?_eq_some_iff.mp hp
  have hvideo : pre ++ [p,q] ++ post = m.video := by
    rw [← hr.video,hq]
    simp
  have hadjacent : [p,q] <:+: m.video := ⟨pre,post,hvideo⟩
  refine ⟨hadjacent,?_⟩
  have hpair := m.video_times.increasing.sublist hadjacent.sublist
  simpa using hpair

theorem Behind.synced (hb : Behind r done returned) (hpaced : AudioPaced m)
    (hr : Consumed m r done returned) (hv : r.videoEOF = false) (ha : r.audioEOF = false)
    (hq : r.video = q :: post) :
    laterThan q.pts (returned ++ (batch q.pts r.audio).1) ≤ 1 := by
  obtain ⟨hfirst,hlast⟩ := hb hv ha
  have hcall := hr.call hq
  cases hp : done.getLast? with
  | none =>
    obtain rfl := hfirst (List.getLast?_eq_none_iff.mp hp)
    exact hcall.first
  | some p =>
    obtain ⟨hadjacent,hlt⟩ := hr.pair hq hp
    exact hcall.paced hlt (hlast p hp) (hpaced p q hadjacent)

theorem nextVideo_cons (hv : r.videoEOF = false) (hq : r.video = q :: post) :
    r.nextVideo = (some q,{ r with video := post, pts := q.pts }) := by
  simp [Reading.nextVideo,hv,hq]

theorem both_batch (hv : r.videoEOF = false) (ha : r.audioEOF = false) (hq : r.video = q :: post) :
    r.both = ((some q,(batch q.pts r.audio).1),{ r with
      video := post
      pts := q.pts
      audio := (batch q.pts r.audio).2.1
      audioEOF := (batch q.pts r.audio).2.2 }) := by
  simp [Reading.both,Reading.nextVideo,Reading.nextAudio,hv,hq,ha]

theorem both_at_eof (hv : r.videoEOF = false) (ha : r.audioEOF = true) (hq : r.video = q :: post) :
    r.both = ((some q,[]),{ r with video := post, pts := q.pts }) := by
  simp [Reading.both,Reading.nextVideo,Reading.nextAudio,hv,hq,ha]

theorem Consumed.both (h : Consumed m r done returned) :
    Consumed m r.both.2 (done ++ r.both.1.1.toList) (returned ++ r.both.1.2) :=
  h.nextVideo.nextAudio

theorem Behind.both (hb : Behind r done returned) (hpaced : AudioPaced m)
    (hr : Consumed m r done returned) :
    Behind r.both.2 (done ++ r.both.1.1.toList) (returned ++ r.both.1.2) := by
  cases hv : r.videoEOF with
  | true =>
    intro hv'
    have hkeep : r.both.2.videoEOF = true := by
      simp [Reading.both,Reading.nextVideo,hv,Reading.nextAudio]
      split <;> simp [hv]
    simp [hkeep] at hv'
  | false =>
    cases hq : r.video with
    | nil =>
      intro hv'
      have hset : r.both.2.videoEOF = true := by
        simp [Reading.both,Reading.nextVideo,hv,hq,Reading.nextAudio]
        split <;> rfl
      simp [hset] at hv'
    | cons q post =>
      cases ha : r.audioEOF with
      | true =>
        rw [both_at_eof hv ha hq]
        intro _ ha'
        simp [ha] at ha'
      | false =>
        rw [both_batch hv ha hq]
        intro _ _
        refine ⟨fun h => by simp at h,fun p hp => ?_⟩
        obtain rfl : q = p := by simpa using hp
        exact hb.synced hpaced hr hv ha hq

theorem behind_of_alternates (hpaced : AudioPaced m) {s : AvSynchronizer}
    (h : Alternates m.extractor s returned) :
    ∃ r done, s = r.synchronizer ∧ Consumed m r done returned ∧ Behind r done returned := by
  induction h with
  | start =>
    exact ⟨m.start,[],synchronizer_make _ _ _ _,.start m,fun _ _ => ⟨fun _ => rfl,nofun⟩⟩
  | next _ hv ha ih =>
    obtain ⟨r,done,rfl,hr,hb⟩ := ih
    rw [getNextVideo_synchronizer] at hv
    cases hv
    rw [getNextAudio_synchronizer] at ha
    cases ha
    exact ⟨_,_,rfl,hr.nextVideo.nextAudio,hb.both hpaced hr⟩

theorem current_of_nextVideo {s₁ : AvSynchronizer}
    (hv : r.synchronizer.getNextVideo = .ok (some q,s₁)) :
    r.videoEOF = false ∧ (∃ post, r.video = q :: post) ∧ s₁ = r.nextVideo.2.synchronizer := by
  rw [getNextVideo_synchronizer] at hv
  have hq : r.nextVideo.1 = some q := by
    cases hn : r.nextVideo.1 <;> simp_all
  have hs : s₁ = r.nextVideo.2.synchronizer := by simp_all
  cases he : r.videoEOF with
  | true => simp [Reading.nextVideo,he] at hq
  | false =>
    cases hvideo : r.video with
    | nil => simp [Reading.nextVideo,he,hvideo] at hq
    | cons f post =>
      obtain rfl : f = q := by simpa [Reading.nextVideo,he,hvideo] using hq
      exact ⟨rfl,⟨post,rfl⟩,hs⟩

theorem synchronised_of_paced (hpaced : AudioPaced m) : Synchronised m := by
  intro s returned q s₁ aFrames s₂ halt hv he ha
  obtain ⟨r,done,rfl,hr,hb⟩ := behind_of_alternates hpaced halt
  obtain ⟨hveof,⟨post,hq⟩,rfl⟩ := current_of_nextVideo hv
  have haeof : r.audioEOF = false := by
    rw [nextVideo_cons hveof hq] at he
    exact he
  have hboth := both_batch hveof haeof hq
  rw [getNextAudio_synchronizer] at ha
  obtain rfl : r.both.1.2 = aFrames := (Prod.mk.inj (Except.ok.inj ha)).1
  rw [hboth]
  exact ⟨fun a hmem hle => (hr.call hq).returns_due hmem hle,hb.synced hpaced hr hveof haeof hq⟩

end Paced

section Synced

variable {m : Streams}

structure Ahead (m : Streams) (r : Reading) (done returned : List FramePack) : Prop where
  at_eof : r.audioEOF = true → laterThan r.pts m.audio ≤ 1
  at_start : done = [] → r.pts = noPts
  at_frame : ∀ p, done.getLast? = some p → r.pts = p.pts ∧
    (r.audioEOF = false → 0 < laterThan p.pts returned)

theorem Ahead.pts_le {r : Reading} {done returned : List FramePack} {q : FramePack}
    {post : List FramePack} (h : Ahead m r done returned) (hr : Consumed m r done returned)
    (hq : r.video = q :: post) : r.pts ≤ q.pts := by
  cases hp : done.getLast? with
  | none =>
    have hmem : q ∈ m.video := by
      rw [← hr.video,hq]
      simp
    have hpos := m.video_times.nonneg q hmem
    rw [h.at_start (List.getLast?_eq_none_iff.mp hp),noPts]
    linarith
  | some p =>
    rw [(h.at_frame p hp).1]
    exact (hr.pair hq hp).2.le

structure Reached (m : Streams) (done rest : List FramePack) (r : Reading)
    (returned : List FramePack) : Prop where
  alternates : Alternates m.extractor r.synchronizer returned
  consumed : Consumed m r done returned
  video : r.video = rest
  videoEOF : r.videoEOF = false
  ahead : Ahead m r done returned

theorem Reached.synced {done post : List FramePack} {q : FramePack} {r : Reading}
    {returned : List FramePack} (h : Reached m done (q :: post) r returned) (hs : Synchronised m)
    (ha : r.audioEOF = false) : laterThan q.pts (returned ++ (batch q.pts r.audio).1) ≤ 1 := by
  have hv := getNextVideo_synchronizer r
  have hn := getNextAudio_synchronizer r.nextVideo.2
  have hboth := both_batch h.videoEOF ha h.video
  rw [nextVideo_cons h.videoEOF h.video] at hv hn
  have hlater := (hs _ _ _ _ _ _ h.alternates hv ha hn).2
  have hframes : r.both.1.2 = (batch q.pts r.audio).1 := by rw [hboth]
  rw [Reading.both,nextVideo_cons h.videoEOF h.video] at hframes
  rw [← hframes]
  exact hlater

theorem Reached.next {done post : List FramePack} {q : FramePack} {r : Reading}
    {returned : List FramePack} (h : Reached m done (q :: post) r returned) (hs : Synchronised m) :
    ∃ r' returned', Reached m (done ++ [q]) post r' returned' := by
  have hle := h.ahead.pts_le h.consumed h.video
  have hboth := alternates_both h.alternates
  have hconsumed := h.consumed.both
  cases ha : r.audioEOF with
  | true =>
    rw [both_at_eof h.videoEOF ha h.video] at hboth hconsumed
    refine ⟨_,_,hboth,hconsumed,rfl,h.videoEOF,?_,by simp,?_⟩
    · intro _
      exact (laterThan_mono hle m.audio).trans (h.ahead.at_eof ha)
    · intro p hp
      obtain rfl : q = p := by simpa using hp
      exact ⟨rfl,fun ha' => by simp [ha] at ha'⟩
  | false =>
    have hcall := h.consumed.call h.video
    have hsynced := h.synced hs ha
    rw [both_batch h.videoEOF ha h.video] at hboth hconsumed
    refine ⟨_,_,hboth,hconsumed,rfl,h.videoEOF,?_,by simp,?_⟩
    · intro hended
      have hrest := (hcall.ends.at_eof hended).1
      have haudio := hcall.audio
      rw [hrest,List.append_nil] at haudio
      rw [← haudio]
      exact hsynced
    · intro p hp
      obtain rfl : q = p := by simpa using hp
      refine ⟨rfl,fun hended => ?_⟩
      obtain ⟨init,x,hb,-,hx⟩ := hcall.ends.at_later hended
      exact laterThan_pos (List.mem_append_right _ (hb ▸ by simp)) hx

theorem reached (hs : Synchronised m) (hv : m.hasVideo = true) (done : List FramePack) :
    ∀ rest, done ++ rest = m.video → ∃ r returned, Reached m done rest r returned := by
  induction done using List.reverseRecOn with
  | nil =>
    rintro rest rfl
    refine ⟨m.start,[],?_,.start m,rfl,by simp [Streams.start,Reading.start,hv],?_,fun _ => rfl,
      nofun⟩
    · exact synchronizer_make _ _ _ _ ▸ Alternates.start
    · intro ha
      have hnone : m.audio = [] :=
        m.audio_of_frames (by simpa [Streams.start,Reading.start] using ha)
      simp [hnone,laterThan]
  | append_singleton done q ih =>
    intro rest hvideo
    obtain ⟨r,returned,h⟩ := ih (q :: rest) (by simpa using hvideo)
    exact h.next hs

theorem paced_of_synchronised (hs : Synchronised m) : AudioPaced m := by
  rintro p q hadjacent htwo
  obtain ⟨pre,post,hvideo⟩ := hadjacent
  have hv : m.hasVideo = true := by
    by_contra hv
    rw [m.video_of_frames (by simpa using hv)] at hvideo
    simp at hvideo
  obtain ⟨r,returned,h⟩ := reached hs hv (pre ++ [p]) (q :: post) (by simpa using hvideo)
  obtain ⟨hpts,hahead⟩ := h.ahead.at_frame p (by simp)
  have hlt := (h.consumed.pair h.video (p := p) (by simp)).2
  have hmono := laterThan_mono hlt.le m.audio
  have ha : r.audioEOF = false := by
    by_contra ha
    have heof := h.ahead.at_eof (by simpa using ha)
    rw [hpts] at heof
    omega
  obtain ⟨y,hy,hpy⟩ := exists_later (hahead ha)
  have hcall := h.consumed.call h.video
  have hsynced := h.synced hs ha
  by_contra hnone
  have hyq : q.pts < y.pts := by
    by_contra hle
    refine hnone ⟨y,?_,hpy,not_lt.mp hle⟩
    rw [← hcall.audio]
    simp [hy]
  have hreturned := laterThan_pos hy hyq
  rw [laterThan_append] at hsynced
  cases hended : (batch q.pts r.audio).2.2 with
  | true =>
    have hrest := (hcall.ends.at_eof hended).1
    rw [← hcall.audio,hrest,List.append_nil,laterThan_append] at htwo
    omega
  | false =>
    obtain ⟨init,x,hb,-,hx⟩ := hcall.ends.at_later hended
    have hpos : 0 < laterThan q.pts (batch q.pts r.audio).1 := laterThan_pos (hb ▸ by simp) hx
    omega

end Synced

theorem synchronised_iff_paced (m : Streams) :
    PrefixKept m ∧ (Synchronised m ↔ AudioPaced m) :=
  ⟨prefixKept m,paced_of_synchronised,synchronised_of_paced⟩

def fastVideo : Streams where
  hasVideo := true
  hasAudio := true
  video := [⟨1,0,2⟩,⟨2,1 / 60,2⟩]
  audio := [⟨1,0,4⟩,⟨2,1 / 43,4⟩,⟨3,2 / 43,4⟩,⟨4,3 / 43,4⟩]
  video_of_frames := nofun
  audio_of_frames := nofun
  video_times := by
    constructor
    · simp only [List.pairwise_cons,List.mem_cons,List.not_mem_nil,or_false]
      norm_num
    · norm_num
  audio_times := by
    constructor
    · simp only [List.pairwise_cons,List.mem_cons,List.not_mem_nil,or_false]
      norm_num
    · norm_num

theorem fastVideo_first : fastVideo.start.both.2 = ⟨true,true,[⟨2,1 / 60,2⟩],
    [⟨3,2 / 43,4⟩,⟨4,3 / 43,4⟩],false,false,0⟩ := by
  norm_num [fastVideo,Streams.start,Reading.start,Reading.both,Reading.nextVideo,
    Reading.nextAudio,batch,noPts]

theorem fastVideo_not_synchronised : ¬ (PrefixKept fastVideo ∧ Synchronised fastVideo) := by
  rintro ⟨-,h⟩
  have halt := alternates_both (m := fastVideo) (r := fastVideo.start) .start
  rw [fastVideo_first] at halt
  have hlater := (h _ _ _ _ _ _ halt (getNextVideo_synchronizer _) rfl
    (getNextAudio_synchronizer _)).2
  norm_num [fastVideo,Streams.start,Reading.start,Reading.both,Reading.nextVideo,
    Reading.nextAudio,batch,noPts,laterThan,List.countP_cons] at hlater

end Ovi
