import Mathlib.Logic.Basic

namespace SendReceive

-- a decoder fed one packet at a time, where `none` is the packet that asks it to drain
structure Codec (D F δ : Type) where
  send : δ → Option D → Int × δ
  receive : δ → Except Int F × δ
  frameNumber : δ → Nat

def averrorEagain : Int := -11
def averrorEof : Int := -541478725

def Expected (ret : Int) : Prop := ret = 0 ∨ ret = averrorEagain ∨ ret = averrorEof

structure History (D F : Type) where
  consumed : List D
  flushed : Bool
  emitted : List F
deriving DecidableEq, Repr

variable {D F δ : Type}

def Codec.pass (c : Codec D F δ) (s : δ) (pkt : Option D) : Int × Except Int F × δ :=
  ((c.send s pkt).1,c.receive (c.send s pkt).2)

structure Contract (c : Codec D F δ) (output : List D → List F) where
  history : δ → History D F
  send_data : ∀ s x, (history s).flushed = false →
    ((c.send s (some x)).1 = 0 ∧ history (c.send s (some x)).2 =
      { history s with consumed := (history s).consumed ++ [x] }) ∨
    ((c.send s (some x)).1 = averrorEagain ∧ history (c.send s (some x)).2 = history s)
  send_flush : ∀ s, (history s).flushed = false →
    ((c.send s none).1 = 0 ∧ history (c.send s none).2 = { history s with flushed := true }) ∨
    ((c.send s none).1 = averrorEagain ∧ history (c.send s none).2 = history s)
  send_flushed : ∀ s, (history s).flushed = true → history (c.send s none).2 = history s ∧
    Expected (c.send s none).1
  receive_frame : ∀ s f, (c.receive s).1 = .ok f →
    history (c.receive s).2 = { history s with emitted := (history s).emitted ++ [f] }
  receive_empty : ∀ s ret, (c.receive s).1 = .error ret → history (c.receive s).2 = history s ∧
    ((ret = averrorEagain ∧ (history s).flushed = false) ∨
      (ret = averrorEof ∧ (history s).flushed = true ∧
        (history s).emitted = output (history s).consumed))
  -- a packet is refused only while output waits to be read
  refused : ∀ s pkt, (c.send s pkt).1 = averrorEagain →
    ∃ f, (c.receive (c.send s pkt).2).1 = .ok f
  bounded : ∀ s, (history s).emitted <+: output (history s).consumed

namespace Codec

variable (c : Codec D F δ)

-- the packets that get in when one `receive` follows each `send`
def taken : δ → List D → List D
  | _, [] => []
  | s, x :: xs =>
    if (c.pass s (some x)).1 = 0 then x :: taken (c.pass s (some x)).2.2 xs
    else taken (c.pass s (some x)).2.2 xs

def takesAll : δ → List D → Bool
  | _, [] => true
  | s, x :: xs =>
    (c.pass s (some x)).1 != averrorEagain && takesAll (c.pass s (some x)).2.2 xs

variable {c}

theorem taken_length (s : δ) (xs : List D) : (c.taken s xs).length ≤ xs.length := by
  induction xs generalizing s with
  | nil => exact Nat.le_refl 0
  | cons x xs ih =>
    have hrest := ih (c.pass s (some x)).2.2
    rw [taken]
    split
    · exact Nat.succ_le_succ hrest
    · exact Nat.le_succ_of_le hrest

end Codec

namespace Contract

variable {c : Codec D F δ} {output : List D → List F} (C : Contract c output)

structure DataPass (s : δ) (x : D) : Prop where
  sent : (c.pass s (some x)).1 = 0 ∨ (c.pass s (some x)).1 = averrorEagain
  consumed : (C.history (c.pass s (some x)).2.2).consumed =
    (C.history s).consumed ++ if (c.pass s (some x)).1 = 0 then [x] else []
  flushed : (C.history (c.pass s (some x)).2.2).flushed = false
  received : (∃ f, (c.pass s (some x)).2.1 = .ok f ∧
      (C.history (c.pass s (some x)).2.2).emitted = (C.history s).emitted ++ [f]) ∨
    ((c.pass s (some x)).2.1 = .error averrorEagain ∧
      (C.history (c.pass s (some x)).2.2).emitted = (C.history s).emitted)

structure FlushPass (s : δ) : Prop where
  sent : Expected (c.pass s none).1
  consumed : (C.history (c.pass s none).2.2).consumed = (C.history s).consumed
  received : (∃ f, (c.pass s none).2.1 = .ok f ∧
      (C.history (c.pass s none).2.2).emitted = (C.history s).emitted ++ [f]) ∨
    ((c.pass s none).2.1 = .error averrorEof ∧
      (C.history (c.pass s none).2.2).emitted = (C.history s).emitted ∧
      (C.history s).emitted = output (C.history s).consumed)

theorem data_received {s : δ} (h : (C.history s).flushed = false) :
    (C.history (c.receive s).2).consumed = (C.history s).consumed ∧
    (C.history (c.receive s).2).flushed = false ∧
    ((∃ f, (c.receive s).1 = .ok f ∧
        (C.history (c.receive s).2).emitted = (C.history s).emitted ++ [f]) ∨
      ((c.receive s).1 = .error averrorEagain ∧
        (C.history (c.receive s).2).emitted = (C.history s).emitted)) := by
  cases hr : (c.receive s).1 with
  | ok f =>
    rw [C.receive_frame s f hr]
    exact ⟨rfl,h,.inl ⟨f,rfl,rfl⟩⟩
  | error ret =>
    obtain ⟨hsame,hagain | heof⟩ := C.receive_empty s ret hr
    · rw [hsame]
      exact ⟨rfl,h,.inr ⟨congrArg Except.error hagain.1,rfl⟩⟩
    · exact absurd (heof.2.1.symm.trans h) (by decide)

theorem data_pass {s : δ} (h : (C.history s).flushed = false) (x : D) : C.DataPass s x := by
  obtain ⟨hret,hs⟩ | ⟨hret,hs⟩ := C.send_data s x h
  · have hf : (C.history (c.send s (some x)).2).flushed = false := by rw [hs]; exact h
    obtain ⟨hc,hfl,hr⟩ := C.data_received hf
    rw [hs] at hc hr
    exact ⟨.inl hret,by rw [if_pos (show (c.pass s (some x)).1 = 0 from hret)]; exact hc,hfl,hr⟩
  · have hf : (C.history (c.send s (some x)).2).flushed = false := by rw [hs]; exact h
    obtain ⟨hc,hfl,hr⟩ := C.data_received hf
    rw [hs] at hc hr
    have hne : (c.pass s (some x)).1 ≠ 0 := by
      rw [show (c.pass s (some x)).1 = averrorEagain from hret]
      decide
    exact ⟨.inr hret,by rw [if_neg hne,List.append_nil]; exact hc,hfl,hr⟩

theorem flushed_pass {s : δ} (h : (C.history (c.send s none).2).flushed = true)
    (hc : (C.history (c.send s none).2).consumed = (C.history s).consumed)
    (he : (C.history (c.send s none).2).emitted = (C.history s).emitted)
    (hsent : Expected (c.pass s none).1) : C.FlushPass s := by
  cases hr : (c.receive (c.send s none).2).1 with
  | ok f =>
    have hs := C.receive_frame _ f hr
    refine ⟨hsent,?_,.inl ⟨f,hr,?_⟩⟩
    · rw [Codec.pass,hs]
      exact hc
    · rw [Codec.pass,hs]
      exact congrArg (· ++ [f]) he
  | error ret =>
    obtain ⟨hs,hagain | ⟨rfl,-,hout⟩⟩ := C.receive_empty _ ret hr
    · exact absurd (hagain.2.symm.trans h) (by decide)
    · refine ⟨hsent,?_,.inr ⟨hr,?_,?_⟩⟩
      · rw [Codec.pass,hs]
        exact hc
      · rw [Codec.pass,hs]
        exact he
      · rw [← he,← hc]
        exact hout

theorem flush_pass (s : δ) : C.FlushPass s := by
  cases h : (C.history s).flushed with
  | false =>
    obtain ⟨hret,hs⟩ | ⟨hret,hs⟩ := C.send_flush s h
    · exact C.flushed_pass (by rw [hs]) (by rw [hs]) (by rw [hs]) (.inl hret)
    · obtain ⟨f,hr⟩ := C.refused s none hret
      have hframe := C.receive_frame _ f hr
      refine ⟨.inr (.inl hret),?_,.inl ⟨f,hr,?_⟩⟩
      · rw [Codec.pass,hframe,hs]
      · rw [Codec.pass,hframe,hs]
  | true =>
    obtain ⟨hs,hret⟩ := C.send_flushed s h
    exact C.flushed_pass (by rw [hs]; exact h) (by rw [hs]) (by rw [hs]) hret

theorem taken_eq_iff {s : δ} (h : (C.history s).flushed = false) (xs : List D) :
    c.taken s xs = xs ↔ c.takesAll s xs = true := by
  induction xs generalizing s with
  | nil => exact iff_of_true rfl rfl
  | cons x xs ih =>
    have hpass := C.data_pass h x
    rw [Codec.taken,Codec.takesAll,Bool.and_eq_true,bne_iff_ne,← ih hpass.flushed]
    obtain hret | hret := hpass.sent
    · rw [if_pos hret,List.cons_eq_cons,hret]
      exact and_congr_left fun _ => iff_of_true rfl (by decide)
    · have hne : (c.pass s (some x)).1 ≠ 0 := by rw [hret]; decide
      rw [if_neg hne]
      constructor
      · intro heq
        have hlen := Codec.taken_length (c := c) (c.pass s (some x)).2.2 xs
        rw [heq,List.length_cons] at hlen
        omega
      · intro hand
        exact absurd hret hand.1

def backlog (s : δ) : Nat :=
  (output (C.history s).consumed).length - (C.history s).emitted.length

theorem backlog_lt {s : δ} {f : F}
    (hc : (C.history (c.pass s none).2.2).consumed = (C.history s).consumed)
    (he : (C.history (c.pass s none).2.2).emitted = (C.history s).emitted ++ [f]) :
    C.backlog (c.pass s none).2.2 < C.backlog s := by
  have hle := (C.bounded (c.pass s none).2.2).length_le
  rw [hc,he,List.length_append,List.length_singleton] at hle
  rw [backlog,backlog,hc,he,List.length_append,List.length_singleton]
  omega

end Contract

structure Buffer (D : Type) where
  consumed : List D
  flushed : Bool
  read : Nat
deriving DecidableEq, Repr

def Buffer.output (give : D → List F) (s : Buffer D) : List F := s.consumed.flatMap give

def buffered (give : D → List F) : Codec D F (Buffer D) where
  send s
    | some x =>
      if s.read < (s.output give).length then (averrorEagain,s)
      else if s.flushed then (averrorEof,s)
      else (0,{ s with consumed := s.consumed ++ [x], read := (s.output give).length })
    | none => if s.flushed then (averrorEof,s) else (0,{ s with flushed := true })
  receive s :=
    match (s.output give)[s.read]? with
    | some f => (.ok f,{ s with read := s.read + 1 })
    | none => (.error (if s.flushed then averrorEof else averrorEagain),s)
  frameNumber s := min s.read (s.output give).length

def bufferedHistory (give : D → List F) (s : Buffer D) : History D F :=
  ⟨s.consumed,s.flushed,(s.output give).take s.read⟩

section Buffered

variable {give : D → List F} {s : Buffer D}

theorem buffered_send_data {x : D} (h : s.flushed = false) :
    (((buffered give).send s (some x)).1 = 0 ∧
      bufferedHistory give ((buffered give).send s (some x)).2 =
        { bufferedHistory give s with consumed := s.consumed ++ [x] }) ∨
    (((buffered give).send s (some x)).1 = averrorEagain ∧
      bufferedHistory give ((buffered give).send s (some x)).2 = bufferedHistory give s) := by
  by_cases hread : s.read < (s.output give).length
  · right
    simp only [buffered,if_pos hread,and_self]
  · left
    have hall : (s.output give).take s.read = s.output give :=
      List.take_of_length_le (Nat.le_of_not_lt hread)
    have hgrown : ((s.consumed ++ [x]).flatMap give).take (s.output give).length =
        s.output give := by
      rw [List.flatMap_append]
      exact List.take_left
    simp only [buffered,if_neg hread,h,Bool.false_eq_true,if_false,true_and]
    exact congrArg₂ (History.mk (s.consumed ++ [x])) h.symm (hgrown.trans hall.symm)

theorem buffered_receive_frame {f : F} (h : ((buffered give).receive s).1 = .ok f) :
    bufferedHistory give ((buffered give).receive s).2 =
      { bufferedHistory give s with emitted := (s.output give).take s.read ++ [f] } := by
  cases hf : (s.output give)[s.read]? with
  | none => simp [buffered,hf] at h
  | some g =>
    simp only [buffered,hf,Except.ok.injEq] at h ⊢
    subst h
    have hnext := List.take_add_one (l := s.output give) (i := s.read)
    rw [hf] at hnext
    exact congrArg (History.mk s.consumed s.flushed) hnext

theorem buffered_receive_empty {ret : Int} (h : ((buffered give).receive s).1 = .error ret) :
    ((buffered give).receive s).2 = s ∧ ret = (if s.flushed then averrorEof else averrorEagain) ∧
      (s.output give).take s.read = s.output give := by
  cases hf : (s.output give)[s.read]? with
  | some g => simp [buffered,hf] at h
  | none =>
    have hlen := List.getElem?_eq_none_iff.mp hf
    simp only [buffered,hf,Except.error.injEq] at h ⊢
    exact ⟨trivial,h.symm,List.take_of_length_le hlen⟩

theorem buffered_refused {pkt : Option D}
    (h : ((buffered give).send s pkt).1 = averrorEagain) :
    ∃ f, ((buffered give).receive ((buffered give).send s pkt).2).1 = .ok f := by
  cases pkt with
  | none => cases hf : s.flushed <;> simp [buffered,hf,averrorEagain,averrorEof] at h
  | some x =>
    by_cases hread : s.read < (s.output give).length
    · refine ⟨(s.output give)[s.read],?_⟩
      simp only [buffered,if_pos hread,List.getElem?_eq_getElem hread]
    · cases hf : s.flushed <;> simp [buffered,hread,hf,averrorEagain,averrorEof] at h

def bufferedContract (give : D → List F) : Contract (buffered give) (·.flatMap give) where
  history := bufferedHistory give
  send_data s x h := buffered_send_data h
  send_flush s h := .inl ⟨by simp [buffered,show s.flushed = false from h],
    by simp [buffered,show s.flushed = false from h,bufferedHistory,Buffer.output]⟩
  send_flushed s h := by
    have hf : s.flushed = true := h
    simp [buffered,hf,Expected]
  receive_frame s f h := buffered_receive_frame h
  receive_empty s ret h := by
    obtain ⟨hs,hret,hall⟩ := buffered_receive_empty h
    refine ⟨congrArg _ hs,?_⟩
    cases hf : s.flushed with
    | false => exact .inl ⟨hret.trans (by rw [hf]; rfl),hf⟩
    | true => exact .inr ⟨hret.trans (by rw [hf]; rfl),hf,hall⟩
  refused s pkt h := buffered_refused h
  bounded s := List.take_prefix _ _

end Buffered

end SendReceive
