import Ovi.Library.Pointers
import Ovi.Media.AudioLayout

namespace Ovi
open Programs Pointers

inductive VideoFormat where
  | none
  | yuv420p
  | yuv422p
  | rgb24
  | bgr24
  | nv12
  | nv21
  | argb
  | rgba
  | abgr
  | bgra
  | gray8
deriving DecidableEq, Repr

inductive AVPixelFormat where
  | none
  | yuv420p
  | yuv422p
  | rgb24
  | bgr24
  | nv12
  | nv21
  | argb
  | rgba
  | abgr
  | bgra
  | gray8
deriving DecidableEq, Repr

-- a number that is no enumerator is converted as `none` is
def toAVPixelFormat : VideoFormat → AVPixelFormat
  | .none => .none
  | .yuv420p => .yuv420p
  | .yuv422p => .yuv422p
  | .rgb24 => .rgb24
  | .bgr24 => .bgr24
  | .nv12 => .nv12
  | .nv21 => .nv21
  | .argb => .argb
  | .rgba => .rgba
  | .abgr => .abgr
  | .bgra => .bgra
  | .gray8 => .gray8

structure VideoFramePack extends FramePack where
  framerate : ℚ
  width : Int
  height : Int
  format : VideoFormat
  buffer : List UInt8
deriving DecidableEq, Repr

namespace VideoFramePack

def make (width height : Int) (format : VideoFormat) : VideoFramePack where
  frameNum := 0
  pts := 0
  duration := 0
  framerate := 0
  width := width
  height := height
  format := format
  buffer := []

def assign (p : VideoFramePack) (buffer : List UInt8) (info : FramePack) (framerate : ℚ) :
    VideoFramePack :=
  if buffer.isEmpty then p
  else { p with
    toFramePack := info
    framerate := framerate
    buffer := buffer }

def valid (p : VideoFramePack) : Bool :=
  if p.width < 0 || p.height < 0 then false else !p.buffer.isEmpty

def copy (p : VideoFramePack) : VideoFramePack :=
  (make p.width p.height p.format).assign p.buffer p.toFramePack p.framerate

end VideoFramePack

def AudioFramePack.copy (p : AudioFramePack) : AudioFramePack :=
  ((make p.channels p.samplerate p.format p.samples).assign p.buffer p.toFramePack
    p.framerate).setChannelLayout p.channelLayout

-- `catch (const Exception& e)`
def isOviException : Fault → Bool
  | .raised (.ovi _) => true
  | _ => false

def invalidParameterFault : Fault := .raised (.ovi oviErrorInvalidParameter)

def invalidOperationFault : Fault := .raised (.ovi oviErrorInvalidOperation)

-- `std::bad_alloc`
def badAlloc : Fault := .raised .other

structure SwScale where
  imageGetBufferSize : AVPixelFormat → (width height : Int) → Int
  malloc : Nat → Bool
  imageFillArrays : AVPixelFormat → (width height : Int) → Int
  getContext : (width height : Int) → (srcFormat destFormat : AVPixelFormat) → Bool
  -- what `sws_scale` returns, and the bytes it leaves
  scale : (width height : Int) → (srcFormat destFormat : AVPixelFormat) → List UInt8 →
    Int × List UInt8
  -- whether there is memory for a new frame of the format and for its buffer
  newFrame : VideoFormat → Bool

structure SwResample where
  calloc : Nat → Bool
  allocSetOpts : (channelLayout samplerate : Nat) → (srcFormat destFormat : AVSampleFormat) → Bool
  init : Bool
  convert : SwrCall → List UInt8 → Option (List (List UInt8))
  newFrame : AudioFormat → Bool

inductive ScalePointer where
  | data
  | swsContext
deriving DecidableEq, Repr

inductive ResamplePointer where
  | srcData
  -- `destData` and `destData[0]`
  | destData
  | destSamples
  | swrContext
deriving DecidableEq, Repr

def convertAny {α β : Type} (known : α → Bool) (convert : α → Except Fault β) :
    List α → Except Fault β
  | [] => .error invalidParameterFault
  | format :: formats =>
    if known format then
      match convert format with
      | .ok frame => .ok frame
      | .error fault =>
        if fault = invalidOperationFault then convertAny known convert formats else .error fault
    else convertAny known convert formats

-- a null pointer is `none`
def convertFrame {α β : Type} (known : α → Bool) (convert : β → α → Except Fault β)
    (frame : Option β) (formats : List α) : Except Fault β :=
  match frame with
  | none => .error invalidParameterFault
  | some frame =>
    if formats.isEmpty then .error invalidParameterFault
    else convertAny known (convert frame) formats

def result {κ α : Type} (m : Pointers.Program κ Fault α) : Except Fault α :=
  match m Memory.fresh with
  | .ok a _ => .ok a
  | .error fault _ => .error fault

namespace FormatConverterVideoFFMPEG

def scale (sws : SwScale) (vFrame : VideoFramePack) (dstFormat : VideoFormat) :
    Pointers.Program ScalePointer Fault VideoFramePack :=
  releasing isOviException .undefined [.data,.swsContext] do
    let srcFormat := toAVPixelFormat vFrame.format
    let destFormat := toAVPixelFormat dstFormat
    refuseIf (!vFrame.valid || srcFormat == .none) invalidParameterFault
    let size := sws.imageGetBufferSize destFormat vFrame.width vFrame.height
    refuseIf (size ≤ 0) invalidParameterFault
    alloc .data (sws.malloc size.toNat) invalidOperationFault
    refuseIf (sws.imageFillArrays srcFormat vFrame.width vFrame.height < 0) invalidOperationFault
    refuseIf (sws.imageFillArrays destFormat vFrame.width vFrame.height < 0) invalidOperationFault
    alloc .swsContext (sws.getContext vFrame.width vFrame.height srcFormat destFormat)
      invalidOperationFault
    let (ret,data) := sws.scale vFrame.width vFrame.height srcFormat destFormat vFrame.buffer
    refuseIf (ret < 0) invalidOperationFault
    refuseIf (!sws.newFrame dstFormat) badAlloc
    let convertFrame := (VideoFramePack.make vFrame.width vFrame.height dstFormat).assign
      (Planes.write (List.replicate size.toNat 0) 0 (data.take size.toNat)) vFrame.toFramePack
      vFrame.framerate
    freep .undefined .data
    free .undefined .swsContext
    pure convertFrame

def convertTo (sws : SwScale) (frame : VideoFramePack) (format : VideoFormat) :
    Except Fault VideoFramePack :=
  if frame.format = format then if sws.newFrame format then .ok frame.copy else .error badAlloc
  else result (scale sws frame format)

def convert (sws : SwScale) : Option VideoFramePack → List VideoFormat →
    Except Fault VideoFramePack :=
  convertFrame (fun format => toAVPixelFormat format != .none) (convertTo sws)

end FormatConverterVideoFFMPEG

namespace FormatConverterAudioFFMPEG

def filled (size : Nat) (offsets : List Nat) (planes : List (List UInt8)) : List UInt8 :=
  (offsets.zip planes).foldl (fun buffer p => (Planes.write buffer p.1 p.2).take size)
    (List.replicate size 0)

def resampleAllocating (av : AvUtil) (swr : SwResample) (aFrame : AudioFramePack)
    (dstFormat : AudioFormat) : Pointers.Program ResamplePointer Fault AudioFramePack :=
  releasing isOviException .undefined [.srcData,.destSamples,.destData,.swrContext] do
    refuseIf (aFrame.channelLayout == 0) invalidParameterFault
    let avSrcFormat := toAVSampleFormat aFrame.format
    let avDestFormat := toAVSampleFormat dstFormat
    refuseIf (!aFrame.valid || avSrcFormat == .none) invalidParameterFault
    alloc .srcData (swr.calloc (av.planes avSrcFormat aFrame.channels)) invalidOperationFault
    match av.samplesFillArrays aFrame.channels aFrame.samples avSrcFormat 0 with
    | none => throw invalidOperationFault
    | some srcData =>
      match av.samplesAllocArrayAndSamples aFrame.channels aFrame.samples avDestFormat 0 with
      | none => throw invalidOperationFault
      | some (size,destData) => do
        acquire .destData
        acquire .destSamples
        alloc .swrContext (swr.allocSetOpts aFrame.channelLayout aFrame.samplerate avSrcFormat
          avDestFormat) invalidOperationFault
        refuseIf (!swr.init) invalidOperationFault
        match swr.convert ⟨srcData,destData,size,avSrcFormat,avDestFormat⟩ aFrame.buffer with
        | none => throw invalidOperationFault
        | some planes => do
          refuseIf (!swr.newFrame dstFormat) badAlloc
          let convertFrame := (AudioFramePack.make aFrame.channels aFrame.samplerate dstFormat
            aFrame.samples).assign (filled size destData planes) aFrame.toFramePack
            aFrame.framerate
          freep .undefined .srcData
          freeHeld .undefined .destSamples
          freep .undefined .destData
          freep .undefined .swrContext
          pure (convertFrame.setChannelLayout aFrame.channelLayout)

def convertTo (av : AvUtil) (swr : SwResample) (frame : AudioFramePack) (format : AudioFormat) :
    Except Fault AudioFramePack :=
  if frame.format = format then if swr.newFrame format then .ok frame.copy else .error badAlloc
  else result (resampleAllocating av swr frame format)

def convert (av : AvUtil) (swr : SwResample) : Option AudioFramePack → List AudioFormat →
    Except Fault AudioFramePack :=
  convertFrame (fun format => toAVSampleFormat format != .none) (convertTo av swr)

end FormatConverterAudioFFMPEG

section Release

def Refusal (fault : Fault) : Prop :=
  fault = invalidParameterFault ∨ fault = invalidOperationFault

theorem refused {m n : Prop} (fault : Fault) (hfault : fault ∈ [invalidParameterFault,
    invalidOperationFault]) (hm : m) : isOviException fault = true ∧ m ∧ Refusal fault ∨ n := by
  simp only [List.mem_cons,List.not_mem_nil,or_false] at hfault
  rcases hfault with rfl | rfl
  · exact .inl ⟨rfl,hm,.inl rfl⟩
  · exact .inl ⟨rfl,hm,.inr rfl⟩

-- `std::bad_alloc` runs past the handler, and what the variables hold is lost
def OutOfMemory {κ : Type} (room : Bool) (fault : Fault) (m : Memory κ) : Prop :=
  fault = badAlloc ∧ room = false ∧ Leaked m

variable {sws : SwScale} {vFrame out : VideoFramePack} {dstFormat : VideoFormat}

structure ScaledFrom (sws : SwScale) (vFrame : VideoFramePack) (dstFormat : VideoFormat)
    (out : VideoFramePack) : Prop where
  format : out.format = dstFormat
  size : out.width = vFrame.width ∧ out.height = vFrame.height
  info : out.toFramePack = vFrame.toFramePack ∧ out.framerate = vFrame.framerate
  length : (out.buffer.length : Int) =
    sws.imageGetBufferSize (toAVPixelFormat dstFormat) vFrame.width vFrame.height

theorem scaled_frame (vFrame : VideoFramePack) (dstFormat : VideoFormat) {size : Int}
    (hsize : 0 < size) (data : List UInt8) :
    let buffer := Planes.write (List.replicate size.toNat 0) 0 (data.take size.toNat)
    let out := (VideoFramePack.make vFrame.width vFrame.height dstFormat).assign buffer
      vFrame.toFramePack vFrame.framerate
    (out.format = dstFormat ∧ out.width = vFrame.width ∧ out.height = vFrame.height ∧
      out.toFramePack = vFrame.toFramePack ∧ out.framerate = vFrame.framerate) ∧
      (out.buffer.length : Int) = size := by
  intro buffer out
  have hlength : buffer.length = size.toNat := by
    refine (Planes.length_write ?_).trans List.length_replicate
    rw [List.length_replicate,List.length_take]
    omega
  have hne : ¬ buffer.isEmpty = true := by
    rw [List.isEmpty_iff_length_eq_zero,hlength]
    omega
  have hout : out = { VideoFramePack.make vFrame.width vFrame.height dstFormat with
      toFramePack := vFrame.toFramePack
      framerate := vFrame.framerate
      buffer := buffer } := if_neg hne
  rw [hout]
  refine ⟨⟨rfl,rfl,rfl,rfl,rfl⟩,?_⟩
  change (buffer.length : Int) = size
  rw [hlength]
  omega

theorem scale_releases (sws : SwScale) (vFrame : VideoFramePack) (dstFormat : VideoFormat) :
    wp (FormatConverterVideoFFMPEG.scale sws vFrame dstFormat)
      (fun out m => Released m ∧ ScaledFrom sws vFrame dstFormat out)
      (fun fault m => Released m ∧ Refusal fault ∨
        isOviException fault = false ∧ OutOfMemory (sws.newFrame dstFormat) fault m)
      Memory.fresh := by
  refine wp_releasing (fun k => by cases k <;> decide) ?_
  have hfresh : Tidy (Memory.fresh : Memory ScalePointer) := fresh_tidy
  have hdata := hfresh.put (p := .held) Pointer.noConfusion .data
  have hboth := hdata.put (p := .held) Pointer.noConfusion .swsContext
  refine wp_bind.mpr (wp_refuseIf (fun _ => refused _ (by decide) hfresh) fun _ => ?_)
  refine wp_bind.mpr (wp_refuseIf (fun _ => refused _ (by decide) hfresh) fun hsize => ?_)
  refine wp_bind.mpr (wp_alloc rfl (fun _ => refused _ (by decide) hfresh) fun _ => ?_)
  refine wp_bind.mpr (wp_refuseIf (fun _ => refused _ (by decide) hdata) fun _ => ?_)
  refine wp_bind.mpr (wp_refuseIf (fun _ => refused _ (by decide) hdata) fun _ => ?_)
  refine wp_bind.mpr (wp_alloc rfl (fun _ => refused _ (by decide) hdata) fun _ => ?_)
  refine wp_bind.mpr (wp_refuseIf (fun _ => refused _ (by decide) hboth) fun _ => ?_)
  refine wp_bind.mpr (wp_refuseIf (fun hroom => ?_) fun _ => ?_)
  · exact .inr ⟨rfl,rfl,by simpa using hroom,rfl,fun k => by cases k <;> rfl⟩
  refine wp_bind.mpr (wp_freep rfl (wp_bind.mpr (wp_free rfl ?_)))
  refine ⟨⟨rfl,fun k => by cases k <;> exact Pointer.noConfusion⟩,?_⟩
  obtain ⟨⟨hformat,hwidth,hheight,hinfo,hrate⟩,hlength⟩ :=
    scaled_frame vFrame dstFormat (not_le.mp (of_decide_eq_false hsize)) _
  exact ⟨hformat,⟨hwidth,hheight⟩,⟨hinfo,hrate⟩,hlength⟩

variable {av : AvUtil} {swr : SwResample} {aFrame : AudioFramePack} {dstFormat : AudioFormat}

def SwResample.samples (swr : SwResample) (av : AvUtil) (aFrame : AudioFramePack)
    (call : SwrCall) (buffer : List UInt8) : Except Exn (List (List UInt8)) :=
  if swr.calloc (av.planes call.avSrcFormat aFrame.channels) &&
      swr.allocSetOpts aFrame.channelLayout aFrame.samplerate call.avSrcFormat
        call.avDestFormat && swr.init then
    match swr.convert call buffer with
    | none => .error (.ovi oviErrorInvalidOperation)
    | some planes => .ok planes
  else .error (.ovi oviErrorInvalidOperation)

def resampled (av : AvUtil) (swr : SwResample) (aFrame : AudioFramePack)
    (dstFormat : AudioFormat) : Except Exn AudioFramePack :=
  FormatConverterAudioFFMPEG.resample av (swr.samples av aFrame) aFrame dstFormat

def RefusedAs (answer : Except Exn AudioFramePack) (fault : Fault) : Prop :=
  Refusal fault ∧ answer.mapError Fault.raised = .error fault

theorem refusedAs {m n : Prop} {answer : Except Exn AudioFramePack} {error : ErrorCode}
    (herror : error ∈ [oviErrorInvalidParameter,oviErrorInvalidOperation]) (hm : m)
    (h : answer = .error (.ovi error)) :
    isOviException (.raised (.ovi error)) = true ∧ m ∧ RefusedAs answer (.raised (.ovi error)) ∨
      n := by
  subst h
  simp only [List.mem_cons,List.not_mem_nil,or_false] at herror
  rcases herror with rfl | rfl
  · exact .inl ⟨rfl,hm,.inl rfl,rfl⟩
  · exact .inl ⟨rfl,hm,.inr rfl,rfl⟩

section Answers

open FormatConverterAudioFFMPEG

variable {e : Exn} {call : SwrCall}

theorem resampled_uncalled (swr : SwResample) (h : swrCall av aFrame dstFormat = .error e) :
    resampled av swr aFrame dstFormat = .error e := by
  rw [resampled,resample,h]
  rfl

theorem resampled_called (swr : SwResample) (h : swrCall av aFrame dstFormat = .ok call) :
    resampled av swr aFrame dstFormat =
      (swr.samples av aFrame call aFrame.buffer).map fun planes =>
        ((AudioFramePack.make aFrame.channels aFrame.samplerate dstFormat aFrame.samples).assign
          (filled call.size call.destData planes) aFrame.toFramePack
            aFrame.framerate).setChannelLayout aFrame.channelLayout := by
  rw [resampled,resample,h]
  change (swr.samples av aFrame call aFrame.buffer >>= _) = _
  cases swr.samples av aFrame call aFrame.buffer <;> rfl

end Answers

theorem resample_releases (av : AvUtil) (swr : SwResample) (aFrame : AudioFramePack)
    (dstFormat : AudioFormat) :
    wp (FormatConverterAudioFFMPEG.resampleAllocating av swr aFrame dstFormat)
      (fun out m => Released m ∧ resampled av swr aFrame dstFormat = .ok out)
      (fun fault m => Released m ∧ RefusedAs (resampled av swr aFrame dstFormat) fault ∨
        isOviException fault = false ∧ OutOfMemory (swr.newFrame dstFormat) fault m)
      Memory.fresh := by
  refine wp_releasing (fun k => by cases k <;> decide) ?_
  have hfresh : Tidy (Memory.fresh : Memory ResamplePointer) := fresh_tidy
  have hsrc := hfresh.put (p := .held) Pointer.noConfusion .srcData
  have hdest := (hsrc.put (p := .held) Pointer.noConfusion .destData).put (p := .held)
    Pointer.noConfusion .destSamples
  have hall := hdest.put (p := .held) Pointer.noConfusion .swrContext
  refine wp_bind.mpr (wp_refuseIf (fun hlayout => ?_) fun hlayout => ?_)
  · refine refusedAs (by decide) hfresh (resampled_uncalled swr ?_)
    rw [FormatConverterAudioFFMPEG.swrCall,if_pos hlayout]
  refine wp_bind.mpr (wp_refuseIf (fun hvalid => ?_) fun hvalid => ?_)
  · refine refusedAs (by decide) hfresh (resampled_uncalled swr ?_)
    rw [FormatConverterAudioFFMPEG.swrCall,if_neg (by rw [hlayout]; exact Bool.false_ne_true),
      if_pos hvalid]
  have hcall := FormatConverterAudioFFMPEG.swrCall.eq_1 av aFrame dstFormat
  rw [if_neg (by rw [hlayout]; exact Bool.false_ne_true),
    if_neg (by rw [hvalid]; exact Bool.false_ne_true)] at hcall
  cases hfill : av.samplesFillArrays aFrame.channels aFrame.samples
      (toAVSampleFormat aFrame.format) 0 with
  | none =>
    have hanswer := resampled_uncalled swr (hcall.trans (by rw [hfill]))
    refine wp_bind.mpr (wp_alloc rfl (fun _ => refusedAs (by decide) hfresh hanswer) fun _ => ?_)
    exact refusedAs (by decide) hsrc hanswer
  | some srcData =>
    cases halloc : av.samplesAllocArrayAndSamples aFrame.channels aFrame.samples
        (toAVSampleFormat dstFormat) 0 with
    | none =>
      have hanswer := resampled_uncalled swr (hcall.trans (by rw [hfill,halloc]))
      refine wp_bind.mpr (wp_alloc rfl (fun _ => refusedAs (by decide) hfresh hanswer) fun _ => ?_)
      exact refusedAs (by decide) hsrc hanswer
    | some arrays =>
      obtain ⟨size,destData⟩ := arrays
      have hanswer := resampled_called swr (hcall.trans (by rw [hfill,halloc]))
      rw [SwResample.samples] at hanswer
      refine wp_bind.mpr (wp_alloc rfl (fun hcalloc => ?_) fun hcalloc => ?_)
      · refine refusedAs (by decide) hfresh (hanswer.trans ?_)
        rw [hcalloc]
        rfl
      refine wp_bind.mpr (wp_acquire rfl (wp_bind.mpr (wp_acquire rfl ?_)))
      refine wp_bind.mpr (wp_alloc rfl (fun hopts => ?_) fun hopts => ?_)
      · refine refusedAs (by decide) hdest (hanswer.trans ?_)
        rw [hcalloc,hopts]
        rfl
      refine wp_bind.mpr (wp_refuseIf (fun hinit => ?_) fun hinit => ?_)
      · refine refusedAs (by decide) hall (hanswer.trans ?_)
        have hinit' : swr.init = false := by simpa using hinit
        rw [hcalloc,hopts,hinit']
        rfl
      have hinit' : swr.init = true := by simpa using hinit
      rw [hcalloc,hopts,hinit'] at hanswer
      cases hplanes : swr.convert ⟨srcData,destData,size,toAVSampleFormat aFrame.format,
          toAVSampleFormat dstFormat⟩ aFrame.buffer with
      | none =>
        rw [hplanes] at hanswer
        exact refusedAs (by decide) hall hanswer
      | some planes =>
        rw [hplanes] at hanswer
        refine wp_bind.mpr (wp_refuseIf (fun hroom => ?_) fun _ => ?_)
        · exact .inr ⟨rfl,rfl,by simpa using hroom,rfl,fun k => by cases k <;> rfl⟩
        refine wp_bind.mpr (wp_freep rfl (wp_bind.mpr (wp_freeHeld ?_ ?_)))
        · exact hall.put Pointer.noConfusion .srcData
        refine wp_bind.mpr (wp_freep rfl (wp_bind.mpr (wp_freep rfl ?_)))
        exact ⟨⟨rfl,fun k => by cases k <;> exact Pointer.noConfusion⟩,hanswer⟩

end Release

section Negotiation

variable {α β κ : Type} {known : α → Bool} {convert : α → Except Fault β} {formats : List α}
  {frame : β} {fault : Fault}

def Passed (known : α → Bool) (convert : α → Except Fault β) (before : List α) : Prop :=
  ∀ format ∈ before, known format = true → convert format = .error invalidOperationFault

theorem convertAny_first {before after : List α} {format : α}
    (hbefore : Passed known convert before) (hknown : known format = true)
    (hformat : convert format ≠ .error invalidOperationFault) :
    convertAny known convert (before ++ format :: after) = convert format := by
  induction before with
  | nil =>
    rw [List.nil_append,convertAny,if_pos hknown]
    cases hconvert : convert format with
    | ok frame => rfl
    | error fault =>
      have hfault : fault ≠ invalidOperationFault := fun hrefused => by
        rw [hconvert,hrefused] at hformat
        exact hformat rfl
      exact if_neg hfault
  | cons first before ih =>
    obtain ⟨hfirst,hbefore⟩ := List.forall_mem_cons.mp hbefore
    rw [List.cons_append,convertAny,← ih hbefore]
    by_cases hk : known first = true
    · rw [if_pos hk,hfirst hk]
      exact if_pos rfl
    · exact if_neg hk

theorem convertAny_passed (h : Passed known convert formats) :
    convertAny known convert formats = .error invalidParameterFault := by
  induction formats with
  | nil => rfl
  | cons format formats ih =>
    obtain ⟨hformat,hformats⟩ := List.forall_mem_cons.mp h
    rw [convertAny,← ih hformats]
    by_cases hk : known format = true
    · rw [if_pos hk,hformat hk]
      exact if_pos rfl
    · exact if_neg hk

theorem passed_or_first (known : α → Bool) (convert : α → Except Fault β) (formats : List α) :
    Passed known convert formats ∨ ∃ before format after, formats = before ++ format :: after ∧
      Passed known convert before ∧ known format = true ∧
      convert format ≠ .error invalidOperationFault := by
  induction formats with
  | nil => exact .inl (List.forall_mem_nil _)
  | cons format formats ih =>
    by_cases hformat : known format = true → convert format = .error invalidOperationFault
    · rcases ih with hpassed | ⟨before,later,after,rfl,hbefore,hlater⟩
      · exact .inl (List.forall_mem_cons.mpr ⟨hformat,hpassed⟩)
      · exact .inr ⟨format :: before,later,after,rfl,
          List.forall_mem_cons.mpr ⟨hformat,hbefore⟩,hlater⟩
    · obtain ⟨hknown,hne⟩ := Classical.not_imp.mp hformat
      exact .inr ⟨[],format,formats,rfl,List.forall_mem_nil _,hknown,hne⟩

theorem result_of {m : Pointers.Program κ Fault β} {Q : β → Memory κ → Prop}
    {E : Fault → Memory κ → Prop} (h : wp m Q E Memory.fresh) :
    (∀ frame, result m = .ok frame → ∃ memory, Q frame memory) ∧
      ∀ fault, result m = .error fault → ∃ memory, E fault memory := by
  rw [wp] at h
  rw [result]
  cases hm : m Memory.fresh with
  | ok a memory =>
    rw [hm] at h
    refine ⟨fun frame he => ?_,fun fault he => (by cases he)⟩
    obtain rfl := Except.ok.inj he
    exact ⟨memory,h⟩
  | error fault memory =>
    rw [hm] at h
    refine ⟨fun frame he => (by cases he),fun fault' he => ?_⟩
    obtain rfl := Except.error.inj he
    exact ⟨memory,h⟩

structure Negotiates (known : α → Bool) (convert : α → Except Fault β) (made : α → β → Prop)
    (formats : List α) (answer : Except Fault β) : Prop where
  first : ∀ before format after, formats = before ++ format :: after →
    Passed known convert before → known format = true →
    convert format ≠ .error invalidOperationFault → answer = convert format
  passed : Passed known convert formats → answer = .error invalidParameterFault
  made : ∀ format out, convert format = .ok out → made format out
  raised : ∀ fault, answer = .error fault → fault = invalidParameterFault ∨ fault = badAlloc

theorem convertFrame_negotiates {convert : β → α → Except Fault β} {made : α → β → Prop}
    (hmade : ∀ format out, convert frame format = .ok out → made format out)
    (hraised : ∀ format fault, convert frame format = .error fault →
      Refusal fault ∨ fault = badAlloc) (formats : List α) :
    Negotiates known (convert frame) made formats
      (convertFrame known convert (some frame) formats) := by
  have hanswer : convertFrame known convert (some frame) formats =
      convertAny known (convert frame) formats := by
    cases formats <;> rfl
  rw [hanswer]
  refine ⟨?_,convertAny_passed,hmade,fun fault h => ?_⟩
  · rintro before format after rfl hbefore hknown hformat
    exact convertAny_first hbefore hknown hformat
  · rcases passed_or_first known (convert frame) formats with
      hpassed | ⟨before,format,after,rfl,hbefore,hknown,hformat⟩
    · exact .inl (Except.error.inj ((convertAny_passed hpassed).symm.trans h)).symm
    · rw [convertAny_first hbefore hknown hformat] at h
      rcases hraised format fault h with (he | he) | he
      · exact .inl he
      · exact absurd (h.trans (congrArg Except.error he)) hformat
      · exact .inr he

def Scales (sws : SwScale) (vFrame : VideoFramePack) (format : VideoFormat)
    (out : VideoFramePack) : Prop :=
  if vFrame.format = format then out = vFrame.copy else ScaledFrom sws vFrame format out

def Resamples (av : AvUtil) (swr : SwResample) (aFrame : AudioFramePack) (format : AudioFormat)
    (out : AudioFramePack) : Prop :=
  if aFrame.format = format then out = aFrame.copy else resampled av swr aFrame format = .ok out

theorem convert_negotiates (sws : SwScale) (vFrame : VideoFramePack)
    (videoFormats : List VideoFormat) (av : AvUtil) (swr : SwResample) (aFrame : AudioFramePack)
    (audioFormats : List AudioFormat) :
    Negotiates (fun format => toAVPixelFormat format != .none)
        (FormatConverterVideoFFMPEG.convertTo sws vFrame) (Scales sws vFrame) videoFormats
        (FormatConverterVideoFFMPEG.convert sws (some vFrame) videoFormats) ∧
      Negotiates (fun format => toAVSampleFormat format != .none)
        (FormatConverterAudioFFMPEG.convertTo av swr aFrame) (Resamples av swr aFrame) audioFormats
        (FormatConverterAudioFFMPEG.convert av swr (some aFrame) audioFormats) := by
  constructor
  · refine convertFrame_negotiates (fun format out h => ?_) (fun format fault h => ?_) videoFormats
    · rw [Scales]
      rw [FormatConverterVideoFFMPEG.convertTo] at h
      split_ifs at h with hsame
      · rw [if_pos hsame]
        exact (Except.ok.inj h).symm
      · rw [if_neg hsame]
        obtain ⟨memory,-,hout⟩ := (result_of (scale_releases sws vFrame format)).1 out h
        exact hout
    · rw [FormatConverterVideoFFMPEG.convertTo] at h
      split_ifs at h
      · exact .inr (Except.error.inj h).symm
      · obtain ⟨memory,hfault⟩ := (result_of (scale_releases sws vFrame format)).2 fault h
        exact hfault.imp (fun h => h.2) fun h => h.2.1
  · refine convertFrame_negotiates (fun format out h => ?_) (fun format fault h => ?_) audioFormats
    · rw [Resamples]
      rw [FormatConverterAudioFFMPEG.convertTo] at h
      split_ifs at h with hsame
      · rw [if_pos hsame]
        exact (Except.ok.inj h).symm
      · rw [if_neg hsame]
        obtain ⟨memory,-,hout⟩ := (result_of (resample_releases av swr aFrame format)).1 out h
        exact hout
    · rw [FormatConverterAudioFFMPEG.convertTo] at h
      split_ifs at h
      · exact .inr (Except.error.inj h).symm
      · obtain ⟨memory,hfault⟩ := (result_of (resample_releases av swr aFrame format)).2 fault h
        exact hfault.imp (fun h => h.2.1) fun h => h.2.1

end Negotiation

end Ovi
