import Ovi.Library.Planes
import Ovi.Flow.OutcomeCache
import Mathlib.Tactic.IntervalCases

namespace Ovi

inductive AVSampleFormat where
  | none
  | u8
  | s16
  | s32
  | flt
  | dbl
  | u8p
  | s16p
  | s32p
  | fltp
  | dblp
  | s64
  | s64p
deriving DecidableEq, Repr

inductive AudioFormat where
  | none
  | u8
  | s16
  | s32
  | flt
  | dbl
  | s64
  | u8p
  | s16p
  | s32p
  | fltp
  | dblp
  | s64p
deriving DecidableEq, Repr

def toAudioFormat : AVSampleFormat → AudioFormat
  | .none => .none
  | .u8 => .u8
  | .s16 => .s16
  | .s32 => .s32
  | .flt => .flt
  | .dbl => .dbl
  | .s64 => .s64
  | .u8p => .u8p
  | .s16p => .s16p
  | .s32p => .s32p
  | .fltp => .fltp
  | .dblp => .dblp
  | .s64p => .s64p

def toAVSampleFormat : AudioFormat → AVSampleFormat
  | .none => .none
  | .u8 => .u8
  | .s16 => .s16
  | .s32 => .s32
  | .flt => .flt
  | .dbl => .dbl
  | .s64 => .s64
  | .u8p => .u8p
  | .s16p => .s16p
  | .s32p => .s32p
  | .fltp => .fltp
  | .dblp => .dblp
  | .s64p => .s64p

theorem toAVSampleFormat_toAudioFormat (format : AVSampleFormat) :
    toAVSampleFormat (toAudioFormat format) = format := by
  cases format <;> rfl

-- what libavutil answers; the plane pointers are offsets into the buffer
structure AvUtil where
  getBytesPerSample : AVSampleFormat → Nat
  sampleFmtIsPlanar : AVSampleFormat → Bool
  samplesFillArrays : (channels samples : Nat) → AVSampleFormat → (align : Nat) →
    Option (List Nat)
  samplesAllocArrayAndSamples : (channels samples : Nat) → AVSampleFormat → (align : Nat) →
    Option (Nat × List Nat)

namespace AvUtil

variable (av : AvUtil)

def planes (format : AVSampleFormat) (channels : Nat) : Nat :=
  if av.sampleFmtIsPlanar format then channels else 1

def planeSize (format : AVSampleFormat) (samples : Nat) : Nat :=
  samples * av.getBytesPerSample format

-- a line holds the samples of one channel, or in a packed format those of all
def lineSize (format : AVSampleFormat) (channels samples : Nat) : Nat :=
  av.planeSize format samples * if av.sampleFmtIsPlanar format then 1 else channels

def offsets (format : AVSampleFormat) (channels samples : Nat) : List Nat :=
  (List.range (av.planes format channels)).map (· * av.lineSize format channels samples)

-- with `align` 0 the sample count of a line is rounded up to a multiple of 32
structure Documented : Prop where
  bytes : ∀ format, format ≠ .none → 0 < av.getBytesPerSample format
  fillArrays : ∀ channels samples format offsets,
    av.samplesFillArrays channels samples format 0 = some offsets →
      offsets = av.offsets format channels (Planes.roundUp samples 32)
  allocArrayAndSamples : ∀ channels samples format size offsets,
    av.samplesAllocArrayAndSamples channels samples format 0 = some (size,offsets) →
      offsets = av.offsets format channels (Planes.roundUp samples 32) ∧
      size = av.planes format channels *
        av.lineSize format channels (Planes.roundUp samples 32)

end AvUtil

def avNumDataPointers : Nat := 8

structure AVFrame where
  format : AVSampleFormat
  channels : Nat
  channelLayout : Nat
  sampleRate : Nat
  nbSamples : Nat
  -- the array of plane pointers that the frame holds itself, each with what stands there
  data : List (List UInt8)
  pointers : data.length = avNumDataPointers

structure AudioFramePack extends FramePack where
  framerate : ℚ
  channels : Nat
  samplerate : Nat
  format : AudioFormat
  samples : Nat
  channelLayout : Nat
  buffer : List UInt8
deriving DecidableEq, Repr

namespace AudioFramePack

def make (channels samplerate : Nat) (format : AudioFormat) (samples : Nat) : AudioFramePack where
  frameNum := 0
  pts := 0
  duration := 0
  framerate := 0
  channels := channels
  samplerate := samplerate
  format := format
  samples := samples
  channelLayout := 0
  buffer := []

def assign (p : AudioFramePack) (buffer : List UInt8) (info : FramePack) (framerate : ℚ) :
    AudioFramePack :=
  if buffer.isEmpty then p
  else { p with
    toFramePack := info
    framerate := framerate
    buffer := buffer }

def setChannelLayout (p : AudioFramePack) (channelLayout : Nat) : AudioFramePack :=
  { p with channelLayout := channelLayout }

def valid (p : AudioFramePack) : Bool := !p.buffer.isEmpty

end AudioFramePack

-- the loop of `memcpy`, which reads a pointer behind the array for a ninth plane
def packPlanes (data : List (List UInt8)) (planeSize : Nat) :
    Nat → Nat → List UInt8 → Nat → Except Fault (List UInt8)
  | 0, _, buffer, _ => .ok buffer
  | steps + 1, ch, buffer, offset =>
    match data[ch]? with
    | none => .error .undefined
    | some plane => packPlanes data planeSize steps (ch + 1)
        (Planes.write buffer offset (plane.take planeSize)) (offset + planeSize)

namespace FramePackerAvAudio

-- `nullptr` is `none`
def pack (av : AvUtil) (frame : AVFrame) (info : FramePack) (framerate : ℚ) :
    Except Fault (Option AudioFramePack) :=
  let bytesPerSample := av.getBytesPerSample frame.format
  let oviFormat := toAudioFormat frame.format
  if oviFormat == .none then .ok none
  else
    let bufferSize := bytesPerSample * frame.nbSamples * frame.channels
    let newFrame := (AudioFramePack.make frame.channels frame.sampleRate oviFormat
      frame.nbSamples).setChannelLayout frame.channelLayout
    if av.sampleFmtIsPlanar frame.format then
      let planeSize := bytesPerSample * frame.nbSamples
      match packPlanes frame.data planeSize frame.channels 0 (List.replicate bufferSize 0) 0 with
      | .error fault => .error fault
      | .ok buffer => .ok (some (newFrame.assign buffer info framerate))
    else
      match frame.data[0]? with
      | none => .error .undefined
      | some plane => .ok (some (newFrame.assign (plane.take bufferSize) info framerate))

end FramePackerAvAudio

structure SwrCall where
  srcData : List Nat
  destData : List Nat
  size : Nat
  avSrcFormat : AVSampleFormat
  avDestFormat : AVSampleFormat
deriving DecidableEq, Repr

namespace FormatConverterAudioFFMPEG

def swrCall (av : AvUtil) (aFrame : AudioFramePack) (dstFormat : AudioFormat) :
    Except Exn SwrCall :=
  let avSrcFormat := toAVSampleFormat aFrame.format
  let avDestFormat := toAVSampleFormat dstFormat
  if aFrame.channelLayout == 0 then .error (.ovi oviErrorInvalidParameter)
  else if !aFrame.valid || avSrcFormat == .none then .error (.ovi oviErrorInvalidParameter)
  else
    match av.samplesFillArrays aFrame.channels aFrame.samples avSrcFormat 0 with
    | none => .error (.ovi oviErrorInvalidOperation)
    | some srcData =>
      match av.samplesAllocArrayAndSamples aFrame.channels aFrame.samples avDestFormat 0 with
      | none => .error (.ovi oviErrorInvalidOperation)
      | some (size,destData) => .ok ⟨srcData,destData,size,avSrcFormat,avDestFormat⟩

-- `swr` is libswresample: from the source buffer it makes the samples of each plane
def resample (av : AvUtil) (swr : SwrCall → List UInt8 → Except Exn (List (List UInt8)))
    (aFrame : AudioFramePack) (dstFormat : AudioFormat) : Except Exn AudioFramePack := do
  let call ← swrCall av aFrame dstFormat
  let planes ← swr call aFrame.buffer
  let destData := (call.destData.zip planes).foldl
    (fun buffer p => (Planes.write buffer p.1 p.2).take call.size) (List.replicate call.size 0)
  let convertFrame := (AudioFramePack.make aFrame.channels aFrame.samplerate dstFormat
    aFrame.samples).assign destData aFrame.toFramePack aFrame.framerate
  .ok (convertFrame.setChannelLayout aFrame.channelLayout)

end FormatConverterAudioFFMPEG

section Layout

variable (av : AvUtil)

structure AVFrame.Decoded (frame : AVFrame) : Prop where
  format : frame.format ≠ .none
  channels : 0 < frame.channels
  samples : 0 < frame.nbSamples
  planes : ∀ ch plane, ch < frame.channels → frame.data[ch]? = some plane →
    av.getBytesPerSample frame.format * frame.nbSamples ≤ plane.length

structure AVFrame.Resamples (frame : AVFrame) (dstFormat : AudioFormat) : Prop where
  channelLayout : frame.channelLayout ≠ 0
  known : dstFormat ≠ .none
  fillArrays : (av.samplesFillArrays frame.channels frame.nbSamples frame.format 0).isSome = true
  allocArrayAndSamples : (av.samplesAllocArrayAndSamples frame.channels frame.nbSamples
    (toAVSampleFormat dstFormat) 0).isSome = true

structure TightLayout (frame : AVFrame) (dstFormat : AudioFormat) (info : FramePack)
    (framerate : ℚ) : Prop where
  packed : ∃ p, FramePackerAvAudio.pack av frame info framerate = .ok (some p) ∧
    p.buffer.length = frame.channels * av.planeSize frame.format frame.nbSamples ∧
    ∀ ch < frame.channels, ∃ plane, frame.data[ch]? = some plane ∧
      Planes.read p.buffer (ch * av.planeSize frame.format frame.nbSamples)
        (av.planeSize frame.format frame.nbSamples) =
          plane.take (av.planeSize frame.format frame.nbSamples)
  consumed : ∀ p call, FramePackerAvAudio.pack av frame info framerate = .ok (some p) →
    FormatConverterAudioFFMPEG.swrCall av p dstFormat = .ok call →
      call.srcData = (List.range frame.channels).map
        (· * av.planeSize frame.format frame.nbSamples) ∧
      ∀ offset ∈ call.srcData,
        offset + av.planeSize frame.format frame.nbSamples ≤ p.buffer.length
  produced : ∀ p call swr out, FramePackerAvAudio.pack av frame info framerate = .ok (some p) →
    FormatConverterAudioFFMPEG.swrCall av p dstFormat = .ok call →
    FormatConverterAudioFFMPEG.resample av swr p dstFormat = .ok out →
      call.destData = av.offsets (toAVSampleFormat dstFormat) frame.channels frame.nbSamples ∧
      out.buffer.length =
        frame.channels * av.planeSize (toAVSampleFormat dstFormat) frame.nbSamples

end Layout

section Pack

variable {av : AvUtil} {frame : AVFrame} {info : FramePack} {framerate : ℚ}
  {data : List (List UInt8)} {planeSize steps ch offset : Nat} {buffer : List UInt8}
  {p : AudioFramePack}

theorem packPlanes_ok (h : ch + steps ≤ data.length) :
    packPlanes data planeSize steps ch buffer offset = .ok (Planes.writeAll planeSize buffer offset
      (((data.drop ch).take steps).map (List.take planeSize))) := by
  induction steps generalizing ch buffer offset with
  | zero => simp [packPlanes,Planes.writeAll]
  | succ steps ih =>
    have hch : ch < data.length := by omega
    rw [packPlanes,List.getElem?_eq_getElem hch,List.drop_eq_getElem_cons hch,List.take_succ_cons,
      List.map_cons,Planes.writeAll]
    exact ih (by omega)

theorem packPlanes_bound {result : List UInt8}
    (h : packPlanes data planeSize steps ch buffer offset = .ok result) (hch : ch ≤ data.length) :
    ch + steps ≤ data.length := by
  induction steps generalizing ch buffer offset with
  | zero => exact hch
  | succ steps ih =>
    rw [packPlanes] at h
    cases hplane : data[ch]? with
    | none =>
      rw [hplane] at h
      cases h
    | some plane =>
      rw [hplane] at h
      have hless := (List.getElem?_eq_some_iff.mp hplane).1
      have hrest := ih h hless
      omega

theorem toAudioFormat_ne_none {format : AVSampleFormat} (h : format ≠ .none) :
    (toAudioFormat format == .none) = false := by
  cases format with
  | none => exact absurd rfl h
  | _ => rfl

theorem pack_planar (hframe : frame.Decoded av)
    (hplanar : av.sampleFmtIsPlanar frame.format = true) :
    FramePackerAvAudio.pack av frame info framerate =
      match packPlanes frame.data (av.planeSize frame.format frame.nbSamples) frame.channels 0
        (List.replicate (frame.channels * av.planeSize frame.format frame.nbSamples) 0) 0 with
      | .error fault => .error fault
      | .ok buffer => .ok (some (((AudioFramePack.make frame.channels frame.sampleRate
          (toAudioFormat frame.format) frame.nbSamples).setChannelLayout
            frame.channelLayout).assign buffer info framerate)) := by
  have hsize : av.getBytesPerSample frame.format * frame.nbSamples =
      av.planeSize frame.format frame.nbSamples := Nat.mul_comm _ _
  rw [FramePackerAvAudio.pack,toAudioFormat_ne_none hframe.format]
  dsimp only
  rw [if_neg Bool.false_ne_true,if_pos hplanar,hsize,
    Nat.mul_comm (av.planeSize frame.format frame.nbSamples)]

structure Packed (av : AvUtil) (frame : AVFrame) (p : AudioFramePack) : Prop where
  channels : p.channels = frame.channels
  samples : p.samples = frame.nbSamples
  format : p.format = toAudioFormat frame.format
  channelLayout : p.channelLayout = frame.channelLayout
  size : p.buffer.length = frame.channels * av.planeSize frame.format frame.nbSamples
  planes : ∀ ch < frame.channels, ∃ plane, frame.data[ch]? = some plane ∧
    Planes.read p.buffer (ch * av.planeSize frame.format frame.nbSamples)
      (av.planeSize frame.format frame.nbSamples) =
        plane.take (av.planeSize frame.format frame.nbSamples)

variable (info framerate) in
theorem assign_same (p : AudioFramePack) (buffer : List UInt8) :
    (p.assign buffer info framerate).channels = p.channels ∧
      (p.assign buffer info framerate).samples = p.samples ∧
      (p.assign buffer info framerate).format = p.format ∧
      (p.assign buffer info framerate).channelLayout = p.channelLayout := by
  unfold AudioFramePack.assign
  split <;> exact ⟨rfl,rfl,rfl,rfl⟩

theorem assign_buffer (hp : p.buffer = []) (buffer : List UInt8) :
    (p.assign buffer info framerate).buffer = buffer := by
  unfold AudioFramePack.assign
  split
  · rename_i hempty
    rw [hp,List.isEmpty_iff.mp hempty]
  · rfl

variable (info framerate) in
theorem pack_packed (hframe : frame.Decoded av)
    (hplanar : av.sampleFmtIsPlanar frame.format = true)
    (h : frame.channels ≤ avNumDataPointers) :
    ∃ p, FramePackerAvAudio.pack av frame info framerate = .ok (some p) ∧
      Packed av frame p := by
  have hroom : 0 + frame.channels ≤ frame.data.length := by
    rw [frame.pointers]
    omega
  let size := av.planeSize frame.format frame.nbSamples
  let planes := (frame.data.take frame.channels).map (List.take size)
  have hcount : planes.length = frame.channels := by
    simp only [planes,List.length_map,List.length_take]
    omega
  have hsizes : ∀ plane ∈ planes, plane.length = size := by
    intro plane hplane
    obtain ⟨whole,hwhole,rfl⟩ := List.mem_map.mp hplane
    obtain ⟨ch,hch⟩ := List.mem_iff_getElem?.mp hwhole
    have hless : ch < frame.channels :=
      (List.getElem?_eq_some_iff.mp hch).1.trans_le (List.length_take_le _ _)
    rw [List.getElem?_take_of_lt hless] at hch
    have hlong := hframe.planes ch whole hless hch
    rw [Nat.mul_comm] at hlong
    exact List.length_take_of_le hlong
  have hfits : 0 + planes.length * size ≤
      (List.replicate (frame.channels * size) (0 : UInt8)).length := by
    rw [hcount,List.length_replicate,Nat.zero_add]
  obtain ⟨hchannels,hsamples,hformat,hlayout⟩ := assign_same info framerate
    ((AudioFramePack.make frame.channels frame.sampleRate (toAudioFormat frame.format)
      frame.nbSamples).setChannelLayout frame.channelLayout)
    (Planes.writeAll size (List.replicate (frame.channels * size) 0) 0 planes)
  have hbuffer : (((AudioFramePack.make frame.channels frame.sampleRate
      (toAudioFormat frame.format) frame.nbSamples).setChannelLayout frame.channelLayout).assign
        (Planes.writeAll size (List.replicate (frame.channels * size) 0) 0 planes) info
          framerate).buffer = _ := assign_buffer rfl _
  refine ⟨_,by rw [pack_planar hframe hplanar,packPlanes_ok hroom,List.drop_zero],?_⟩
  refine ⟨hchannels,hsamples,hformat,hlayout,?_,fun ch hch => ?_⟩
  · rw [hbuffer,Planes.length_writeAll hsizes hfits,List.length_replicate]
  · have hless : ch < frame.data.length := by omega
    have hplane : planes[ch]? = some (frame.data[ch].take size) := by
      simp only [planes,List.getElem?_map]
      rw [List.getElem?_take_of_lt hch,List.getElem?_eq_getElem hless]
      rfl
    have hread := Planes.read_writeAll hsizes hfits hplane
    rw [Nat.zero_add] at hread
    refine ⟨_,List.getElem?_eq_getElem hless,?_⟩
    rw [hbuffer]
    exact hread

theorem channels_of_pack (hframe : frame.Decoded av)
    (hplanar : av.sampleFmtIsPlanar frame.format = true)
    (h : FramePackerAvAudio.pack av frame info framerate = .ok (some p)) :
    frame.channels ≤ avNumDataPointers := by
  rw [pack_planar hframe hplanar] at h
  split at h
  · cases h
  · rename_i buffer hbuffer
    have hbound := packPlanes_bound hbuffer (Nat.zero_le _)
    rw [frame.pointers] at hbound
    omega

end Pack

section Resample

variable {av : AvUtil} {frame : AVFrame} {dstFormat : AudioFormat} {info : FramePack}
  {framerate : ℚ} {p : AudioFramePack} {call : SwrCall}

theorem swrCall_of_documented (hav : av.Documented) (hp : Packed av frame p)
    (h : FormatConverterAudioFFMPEG.swrCall av p dstFormat = .ok call) :
    call.srcData = av.offsets frame.format frame.channels (Planes.roundUp frame.nbSamples 32) ∧
      call.destData = av.offsets (toAVSampleFormat dstFormat) frame.channels
        (Planes.roundUp frame.nbSamples 32) ∧
      call.size = av.planes (toAVSampleFormat dstFormat) frame.channels *
        av.lineSize (toAVSampleFormat dstFormat) frame.channels
          (Planes.roundUp frame.nbSamples 32) := by
  rw [FormatConverterAudioFFMPEG.swrCall,hp.format,toAVSampleFormat_toAudioFormat,hp.channels,
    hp.samples] at h
  split at h
  · cases h
  · split at h
    · cases h
    · split at h
      · cases h
      · rename_i srcData hfill
        split at h
        · cases h
        · rename_i size destData halloc
          cases h
          obtain ⟨hdest,hsize⟩ := hav.allocArrayAndSamples _ _ _ _ _ halloc
          exact ⟨hav.fillArrays _ _ _ _ hfill,hdest,hsize⟩

theorem swrCall_exists (hframe : frame.Decoded av) (hav : av.Documented) (hp : Packed av frame p)
    (hr : frame.Resamples av dstFormat) :
    ∃ call, FormatConverterAudioFFMPEG.swrCall av p dstFormat = .ok call := by
  obtain ⟨srcData,hfill⟩ := Option.isSome_iff_exists.mp hr.fillArrays
  obtain ⟨⟨size,destData⟩,halloc⟩ := Option.isSome_iff_exists.mp hr.allocArrayAndSamples
  have hlayout : (p.channelLayout == 0) = false := by
    simpa [hp.channelLayout] using hr.channelLayout
  have hbytes := hav.bytes frame.format hframe.format
  have hvalid : p.valid = true := by
    have hsize : 0 < p.buffer.length := by
      rw [hp.size]
      exact Nat.mul_pos hframe.channels (Nat.mul_pos hframe.samples hbytes)
    simpa [AudioFramePack.valid] using List.ne_nil_of_length_pos hsize
  have hformat : (frame.format == .none) = false := by simpa using hframe.format
  refine ⟨⟨srcData,destData,size,frame.format,toAVSampleFormat dstFormat⟩,?_⟩
  rw [FormatConverterAudioFFMPEG.swrCall,hp.format,toAVSampleFormat_toAudioFormat,hp.channels,
    hp.samples]
  simp [hlayout,hvalid,hformat,hfill,halloc]

theorem length_filled (size : Nat) {buffer : List UInt8} (planes : List (Nat × List UInt8))
    (h : buffer.length = size) : (planes.foldl (fun buffer p =>
      (Planes.write buffer p.1 p.2).take size) buffer).length = size := by
  induction planes generalizing buffer with
  | nil => exact h
  | cons p planes ih =>
    refine ih ?_
    simp only [Planes.write,List.length_take,List.length_append,List.length_drop]
    omega

theorem resample_length {swr : SwrCall → List UInt8 → Except Exn (List (List UInt8))}
    {out : AudioFramePack}
    (hcall : FormatConverterAudioFFMPEG.swrCall av p dstFormat = .ok call)
    (h : FormatConverterAudioFFMPEG.resample av swr p dstFormat = .ok out) :
    out.buffer.length = call.size := by
  rw [FormatConverterAudioFFMPEG.resample,hcall] at h
  cases hswr : swr call p.buffer with
  | error e =>
    change (swr call p.buffer >>= _) = _ at h
    rw [hswr] at h
    cases h
  | ok planes =>
    change (swr call p.buffer >>= _) = _ at h
    rw [hswr] at h
    cases h
    change (AudioFramePack.assign _ _ _ _).buffer.length = _
    rw [assign_buffer rfl]
    exact length_filled call.size _ List.length_replicate

theorem planes_lineSize (format : AVSampleFormat) (channels samples : Nat) :
    av.planes format channels * av.lineSize format channels samples =
      channels * av.planeSize format samples := by
  unfold AvUtil.planes AvUtil.lineSize
  split
  · rw [Nat.mul_one]
  · rw [Nat.one_mul,Nat.mul_comm]

theorem offsets_planar (hplanar : av.sampleFmtIsPlanar frame.format = true) (samples : Nat) :
    av.offsets frame.format frame.channels samples =
      (List.range frame.channels).map (· * av.planeSize frame.format samples) := by
  rw [AvUtil.offsets,AvUtil.planes,AvUtil.lineSize,hplanar]
  simp

theorem tightLayout_of_multiple (hav : av.Documented) (hframe : frame.Decoded av)
    (hplanar : av.sampleFmtIsPlanar frame.format = true)
    (hchannels : frame.channels ≤ avNumDataPointers) (hmultiple : 32 ∣ frame.nbSamples) :
    TightLayout av frame dstFormat info framerate := by
  have hround : Planes.roundUp frame.nbSamples 32 = frame.nbSamples :=
    (Planes.roundUp_eq_iff (by decide)).mpr hmultiple
  obtain ⟨p₀,hpack,hp⟩ := pack_packed info framerate hframe hplanar hchannels
  have hsame : ∀ p, FramePackerAvAudio.pack av frame info framerate = .ok (some p) → p = p₀ := by
    intro p h
    exact Option.some.inj (Except.ok.inj (h.symm.trans hpack))
  refine ⟨⟨p₀,hpack,hp.size,hp.planes⟩,?_,?_⟩
  · intro p call h hcall
    obtain rfl := hsame p h
    obtain ⟨hsrc,-,-⟩ := swrCall_of_documented hav hp hcall
    rw [hround,offsets_planar hplanar] at hsrc
    refine ⟨hsrc,fun offset hoffset => ?_⟩
    rw [hsrc] at hoffset
    obtain ⟨ch,hch,rfl⟩ := List.mem_map.mp hoffset
    have hless := List.mem_range.mp hch
    rw [hp.size,← Nat.succ_mul]
    exact Nat.mul_le_mul_right _ hless
  · intro p call swr out h hcall hout
    obtain rfl := hsame p h
    obtain ⟨-,hdest,hsize⟩ := swrCall_of_documented hav hp hcall
    rw [hround] at hdest hsize
    rw [resample_length hcall hout,hsize,planes_lineSize]
    exact ⟨hdest,rfl⟩

theorem multiple_of_tightLayout (hav : av.Documented) (hframe : frame.Decoded av)
    (hplanar : av.sampleFmtIsPlanar frame.format = true) (hr : frame.Resamples av dstFormat)
    (h : TightLayout av frame dstFormat info framerate) :
    frame.channels ≤ avNumDataPointers ∧ 32 ∣ frame.nbSamples := by
  obtain ⟨p₀,hpack₀,-⟩ := h.packed
  have hchannels := channels_of_pack hframe hplanar hpack₀
  obtain ⟨p,hpack,hp⟩ := pack_packed info framerate hframe hplanar hchannels
  obtain ⟨call,hcall⟩ := swrCall_exists hframe hav hp hr
  have hout : ∃ out, FormatConverterAudioFFMPEG.resample av (fun _ _ => .ok []) p dstFormat =
      .ok out := by
    rw [FormatConverterAudioFFMPEG.resample,hcall]
    exact ⟨_,rfl⟩
  obtain ⟨out,hout⟩ := hout
  obtain ⟨-,-,hsize⟩ := swrCall_of_documented hav hp hcall
  obtain ⟨-,hlength⟩ := h.produced p call _ out hpack hcall hout
  rw [resample_length hcall hout,hsize,planes_lineSize] at hlength
  have hdest : toAVSampleFormat dstFormat ≠ .none := by
    have hknown := hr.known
    cases dstFormat with
    | none => exact absurd rfl hknown
    | _ => nofun
  have hplane := Nat.eq_of_mul_eq_mul_left hframe.channels hlength
  have hround := Nat.eq_of_mul_eq_mul_right (hav.bytes _ hdest) hplane
  exact ⟨hchannels,(Planes.roundUp_eq_iff (by decide)).mp hround⟩

theorem tightLayout_iff (hav : av.Documented) (hframe : frame.Decoded av)
    (hplanar : av.sampleFmtIsPlanar frame.format = true) (hr : frame.Resamples av dstFormat) :
    TightLayout av frame dstFormat info framerate ↔
      frame.channels ≤ avNumDataPointers ∧ 32 ∣ frame.nbSamples := by
  constructor
  · exact multiple_of_tightLayout hav hframe hplanar hr
  · rintro ⟨hchannels,hmultiple⟩
    exact tightLayout_of_multiple hav hframe hplanar hchannels hmultiple

end Resample

section Sample

def bytesPerSample : AVSampleFormat → Nat
  | .none => 0
  | .u8 | .u8p => 1
  | .s16 | .s16p => 2
  | .s32 | .s32p | .flt | .fltp => 4
  | .dbl | .dblp | .s64 | .s64p => 8

def isPlanar : AVSampleFormat → Bool
  | .u8p | .s16p | .s32p | .fltp | .dblp | .s64p => true
  | _ => false

def samplesArrays (channels samples : Nat) (format : AVSampleFormat) (align : Nat) :
    Option (Nat × List Nat) :=
  let lineSamples := if align = 0 then Planes.roundUp samples 32 else samples
  let width := bytesPerSample format * if isPlanar format then 1 else channels
  let lineSize := Planes.roundUp (lineSamples * width) (max align 1)
  let planes := if isPlanar format then channels else 1
  if channels = 0 ∨ samples = 0 ∨ bytesPerSample format = 0 then none
  else some (planes * lineSize,(List.range planes).map (· * lineSize))

def libAvUtil : AvUtil where
  getBytesPerSample := bytesPerSample
  sampleFmtIsPlanar := isPlanar
  samplesFillArrays := fun channels samples format align =>
    (samplesArrays channels samples format align).map Prod.snd
  samplesAllocArrayAndSamples := samplesArrays

theorem libAvUtil_documented : libAvUtil.Documented := by
  have harrays : ∀ channels samples format size offsets,
      samplesArrays channels samples format 0 = some (size,offsets) →
        offsets = libAvUtil.offsets format channels (Planes.roundUp samples 32) ∧
          size = libAvUtil.planes format channels *
            libAvUtil.lineSize format channels (Planes.roundUp samples 32) := by
    intro channels samples format size offsets h
    rw [samplesArrays] at h
    split at h
    · cases h
    · cases h
      have hline : Planes.roundUp (Planes.roundUp samples 32 *
          (bytesPerSample format * if isPlanar format then 1 else channels)) (max 0 1) =
          libAvUtil.lineSize format channels (Planes.roundUp samples 32) := by
        have hone : ∀ n, Planes.roundUp n (max 0 1) = n :=
          fun n => (Planes.roundUp_eq_iff (by decide)).mpr (one_dvd n)
        rw [hone,← Nat.mul_assoc]
        rfl
      rw [if_pos rfl,hline]
      exact ⟨rfl,rfl⟩
  constructor
  · intro format h
    cases format with
    | none => exact absurd rfl h
    | _ => decide
  · intro channels samples format offsets h
    obtain ⟨⟨size,offsets⟩,harray,rfl⟩ := Option.map_eq_some_iff.mp h
    exact (harrays channels samples format size offsets harray).1
  · exact harrays

def lastBlock : AVFrame where
  format := .s16p
  channels := 2
  channelLayout := 3
  sampleRate := 44100
  nbSamples := 100
  data := List.replicate 2 (List.replicate 200 0) ++ List.replicate 6 []
  pointers := rfl

theorem lastBlock_decoded : lastBlock.Decoded libAvUtil := by
  refine ⟨by decide,by decide,by decide,fun ch plane hch hplane => ?_⟩
  change ch < 2 at hch
  have hdata : plane = List.replicate 200 0 := by
    interval_cases ch
    · exact (Option.some.inj hplane).symm
    · exact (Option.some.inj hplane).symm
  rw [hdata,List.length_replicate]
  decide

theorem lastBlock_resamples : lastBlock.Resamples libAvUtil .fltp :=
  ⟨by decide,by decide,rfl,rfl⟩

theorem tightLayout_iff_lastBlock : TightLayout libAvUtil lastBlock .fltp ⟨0,0,1⟩ 25 ↔
    lastBlock.channels ≤ avNumDataPointers ∧ 32 ∣ lastBlock.nbSamples :=
  tightLayout_iff libAvUtil_documented lastBlock_decoded rfl lastBlock_resamples

theorem lastBlock_not_tight : ¬ TightLayout libAvUtil lastBlock .fltp ⟨0,0,1⟩ 25 := by
  intro h
  have hmultiple := (multiple_of_tightLayout libAvUtil_documented lastBlock_decoded rfl
    lastBlock_resamples h).2
  exact absurd hmultiple (by decide)

end Sample

end Ovi
