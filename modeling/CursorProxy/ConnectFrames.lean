import CursorProxy.StreamingLoop

/-! The Connect envelope: one flags byte, a big-endian 32-bit payload length and
the payload. The decoder keeps undecoded bytes in a buffer and splits every
complete frame off its front. -/
namespace CursorProxy.ConnectFrames
open StreamingLoop

structure ConnectFrame where
 flags : UInt8
 payload : List UInt8
 deriving DecidableEq

inductive ConnectError where
 | payloadTooLarge (length max:ℕ)
 deriving DecidableEq

def ConnectError.display : ConnectError → String
 | .payloadTooLarge length max=>
  "Connect frame payload " ++ toString length ++ " exceeds max " ++ toString max

def toBeBytes (n:UInt32) : List UInt8 :=
 [UInt8.ofNat (n.toNat / 2 ^ 24),UInt8.ofNat (n.toNat / 2 ^ 16),UInt8.ofNat (n.toNat / 2 ^ 8),UInt8.ofNat n.toNat]

def fromBeBytes (b1 b2 b3 b4:UInt8) : UInt32 :=
 UInt32.ofNat (b1.toNat*2 ^ 24+b2.toNat*2 ^ 16+b3.toNat*2 ^ 8+b4.toNat)

theorem fromBeBytes_toBeBytes (n:UInt32) : ∃ b1 b2 b3 b4,toBeBytes n=[b1,b2,b3,b4] ∧ fromBeBytes b1 b2 b3 b4=n:=by
 refine ⟨_,_,_,_,rfl,?_⟩
 have hn:=n.toNat_lt
 apply UInt32.toNat_inj.mp
 simp only [fromBeBytes,UInt32.toNat_ofNat',UInt8.toNat_ofNat']
 omega

theorem toBeBytes_fromBeBytes (b1 b2 b3 b4:UInt8) : toBeBytes (fromBeBytes b1 b2 b3 b4)=[b1,b2,b3,b4]:=by
 have h1:=b1.toNat_lt
 have h2:=b2.toNat_lt
 have h3:=b3.toNat_lt
 have h4:=b4.toNat_lt
 have hn:(fromBeBytes b1 b2 b3 b4).toNat = b1.toNat*2 ^ 24+b2.toNat*2 ^ 16+b3.toNat*2 ^ 8+b4.toNat:=by
  rw [fromBeBytes,UInt32.toNat_ofNat']
  omega
 unfold toBeBytes
 rw [hn]
 refine congrArg₂ _ ?_ (congrArg₂ _ ?_ (congrArg₂ _ ?_ (congrArg₂ _ ?_ rfl))) <;>
  (apply UInt8.toNat_inj.mp; rw [UInt8.toNat_ofNat']; omega)

def encodeConnectFrame (payload:List UInt8) (flags:UInt8) : List UInt8 :=
 flags::(toBeBytes (UInt32.ofNat payload.length)++payload)

def encodeFrames (frames:List ConnectFrame) : List UInt8 :=
 (frames.map fun frame=>encodeConnectFrame frame.payload frame.flags).flatten

@[simp] theorem encodeFrames_nil : encodeFrames []=[] := rfl

@[simp] theorem encodeFrames_cons (frame:ConnectFrame) (frames:List ConnectFrame) :
 encodeFrames (frame::frames) = encodeConnectFrame frame.payload frame.flags++encodeFrames frames := rfl

def drainBody (maxPayload:ℕ) : List UInt8 → Turn (List UInt8) ConnectFrame (Option ConnectError)
 | flags::b1::b2::b3::b4::rest=>
  let buffer:=flags::b1::b2::b3::b4::rest
  let len:=(fromBeBytes b1 b2 b3 b4).toNat
  if maxPayload<len then .done buffer [] (some (.payloadTooLarge len maxPayload))
  else if rest.length<len then .done buffer [] none
  else .again (rest.drop len) [⟨flags,rest.take len⟩]
 | buffer=>.done buffer [] none

theorem drainBody_again {maxPayload:ℕ} {buffer next:List UInt8} {out:List ConnectFrame}
 (h:drainBody maxPayload buffer=.again next out) :
 ∃ flags b1 b2 b3 b4 rest len,buffer=flags::b1::b2::b3::b4::rest ∧
  (fromBeBytes b1 b2 b3 b4).toNat=len ∧ len ≤ maxPayload ∧ len ≤ rest.length ∧
  next=rest.drop len ∧ out=[⟨flags,rest.take len⟩]:=by
 unfold drainBody at h
 split at h
 · rename_i flags b1 b2 b3 b4 rest
   dsimp only at h
   split_ifs at h with hmax hlen
   injection h with hnext hout
   exact ⟨flags,b1,b2,b3,b4,rest,_,rfl,rfl,by omega,by omega,hnext.symm,hout.symm⟩
 · exact absurd h (by simp)

theorem drainBody_frame {maxPayload len:ℕ} {flags b1 b2 b3 b4:UInt8} {rest:List UInt8}
 (hheader:(fromBeBytes b1 b2 b3 b4).toNat=len) (hmax:len ≤ maxPayload) (hlen:len ≤ rest.length) :
 drainBody maxPayload (flags::b1::b2::b3::b4::rest) = .again (rest.drop len) [⟨flags,rest.take len⟩]:=by
 simp [drainBody,hheader,Nat.not_lt.mpr hmax,Nat.not_lt.mpr hlen]

theorem drainBody_done {maxPayload:ℕ} {buffer last:List UInt8} {out:List ConnectFrame}
 {exit:Option ConnectError} (h:drainBody maxPayload buffer=.done last out exit) : last=buffer ∧ out=[]:=by
 unfold drainBody at h
 split at h
 · dsimp only at h
   split_ifs at h <;> (injection h with hl ho; exact ⟨hl.symm,ho.symm⟩)
 · injection h with hl ho
   exact ⟨hl.symm,ho.symm⟩

def drainLoop (maxPayload:ℕ) : MeasuredLoop (List UInt8) ConnectFrame (Option ConnectError) where
 body := drainBody maxPayload
 measure := List.length
 decreases:=by
  intro buffer next out h
  obtain ⟨flags,b1,b2,b3,b4,rest,len,rfl,-,-,-,rfl,-⟩:=drainBody_again h
  simp only [List.length_drop,List.length_cons]
  omega

/-- Later bytes never disturb a frame that is already complete. -/
def drainResumable (maxPayload:ℕ) : Resumable UInt8 (drainLoop maxPayload) where
 extend buffer chunk := buffer++chunk
 extend_nil := List.append_nil
 extend_append buffer xs ys := (List.append_assoc buffer xs ys).symm
 again_extend:=by
  intro buffer next out chunk h
  obtain ⟨flags,b1,b2,b3,b4,rest,len,rfl,hheader,hmax,hlen,rfl,rfl⟩ :=
   drainBody_again h
  have hext:len ≤ (rest++chunk).length:=by
   rw [List.length_append]; omega
  change drainBody maxPayload (flags::b1::b2::b3::b4::(rest++chunk))=_
  rw [drainBody_frame hheader hmax hext,List.drop_append_of_le_length hlen,List.take_append_of_le_length hlen]
 done_extend:=by
  intro buffer last out exit chunk h
  obtain ⟨rfl,rfl⟩:=drainBody_done h
  rfl

structure ConnectFrameDecoder where
 buffer : List UInt8
 deriving DecidableEq

namespace ConnectFrameDecoder

def new : ConnectFrameDecoder := ⟨[]⟩

def drain (decoder:ConnectFrameDecoder) (maxPayload:ℕ) : ConnectFrameDecoder×Except ConnectError (List ConnectFrame) :=
 let finished:=(drainLoop maxPayload).run decoder.buffer
 match finished.exit with
 | some error=>(⟨finished.state⟩,.error error)
 | none=>(⟨finished.state⟩,.ok finished.out)

def pushWithLimit (decoder:ConnectFrameDecoder) (chunk:List UInt8) (maxPayload:ℕ) :
 ConnectFrameDecoder×Except ConnectError (List ConnectFrame) :=
 drain ⟨decoder.buffer++chunk⟩ maxPayload

def push (decoder:ConnectFrameDecoder) (chunk:List UInt8) :
 ConnectFrameDecoder×Except ConnectError (List ConnectFrame) :=
 decoder.pushWithLimit chunk (64*1024*1024)

def buffered (decoder:ConnectFrameDecoder) : ℕ := decoder.buffer.length

end ConnectFrameDecoder

/-- What a consumer sees of a decoder that is fed a list of chunks: the frames
delivered before the first error, whether an error occurred, and the bytes
left in the buffer after the last chunk. -/
@[ext]
structure FeedOutcome where
 frames : List ConnectFrame
 failed : Bool
 residual : List UInt8
 deriving DecidableEq

def feedChunks (maxPayload:ℕ) (decoder:ConnectFrameDecoder) : List (List UInt8) → FeedOutcome
 | []=>⟨[],false,decoder.buffer⟩
 | chunk::chunks=>
  match decoder.pushWithLimit chunk maxPayload with
  | (next,.ok frames)=>
   let rest:=feedChunks maxPayload next chunks
   { rest with frames := frames++rest.frames }
  | (next,.error _)=>
   let rest:=feedChunks maxPayload next chunks
   ⟨[],true,rest.residual⟩

def OversizedHeader (maxPayload:ℕ) (buffer:List UInt8) : Prop :=
 ∃ flags b1 b2 b3 b4 rest,buffer=flags::b1::b2::b3::b4::rest ∧ maxPayload<(fromBeBytes b1 b2 b3 b4).toNat

end CursorProxy.ConnectFrames
