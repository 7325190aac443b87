import CursorProxy.ConnectFrames

namespace CursorProxy.ConnectFraming
open StreamingLoop ConnectFrames

variable {maxPayload:ℕ}

def WithinLimit (maxPayload:ℕ) (frames:List ConnectFrame) : Prop :=
 ∀ frame∈frames,frame.payload.length ≤ maxPayload ∧ frame.payload.length<2 ^ 32

instance (maxPayload:ℕ) (frames:List ConnectFrame) : Decidable (WithinLimit maxPayload frames) :=
 inferInstanceAs (Decidable (∀ frame∈frames,_))

/-- The stream holds at least one complete frame and, right after the complete
frames, a header that announces more than the limit. -/
def FrameBeforeOversized (maxPayload:ℕ) (stream:List UInt8) : Prop :=
 ∃ frames rest,frames≠[] ∧ WithinLimit maxPayload frames ∧
  stream=encodeFrames frames++rest ∧ OversizedHeader maxPayload rest

theorem run_encoded_frame (frame:ConnectFrame) (rest:List UInt8)
  (hmax:frame.payload.length ≤ maxPayload) (h32:frame.payload.length<2 ^ 32) :
  (drainLoop maxPayload).run (encodeConnectFrame frame.payload frame.flags++rest) =
   ((drainLoop maxPayload).run rest).emitBefore [frame]:=by
 obtain ⟨b1,b2,b3,b4,hto,hfrom⟩:=fromBeBytes_toBeBytes (UInt32.ofNat frame.payload.length)
 have hlen:(fromBeBytes b1 b2 b3 b4).toNat=frame.payload.length:=by
  rw [hfrom,UInt32.toNat_ofNat']
  omega
 have hfits:frame.payload.length ≤ (frame.payload++rest).length:=by
  rw [List.length_append]; omega
 have hbody:drainBody maxPayload (frame.flags::b1::b2::b3::b4::(frame.payload++rest))=.again rest [frame]:=by
  rw [drainBody_frame hlen hmax hfits,List.drop_left,List.take_left]
 have hbytes:encodeConnectFrame frame.payload frame.flags++rest =
   frame.flags::b1::b2::b3::b4::(frame.payload++rest):=by
  rw [encodeConnectFrame,hto]
  rfl
 rw [hbytes]
 exact (drainLoop maxPayload).run_again hbody

theorem run_encodeFrames (frames:List ConnectFrame) (rest:List UInt8) (h:WithinLimit maxPayload frames) :
  (drainLoop maxPayload).run (encodeFrames frames++rest) = ((drainLoop maxPayload).run rest).emitBefore frames:=by
 induction frames with
 | nil=>rfl
 | cons frame frames ih=>
  obtain ⟨hmax,h32⟩:=h frame List.mem_cons_self
  rw [encodeFrames_cons,List.append_assoc,run_encoded_frame frame _ hmax h32,
   ih fun f hf=>h f (List.mem_cons_of_mem frame hf)]
  exact (Finished.emitBefore_append [frame] frames _).symm

theorem split_frame {flags b1 b2 b3 b4:UInt8} {rest:List UInt8} {len:ℕ}
  (hheader:(fromBeBytes b1 b2 b3 b4).toNat=len) (hlen:len ≤ rest.length) :
  flags::b1::b2::b3::b4::rest = encodeConnectFrame (rest.take len) flags++rest.drop len:=by
 have htake:(rest.take len).length=len:=by
  rw [List.length_take]; omega
 have hto:toBeBytes (UInt32.ofNat len)=[b1,b2,b3,b4]:=by
  rw [← hheader,UInt32.ofNat_toNat,toBeBytes_fromBeBytes]
 rw [encodeConnectFrame,htake,hto]
 simp

theorem run_accounts (maxPayload:ℕ) (buffer:List UInt8) :
  buffer=encodeFrames ((drainLoop maxPayload).run buffer).out ++ ((drainLoop maxPayload).run buffer).state ∧
   WithinLimit maxPayload ((drainLoop maxPayload).run buffer).out:=by
 refine (drainLoop maxPayload).run_induction (P := fun buffer=>
  buffer=encodeFrames ((drainLoop maxPayload).run buffer).out ++ ((drainLoop maxPayload).run buffer).state ∧
   WithinLimit maxPayload ((drainLoop maxPayload).run buffer).out) ?_ ?_ buffer
 · intro buffer last out exit hb
   rw [(drainLoop maxPayload).run_done hb]
   obtain ⟨rfl,rfl⟩:=drainBody_done hb
   exact ⟨rfl,by simp [WithinLimit]⟩
 · intro buffer next out hb ih
   rw [(drainLoop maxPayload).run_again hb]
   obtain ⟨flags,b1,b2,b3,b4,rest,len,rfl,hheader,hmax,hlen,rfl,rfl⟩ :=
    drainBody_again hb
   refine ⟨?_,?_⟩
   · simp only [Finished.emitBefore_out,Finished.emitBefore_state,List.singleton_append,
      encodeFrames_cons,List.append_assoc]
     rw [← ih.1]
     exact split_frame hheader hlen
   · have h32:=(fromBeBytes b1 b2 b3 b4).toNat_lt
     rw [hheader] at h32
     intro frame hframe
     rcases List.mem_cons.mp hframe with rfl | hframe
     · simp only [List.length_take]
       omega
     · exact ih.2 frame hframe

theorem run_settled (buffer:List UInt8) :
  (drainLoop maxPayload).run ((drainLoop maxPayload).run buffer).state =
   ⟨((drainLoop maxPayload).run buffer).state,[],((drainLoop maxPayload).run buffer).exit⟩:=by
 obtain ⟨prior,out,hb⟩:=(drainLoop maxPayload).run_stopped buffer
 obtain ⟨hstate,rfl⟩:=drainBody_done hb
 rw [← hstate] at hb
 exact (drainLoop maxPayload).run_done hb

theorem run_oversized {buffer:List UInt8} (h:OversizedHeader maxPayload buffer) :
  ∃ error,(drainLoop maxPayload).run buffer=⟨buffer,[],some error⟩:=by
 obtain ⟨flags,b1,b2,b3,b4,rest,rfl,hmax⟩:=h
 refine ⟨.payloadTooLarge (fromBeBytes b1 b2 b3 b4).toNat maxPayload,(drainLoop maxPayload).run_done ?_⟩
 exact if_pos hmax

theorem oversized_of_exit {buffer:List UInt8} {error:ConnectError}
  (h:((drainLoop maxPayload).run buffer).exit=some error) :
  OversizedHeader maxPayload ((drainLoop maxPayload).run buffer).state:=by
 obtain ⟨prior,out,hb⟩:=(drainLoop maxPayload).run_stopped buffer
 rw [h] at hb
 rw [(drainBody_done hb).1]
 change drainBody maxPayload prior=_ at hb
 unfold drainBody at hb
 split at hb
 · rename_i flags b1 b2 b3 b4 rest
   dsimp only at hb
   split_ifs at hb with hmax hlen
   · exact ⟨flags,b1,b2,b3,b4,rest,rfl,hmax⟩
   · exact absurd hb (by simp)
 · exact absurd hb (by simp)

theorem OversizedHeader.append {buffer:List UInt8} (h:OversizedHeader maxPayload buffer)
  (chunk:List UInt8) : OversizedHeader maxPayload (buffer++chunk):=by
 obtain ⟨flags,b1,b2,b3,b4,rest,rfl,hmax⟩:=h
 exact ⟨flags,b1,b2,b3,b4,rest++chunk,rfl,hmax⟩

theorem exit_append {buffer:List UInt8} (h:((drainLoop maxPayload).run buffer).exit.isSome) (chunk:List UInt8) :
  ((drainLoop maxPayload).run (buffer++chunk)).exit.isSome ∧
   ((drainLoop maxPayload).run (buffer++chunk)).out = ((drainLoop maxPayload).run buffer).out:=by
 obtain ⟨error,herror⟩:=Option.isSome_iff_exists.mp h
 obtain ⟨error',hrun⟩:=run_oversized (OversizedHeader.append (oversized_of_exit herror) chunk)
 have hext:=(drainResumable maxPayload).run_extend buffer chunk
 change (drainLoop maxPayload).run (buffer++chunk)=_ at hext
 rw [hext]
 change ((drainLoop maxPayload).run (((drainLoop maxPayload).run buffer).state++chunk)).exit.isSome
  ∧ ((drainLoop maxPayload).run buffer).out ++
   ((drainLoop maxPayload).run (((drainLoop maxPayload).run buffer).state++chunk)).out=_
 rw [hrun]
 simp

theorem run_append (buffer chunk:List UInt8) :
  (drainLoop maxPayload).run (buffer++chunk) =
   ((drainLoop maxPayload).run (((drainLoop maxPayload).run buffer).state++chunk)).emitBefore
    ((drainLoop maxPayload).run buffer).out :=
 (drainResumable maxPayload).run_extend buffer chunk

theorem pushWithLimit_eq (decoder:ConnectFrameDecoder) (chunk:List UInt8) :
  decoder.pushWithLimit chunk maxPayload =
   (⟨((drainLoop maxPayload).run (decoder.buffer++chunk)).state⟩,
    match ((drainLoop maxPayload).run (decoder.buffer++chunk)).exit with
    | some error=>.error error
    | none=>.ok ((drainLoop maxPayload).run (decoder.buffer++chunk)).out):=by
 unfold ConnectFrameDecoder.pushWithLimit ConnectFrameDecoder.drain
 dsimp only
 cases ((drainLoop maxPayload).run (decoder.buffer++chunk)).exit with
 | some error=>rfl
 | none=>rfl

/-- A decoder between two pushes that has seen no error. -/
def Settled (maxPayload:ℕ) (decoder:ConnectFrameDecoder) : Prop :=
 (drainLoop maxPayload).run decoder.buffer=⟨decoder.buffer,[],none⟩

theorem settled_new (maxPayload:ℕ) : Settled maxPayload .new :=
 (drainLoop maxPayload).run_done rfl

theorem feedChunks_residual (decoder:ConnectFrameDecoder) (chunks:List (List UInt8))
  (h:((drainLoop maxPayload).run decoder.buffer).state=decoder.buffer) :
  (feedChunks maxPayload decoder chunks).residual =
   ((drainLoop maxPayload).run (decoder.buffer++chunks.flatten)).state:=by
 induction chunks generalizing decoder with
 | nil=>simpa [feedChunks] using h.symm
 | cons chunk chunks ih=>
  have hnext:=ih ⟨((drainLoop maxPayload).run (decoder.buffer++chunk)).state⟩ (by rw [run_settled])
  rw [List.flatten_cons,← List.append_assoc,run_append (decoder.buffer++chunk),
   Finished.emitBefore_state,← hnext,feedChunks,pushWithLimit_eq]
  cases ((drainLoop maxPayload).run (decoder.buffer++chunk)).exit <;> rfl

theorem feedChunks_failed (decoder:ConnectFrameDecoder) (chunks:List (List UInt8)) (h:Settled maxPayload decoder) :
  (feedChunks maxPayload decoder chunks).failed =
   ((drainLoop maxPayload).run (decoder.buffer++chunks.flatten)).exit.isSome:=by
 induction chunks generalizing decoder with
 | nil=>simp [feedChunks,show (drainLoop maxPayload).run decoder.buffer=_ from h]
 | cons chunk chunks ih=>
  rw [List.flatten_cons,← List.append_assoc,feedChunks,pushWithLimit_eq]
  cases hexit:((drainLoop maxPayload).run (decoder.buffer++chunk)).exit with
  | some error=>
   exact (exit_append (by rw [hexit]; rfl) chunks.flatten).1.symm
  | none=>
   rw [run_append (decoder.buffer++chunk) chunks.flatten,Finished.emitBefore_exit]
   exact ih ⟨((drainLoop maxPayload).run (decoder.buffer++chunk)).state⟩ (by rw [Settled,run_settled,hexit])

theorem feedChunks_frames_prefix (maxPayload:ℕ) (decoder:ConnectFrameDecoder) (chunks:List (List UInt8)) :
  (feedChunks maxPayload decoder chunks).frames <+:
   ((drainLoop maxPayload).run (decoder.buffer++chunks.flatten)).out:=by
 induction chunks generalizing decoder with
 | nil=>exact List.nil_prefix
 | cons chunk chunks ih=>
  rw [List.flatten_cons,← List.append_assoc,run_append (decoder.buffer++chunk),
   Finished.emitBefore_out,feedChunks,pushWithLimit_eq]
  cases ((drainLoop maxPayload).run (decoder.buffer++chunk)).exit with
  | some error=>exact List.nil_prefix
  | none=>exact (List.prefix_append_right_inj _).mpr (ih ⟨_⟩)

theorem feedChunks_frames (decoder:ConnectFrameDecoder) (chunks:List (List UInt8)) (h:Settled maxPayload decoder)
  (hexit:((drainLoop maxPayload).run (decoder.buffer++chunks.flatten)).exit=none) :
  (feedChunks maxPayload decoder chunks).frames =
   ((drainLoop maxPayload).run (decoder.buffer++chunks.flatten)).out:=by
 induction chunks generalizing decoder with
 | nil=>simp [feedChunks,show (drainLoop maxPayload).run decoder.buffer=_ from h]
 | cons chunk chunks ih=>
  rw [List.flatten_cons,← List.append_assoc] at hexit ⊢
  rw [feedChunks,pushWithLimit_eq]
  cases hfirst:((drainLoop maxPayload).run (decoder.buffer++chunk)).exit with
  | some error=>
   have hlater:=(exit_append (by rw [hfirst]; rfl) chunks.flatten).1
   rw [hexit] at hlater
   exact absurd hlater (by simp)
  | none=>
   rw [run_append (decoder.buffer++chunk) chunks.flatten,Finished.emitBefore_exit] at hexit
   rw [run_append (decoder.buffer++chunk) chunks.flatten,Finished.emitBefore_out]
   exact congrArg _ (ih ⟨((drainLoop maxPayload).run (decoder.buffer++chunk)).state⟩
    (by rw [Settled,run_settled,hfirst]) hexit)

theorem feedChunks_new (chunks:List (List UInt8)) :
  feedChunks maxPayload .new chunks =
   ⟨(feedChunks maxPayload .new chunks).frames,((drainLoop maxPayload).run chunks.flatten).exit.isSome,
    ((drainLoop maxPayload).run chunks.flatten).state⟩:=by
 have hfailed:=feedChunks_failed .new chunks (settled_new maxPayload)
 have hresidual:=feedChunks_residual .new chunks (congrArg Finished.state (settled_new maxPayload))
 exact FeedOutcome.ext rfl hfailed hresidual

theorem run_frames_before (frames:List ConnectFrame) {rest:List UInt8}
  (h:WithinLimit maxPayload frames) (hrest:OversizedHeader maxPayload rest) :
  ((drainLoop maxPayload).run (encodeFrames frames++rest)).out=frames ∧
   ((drainLoop maxPayload).run (encodeFrames frames++rest)).exit.isSome:=by
 obtain ⟨error,hrun⟩:=run_oversized hrest
 rw [run_encodeFrames frames rest h,hrun]
 simp [Finished.emitBefore]

theorem feedChunks_single_error {stream:List UInt8} (h:((drainLoop maxPayload).run stream).exit.isSome) :
  (feedChunks maxPayload .new [stream]).frames=[]:=by
 obtain ⟨error,herror⟩:=Option.isSome_iff_exists.mp h
 rw [feedChunks,pushWithLimit_eq]
 simp [ConnectFrameDecoder.new,herror]

/-- The decoder treats the chunks as it treats their concatenation, and every
complete frame in front of an oversized header is delivered. -/
def FramingIndependent (maxPayload:ℕ) (chunks:List (List UInt8)) : Prop :=
 feedChunks maxPayload .new chunks=feedChunks maxPayload .new [chunks.flatten] ∧
  ∀ frames rest,WithinLimit maxPayload frames → chunks.flatten=encodeFrames frames++rest →
   OversizedHeader maxPayload rest → (feedChunks maxPayload .new chunks).frames=frames

theorem framingIndependent_of_clean {chunks:List (List UInt8)}
  (h:((drainLoop maxPayload).run chunks.flatten).exit=none) : FramingIndependent maxPayload chunks:=by
 refine ⟨?_,?_⟩
 · have hcut:=feedChunks_frames .new chunks (settled_new maxPayload) h
   have hwhole:=feedChunks_frames .new [chunks.flatten] (settled_new maxPayload)
    (by simpa [ConnectFrameDecoder.new] using h)
   rw [feedChunks_new chunks,feedChunks_new [chunks.flatten],hcut,hwhole]
   simp
 · intro frames rest hframes hstream hrest
   have hexit:=(run_frames_before frames hframes hrest).2
   rw [← hstream,h] at hexit
   exact absurd hexit (by simp)

theorem framingIndependent_of_first {chunks:List (List UInt8)}
  (h:OversizedHeader maxPayload chunks.flatten) : FramingIndependent maxPayload chunks:=by
 have hnone:∀ pieces:List (List UInt8),pieces.flatten=chunks.flatten →
   (feedChunks maxPayload .new pieces).frames=[]:=by
  intro pieces hpieces
  have hprefix := feedChunks_frames_prefix maxPayload .new pieces
  obtain ⟨error,hrun⟩:=run_oversized h
  have hout:((drainLoop maxPayload).run (ConnectFrameDecoder.new.buffer++pieces.flatten)).out=[]:=by
   change ((drainLoop maxPayload).run pieces.flatten).out=[]
   rw [hpieces,hrun]
  rw [hout] at hprefix
  exact List.prefix_nil.mp hprefix
 refine ⟨?_,?_⟩
 · rw [feedChunks_new chunks,feedChunks_new [chunks.flatten],hnone chunks rfl,hnone [chunks.flatten] (by simp)]
   simp
 · intro frames rest hframes hstream hrest
   obtain ⟨error,hrun⟩:=run_oversized h
   have hout:=(run_frames_before frames hframes hrest).1
   rw [← hstream,hrun] at hout
   rw [hnone chunks rfl]
   exact hout

/-- Chunk boundaries matter exactly when a complete frame is followed by an
oversized header: the push that meets the header drops the frames it had
already split off. -/
theorem framingIndependent_iff (maxPayload:ℕ) (chunks:List (List UInt8)) :
    FramingIndependent maxPayload chunks ↔ ¬ FrameBeforeOversized maxPayload chunks.flatten:=by
  constructor
  · rintro ⟨hsame,hdelivered⟩ ⟨frames,rest,hne,hframes,hstream,hrest⟩
    have hexit:=(run_frames_before frames hframes hrest).2
    rw [← hstream] at hexit
    have hempty:=feedChunks_single_error hexit
    rw [← hsame,hdelivered frames rest hframes hstream hrest] at hempty
    exact hne hempty
  · intro hnone
    cases hexit:((drainLoop maxPayload).run chunks.flatten).exit with
    | none=>exact framingIndependent_of_clean hexit
    | some error=>
      obtain ⟨hstream,hframes⟩:=run_accounts maxPayload chunks.flatten
      have hrest:=oversized_of_exit hexit
      by_cases hout:((drainLoop maxPayload).run chunks.flatten).out=[]
      · rw [hout,encodeFrames_nil,List.nil_append] at hstream
        rw [← hstream] at hrest
        exact framingIndependent_of_first hrest
      · exact absurd ⟨_,_,hout,hframes,hstream,hrest⟩ hnone

/-- Under the production limit: the frame is delivered when a push ends between
it and the oversized header, and lost when both arrive in one push. -/
theorem framing_depends_on_chunks : ¬ FramingIndependent (64*1024*1024) [[0,0,0,0,2,111,107],[0,4,0,0,1]]:=by
  intro h
  exact absurd h.1 (by decide)

/-- Any cutting of encoded frames decodes to exactly those frames. -/
theorem feedChunks_encodeFrames (maxPayload:ℕ) (frames:List ConnectFrame)
    (chunks:List (List UInt8)) (hframes:WithinLimit maxPayload frames) (hchunks:chunks.flatten=encodeFrames frames) :
    feedChunks maxPayload .new chunks=⟨frames,false,[]⟩:=by
  have hrun:(drainLoop maxPayload).run chunks.flatten=⟨[],frames,none⟩:=by
    have hempty:(drainLoop maxPayload).run []=⟨[],[],none⟩ :=
      (drainLoop maxPayload).run_done rfl
    have hsplit:=run_encodeFrames frames [] hframes
    rw [List.append_nil,← hchunks,hempty] at hsplit
    simpa [Finished.emitBefore] using hsplit
  have hall:=feedChunks_frames .new chunks (settled_new maxPayload) (congrArg Finished.exit hrun)
  rw [feedChunks_new chunks,hall]
  change FeedOutcome.mk ((drainLoop maxPayload).run chunks.flatten).out _ _=_
  rw [hrun]
  rfl

/-- An empty frame and a frame cut inside its length, with an empty chunk. -/
theorem feedChunks_encodeFrames_split :
    feedChunks 16 .new [[2,0,0],[],[0,0,0,0,0],[0,2,111],[107]] = ⟨[⟨2,[]⟩,⟨0,[111,107]⟩],false,[]⟩ :=
  feedChunks_encodeFrames 16 [⟨2,[]⟩,⟨0,[111,107]⟩] _ (by decide) (by decide)

/-- In every cutting the delivered frames stand at the front of the stream in order, what is held
back is its unread end, and without an error nothing between them is missing. -/
theorem delivered_frames (maxPayload:ℕ) (chunks:List (List UInt8)) :
  ∃ frames,chunks.flatten=encodeFrames frames++(feedChunks maxPayload .new chunks).residual ∧
   WithinLimit maxPayload frames ∧ (feedChunks maxPayload .new chunks).frames <+: frames ∧
   ((feedChunks maxPayload .new chunks).failed=false → (feedChunks maxPayload .new chunks).frames=frames) ∧
   ((feedChunks maxPayload .new chunks).failed=true →
    OversizedHeader maxPayload (feedChunks maxPayload .new chunks).residual):=by
 obtain ⟨haccounts,hlimit⟩:=run_accounts maxPayload chunks.flatten
 have hfront:= feedChunks_frames_prefix maxPayload .new chunks
 have hresidual:=feedChunks_residual .new chunks (congrArg Finished.state (settled_new maxPayload))
 have hfailed:=feedChunks_failed .new chunks (settled_new maxPayload)
 refine ⟨((drainLoop maxPayload).run chunks.flatten).out,?_,hlimit,hfront,fun hok=>?_,fun herror=>?_⟩
 · rw [hresidual]
   exact haccounts
 · rw [hfailed] at hok
   exact feedChunks_frames .new chunks (settled_new maxPayload) (Option.isNone_iff_eq_none.mp (Option.isSome_eq_false_iff.mp hok))
 · rw [hfailed] at herror
   obtain ⟨error,herror⟩:=Option.isSome_iff_exists.mp herror
   rw [hresidual]
   exact oversized_of_exit herror

end CursorProxy.ConnectFraming
