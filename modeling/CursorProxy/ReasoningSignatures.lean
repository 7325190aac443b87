import CursorProxy.Base64Url
import CursorProxy.ToolNames

/-! A reasoning item of an upstream response travels through the history of a client as the
signature of a thinking block: its id in Base64, and its encrypted content behind a colon. -/
namespace CursorProxy.ReasoningSignatures
open ToolNames

structure ReasoningReplay where
 id : String
 encryptedContent : String
deriving DecidableEq

def signaturePrefix : String := "ccp:codex:v1:"
def maxIdBytes : ℕ := 4*1024
def maxEncryptedContentBytes : ℕ := 8*1024*1024

def encodedIdLenLimit : ℕ := (maxIdBytes+2) / 3*4

def maxPayloadLen : ℕ := encodedIdLenLimit+1+maxEncryptedContentBytes

/-- `len` of a part of a string. -/
def byteLength (text:List Char) : ℕ := (String.ofList text).utf8ByteSize

def encodeReasoningSignature (replay:ReasoningReplay) : Option String :=
 if replay.id = "" ∨ maxIdBytes<replay.id.utf8ByteSize ∨ replay.encryptedContent = "" ∨
   maxEncryptedContentBytes<replay.encryptedContent.utf8ByteSize then none
 else
  let encodedId:=Base64Url.encode replay.id.toUTF8.data.toList
  some (String.ofList (signaturePrefix.toList++(encodedId ++ ':' :: replay.encryptedContent.toList)))

/-- The bytes of an id that are not UTF-8 are refused. -/
def decodeReasoningSignature (signature:String) : Option ReasoningReplay :=
 (stripPrefix signaturePrefix.toList signature.toList).bind fun payload=>
  if payload=[] ∨ maxPayloadLen<byteLength payload then none
  else (splitOnce [':'] payload).bind fun (encodedId,encryptedContent)=>
   if encodedId=[] ∨ encodedIdLenLimit<byteLength encodedId ∨ encryptedContent=[] ∨
     maxEncryptedContentBytes<byteLength encryptedContent then none
   else (Base64Url.decode encodedId).bind fun id=>
    if id=[] ∨ maxIdBytes < id.length then none
    else (String.fromUTF8? ⟨id.toArray⟩).map fun id=>
     ⟨id,String.ofList encryptedContent⟩

theorem byteLength_append (text more:List Char) : byteLength (text++more)=byteLength text+byteLength more:=by
 unfold byteLength
 rw [String.ofList_append,String.utf8ByteSize_append]

theorem byteLength_toList (text:String) : byteLength text.toList=text.utf8ByteSize:=by
 unfold byteLength
 rw [String.ofList_toList]

theorem byteLength_colon : byteLength [':']=1 := by decide

theorem byteLength_ascii {text:List Char} (h:∀ char∈text,char.utf8Size=1) : byteLength text=text.length:=by
 induction text with
 | nil=>rfl
 | cons char rest ih=>
  have hrest:=ih fun other hmem=>h other (List.mem_cons_of_mem _ hmem)
  have hchar:byteLength [char]=1:=by
   unfold byteLength
   rw [← String.singleton_eq_ofList,String.utf8ByteSize_singleton]
   exact h char List.mem_cons_self
  rw [← List.singleton_append,byteLength_append,hrest,hchar,List.length_append]
  rfl

theorem byteLength_encode (bytes:List UInt8) : byteLength (Base64Url.encode bytes)=(4*bytes.length+2) / 3:=by
 rw [byteLength_ascii,Base64Url.length_encode]
 intro char hmem
 obtain ⟨digit,hlt,rfl⟩:=Base64Url.digit_of_mem hmem
 exact Base64Url.symbol_utf8Size hlt

def idBytes (id:String) : List UInt8 := id.toUTF8.data.toList

theorem length_idBytes (id:String) : (idBytes id).length=id.utf8ByteSize := rfl

theorem fromUTF8?_idBytes (id:String) : String.fromUTF8? ⟨(idBytes id).toArray⟩=some id:=by
 unfold idBytes String.fromUTF8?
 rw [Array.toArray_toList]
 exact dif_pos id.isValidUTF8

theorem of_fromUTF8? {bytes:List UInt8} {id:String}
  (h:String.fromUTF8? ⟨bytes.toArray⟩=some id) : idBytes id=bytes:=by
 unfold String.fromUTF8? at h
 split_ifs at h with hvalid
 obtain rfl:=Option.some.inj h
 rfl

theorem idBytes_eq_nil {id:String} : idBytes id=[] ↔ id = "" := by
 constructor
 · intro h
   have hread:=fromUTF8?_idBytes id
   rw [h] at hread
   exact (Option.some.inj (hread.symm.trans (fromUTF8?_idBytes "")))
 · rintro rfl
   rfl

/-- The limits of a replay that has a signature. -/
structure Admitted (replay:ReasoningReplay) : Prop where
 id : replay.id ≠ ""
 idBytes : replay.id.utf8ByteSize ≤ maxIdBytes
 content : replay.encryptedContent ≠ ""
 contentBytes : replay.encryptedContent.utf8ByteSize ≤ maxEncryptedContentBytes

def signatureOf (replay:ReasoningReplay) : String := String.ofList (signaturePrefix.toList ++
 (Base64Url.encode (idBytes replay.id) ++ ':' :: replay.encryptedContent.toList))

theorem encode_admitted {replay:ReasoningReplay} (h:Admitted replay) :
  encodeReasoningSignature replay=some (signatureOf replay):=by
 refine if_neg ?_
 rintro (hid | hlong | hcontent | hlong)
 · exact h.id hid
 · exact Nat.not_lt.mpr h.idBytes hlong
 · exact h.content hcontent
 · exact Nat.not_lt.mpr h.contentBytes hlong

theorem of_encode {replay:ReasoningReplay} {signature:String} (h:encodeReasoningSignature replay=some signature) :
  Admitted replay ∧ signature=signatureOf replay:=by
 unfold encodeReasoningSignature at h
 split_ifs at h with hrefused
 simp only [not_or,Nat.not_lt] at hrefused
 obtain ⟨hid,hidBytes,hcontent,hcontentBytes⟩:=hrefused
 exact ⟨⟨hid,hidBytes,hcontent,hcontentBytes⟩,(Option.some.inj h).symm⟩

theorem decode_signatureOf {replay:ReasoningReplay} (h:Admitted replay) :
  decodeReasoningSignature (signatureOf replay)=some replay:=by
 have hbytes:=h.idBytes
 have hcontentBytes:=h.contentBytes
 have hnonempty:idBytes replay.id≠[]:=fun hnil=>h.id (idBytes_eq_nil.mp hnil)
 have hlength:=byteLength_encode (idBytes replay.id)
 rw [length_idBytes] at hlength
 have hencoded:Base64Url.encode (idBytes replay.id)≠[]:=by
  intro hnil
  have hdecoded:=Base64Url.decode_encode (idBytes replay.id)
  rw [hnil] at hdecoded
  exact hnonempty (Option.some.inj hdecoded).symm
 have hcontent:replay.encryptedContent.toList≠[]:=fun hnil=>
  h.content (String.toList_eq_nil_iff.mp hnil)
 have hpayload:byteLength (Base64Url.encode (idBytes replay.id) ++
   ':' :: replay.encryptedContent.toList) ≤ maxPayloadLen:=by
  rw [← List.singleton_append (x := ':'),byteLength_append,byteLength_append,hlength,
   byteLength_colon,byteLength_toList]
  unfold maxPayloadLen encodedIdLenLimit
  unfold maxIdBytes at hbytes ⊢
  omega
 have hidLimit:byteLength (Base64Url.encode (idBytes replay.id)) ≤ encodedIdLenLimit:=by
  rw [hlength]
  unfold encodedIdLenLimit
  unfold maxIdBytes at hbytes ⊢
  omega
 unfold decodeReasoningSignature signatureOf
 rw [String.toList_ofList,stripPrefix_append,Option.bind_some,if_neg (by simp [hpayload]),
  splitOnce_single _ _ (Base64Url.colon_notMem_encode _),Option.bind_some]
 dsimp only
 rw [byteLength_toList,if_neg (by simp [hencoded,hidLimit,hcontent,hcontentBytes]),
  Base64Url.decode_encode,Option.bind_some,
  if_neg (by simp [hnonempty,length_idBytes,hbytes]),fromUTF8?_idBytes,
  Option.map_some,String.ofList_toList]

theorem of_decode {signature:String} {replay:ReasoningReplay} (h:decodeReasoningSignature signature=some replay) :
  Admitted replay ∧ signature=signatureOf replay:=by
 obtain ⟨payload,hpayload,h⟩:=Option.bind_eq_some_iff.mp h
 split_ifs at h with hpayloadBytes
 obtain ⟨⟨encodedId,content⟩,hsplit,h⟩:=Option.bind_eq_some_iff.mp h
 dsimp only at h
 split_ifs at h with hparts
 obtain ⟨bytes,hdecoded,h⟩:=Option.bind_eq_some_iff.mp h
 split_ifs at h with hid
 obtain ⟨id,hread,rfl⟩:=Option.map_eq_some_iff.mp h
 obtain ⟨rfl,-⟩:=of_splitOnce_single hsplit
 have hencode:=Base64Url.encode_of_decode hdecoded
 have hbytes:=of_fromUTF8? hread
 simp only [not_or,Nat.not_lt] at hparts hid
 obtain ⟨-,-,hcontent,hcontentBytes⟩:=hparts
 refine ⟨⟨?_,?_,?_,hcontentBytes⟩,?_⟩
 · rintro rfl
   exact hid.1 (hbytes.symm.trans (idBytes_eq_nil.mpr rfl))
 · rw [← length_idBytes,hbytes]
   exact hid.2
 · intro hempty
   exact hcontent (String.ofList_eq_empty_iff.mp hempty)
 · unfold signatureOf
   dsimp only
   rw [String.toList_ofList,hbytes,hencode,← of_stripPrefix hpayload,String.ofList_toList]

/-- A signature stands for one replay, and a replay has one signature. -/
theorem reasoning_signatures_roundTrip (replay:ReasoningReplay) (signature:String) :
    encodeReasoningSignature replay=some signature ↔ decodeReasoningSignature signature=some replay:=by
  constructor
  · intro h
    obtain ⟨hadmitted,rfl⟩:=of_encode h
    exact decode_signatureOf hadmitted
  · intro h
    obtain ⟨hadmitted,rfl⟩:=of_decode h
    exact encode_admitted hadmitted

end CursorProxy.ReasoningSignatures
