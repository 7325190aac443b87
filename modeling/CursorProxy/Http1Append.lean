import CursorProxy.ClientInputSteps
import CursorProxy.ConnectFrames

/-! Client messages of the HTTP/1 transport are appended in hexadecimal, one call each. -/
namespace CursorProxy.Http1Append
open ClientInputs ConnectFrames JsonValues McpArgValues SseEvents XmlElements

inductive ClientField where
 | runRequest | execClientMessage | kvClientMessage | conversationAction
 | execClientControlMessage | interactionResponse | clientHeartbeat | prewarmRequest

def ClientField.tag : ClientField → UInt8
 | runRequest=>1
 | execClientMessage=>2
 | kvClientMessage=>3
 | conversationAction=>4
 | execClientControlMessage=>5
 | interactionResponse=>6
 | clientHeartbeat=>7
 | prewarmRequest=>8

/-- At most one field is set. Its message is given encoded. -/
structure AgentClientMessage where
 message : Option (ClientField×List UInt8)

/-- A message field has wire type 2. -/
def AgentClientMessage.encode (msg:AgentClientMessage) : List UInt8 :=
 match msg.message with
 | none=>[]
 | some (field,body)=>encodeBytes (field.tag*8+2) body

def hexEncode (bytes:List UInt8) : Text :=
 bytes.flatMap fun byte=>[Nat.digitChar (byte.toNat / 16),Nat.digitChar (byte.toNat % 16)]

def fromHex (b:UInt8) : Except String UInt8 :=
 if 48 ≤ b ∧ b ≤ 57 then .ok (b-48)
 else if 97 ≤ b ∧ b ≤ 102 then .ok (b-97+10)
 else if 65 ≤ b ∧ b ≤ 70 then .ok (b-65+10)
 else .error ("invalid hex digit "++(Char.ofNat b.toNat).toString)

def decodePairs : List UInt8 → Except String (List UInt8)
 | high::low::bytes=>
  (fromHex high).bind fun high=>(fromHex low).bind fun low=>
   (decodePairs bytes).map ((high <<< 4 ||| low) :: ·)
 | _=>.ok []

def hexDecode (hex:Text) : Except String (List UInt8) :=
 let bytes:=bytesOf (trim hex)
 if bytes.length % 2≠0 then .error "odd hex length" else decodePairs bytes

def stripConnectFrame : List UInt8 → Option (List UInt8)
 | _::b1::b2::b3::b4::payload=>
  if payload.length=(fromBeBytes b1 b2 b3 b4).toNat then some payload else none
 | _=>none

/-- The body of a call. -/
def appendRaw (requestId:String) (seq:ℤ) (payload:List UInt8) : JsonValue :=
 .object [("data",.string (String.ofList (hexEncode payload))),("requestId",.object [("requestId",.string requestId)]),
  ("appendSeqno",.string (toString seq))]

def appendConnectOrRaw (requestId:String) (seq:ℤ) (frameOrRaw:List UInt8) : JsonValue :=
 appendRaw requestId seq ((stripConnectFrame frameOrRaw).getD frameOrRaw)

def sentData (body:JsonValue) : Option Text :=
 ((body.get "data").bind JsonValue.asStr).map String.toList

theorem strip_encodeConnectFrame {payload:List UInt8} (flags:UInt8) (h:payload.length<2 ^ 32) :
  stripConnectFrame (encodeConnectFrame payload flags)=some payload:=by
 obtain ⟨b1,b2,b3,b4,hto,hfrom⟩:=fromBeBytes_toBeBytes (UInt32.ofNat payload.length)
 rw [encodeConnectFrame,hto]
 refine if_pos ?_
 rw [hfrom,UInt32.toNat_ofNat',Nat.mod_eq_of_lt h]
 rfl

/-- A length that is not zero does not begin with the byte 0. -/
theorem encodeVarint_head {n:ℕ} (h:n≠0) : ∃ head tail,encodeVarint n=head::tail ∧ head.toNat≠0:=by
 rw [encodeVarint]
 split_ifs with hsmall
 · refine ⟨_,_,rfl,?_⟩
   rw [UInt8.toNat_ofNat']
   omega
 · refine ⟨_,_,rfl,?_⟩
   rw [UInt8.toNat_ofNat']
   omega

/-- The second byte of an encoding would be the first of a length of 2 ^ 24 or more. -/
theorem strip_encode {msg:AgentClientMessage} (h:msg.encode.length<2 ^ 24) : stripConnectFrame msg.encode=none:=by
 obtain ⟨_ | ⟨field,body⟩⟩:=msg
 · rfl
 · unfold AgentClientMessage.encode encodeBytes at h ⊢
   dsimp only at h ⊢
   by_cases hempty:body.length=0
   · rw [List.length_eq_zero_iff.mp hempty,List.length_nil,encodeVarint,if_pos (by decide)]
     rfl
   · obtain ⟨head,tail,hvarint,hhead⟩:=encodeVarint_head hempty
     rw [hvarint,List.cons_append] at h ⊢
     generalize tail++body=rest at h ⊢
     unfold stripConnectFrame
     split
     · rename_i b1 b2 b3 b4 payload hbytes
       obtain ⟨-,hbytes⟩:=List.cons.inj hbytes
       obtain ⟨rfl,rfl⟩:=List.cons.inj hbytes
       refine if_neg fun hlength=>?_
       have hbound:=head.toNat_lt
       have h2:=b2.toNat_lt
       have h3:=b3.toNat_lt
       have h4:=b4.toNat_lt
       rw [fromBeBytes,UInt32.toNat_ofNat'] at hlength
       simp only [List.length_cons] at h
       omega
     · rfl

theorem fromHex_digit {n:ℕ} (h:n<16) : ∃ byte,bytesOf [Nat.digitChar n]=[byte] ∧
  fromHex byte=.ok (UInt8.ofNat n) ∧ isWhitespace (Nat.digitChar n)=false:=by
 interval_cases n <;> exact ⟨_,rfl,rfl,rfl⟩

/-- Two digits make a byte. -/
theorem joined_digits (byte:UInt8) : UInt8.ofNat (byte.toNat / 16) <<< 4 ||| UInt8.ofNat (byte.toNat % 16)=byte:=by
 have hall:∀ n<256,UInt8.ofNat (n / 16) <<< 4 ||| UInt8.ofNat (n % 16)=UInt8.ofNat n:=by
  decide +kernel
 exact (hall _ byte.toNat_lt).trans UInt8.ofNat_toNat

theorem hexDecode_hexEncode (bytes:List UInt8) : hexDecode (hexEncode bytes)=.ok bytes:=by
 have hdigit:∀ byte:UInt8,byte.toNat / 16<16 ∧ byte.toNat % 16<16:=fun byte=>by
  have hbyte:=byte.toNat_lt
  omega
 have hsolid:∀ char∈hexEncode bytes,isWhitespace char=false:=by
  intro char hchar
  obtain ⟨byte,-,hmem⟩:=List.mem_flatMap.mp hchar
  obtain ⟨_,-,-,hhigh⟩:=fromHex_digit (hdigit byte).1
  obtain ⟨_,-,-,hlow⟩:=fromHex_digit (hdigit byte).2
  rcases List.mem_cons.mp hmem with rfl | hmem
  · exact hhigh
  · exact List.mem_singleton.mp hmem ▸ hlow
 have hpairs:(bytesOf (hexEncode bytes)).length % 2=0 ∧ decodePairs (bytesOf (hexEncode bytes))=.ok bytes:=by
  clear hsolid
  induction bytes with
  | nil=>exact ⟨rfl,rfl⟩
  | cons byte bytes ih=>
   obtain ⟨high,hhigh,hhigh',-⟩:=fromHex_digit (hdigit byte).1
   obtain ⟨low,hlow,hlow',-⟩:=fromHex_digit (hdigit byte).2
   have hcons:bytesOf (hexEncode (byte::bytes))=high::low::bytesOf (hexEncode bytes):=by
    change bytesOf ([_]++([_]++hexEncode bytes))=_
    rw [bytesOf_append,bytesOf_append,hhigh,hlow]
    rfl
   rw [hcons,decodePairs,hhigh',hlow',ih.2]
   refine ⟨by rw [List.length_cons,List.length_cons]; omega,?_⟩
   exact congrArg (fun byte=>Except.ok (byte::bytes)) (joined_digits byte)
 unfold hexDecode
 rw [trim_solid hsolid]
 dsimp only
 rw [if_neg (not_not_intro hpairs.1),hpairs.2]

theorem append_survives (msg:AgentClientMessage) (h:msg.encode.length<2 ^ 24) (requestId:String) (seq:ℤ) (flags:UInt8) :
    stripConnectFrame msg.encode=none ∧
      appendConnectOrRaw requestId seq (encodeConnectFrame msg.encode flags) =
        appendConnectOrRaw requestId seq msg.encode ∧
      (sentData (appendConnectOrRaw requestId seq msg.encode)).map hexDecode = some (.ok msg.encode):=by
  have hraw:=strip_encode h
  refine ⟨hraw,?_,?_⟩
  · unfold appendConnectOrRaw
    rw [strip_encodeConnectFrame flags (h.trans (by decide)),hraw]
    rfl
  · unfold appendConnectOrRaw
    rw [hraw]
    change (some (String.ofList (hexEncode msg.encode)).toList).map hexDecode=_
    rw [String.toList_ofList]
    exact congrArg some (hexDecode_hexEncode _)

def heartbeat : AgentClientMessage := ⟨some (.clientHeartbeat,[])⟩

theorem append_survives_heartbeat : stripConnectFrame heartbeat.encode=none ∧
      appendConnectOrRaw "run" 0 (encodeConnectFrame heartbeat.encode 0) = appendConnectOrRaw "run" 0 heartbeat.encode ∧
      (sentData (appendConnectOrRaw "run" 0 heartbeat.encode)).map hexDecode = some (.ok heartbeat.encode) :=
  append_survives heartbeat (by
    change (_::(encodeVarint 0++[])).length<_
    rw [encodeVarint,if_pos (by decide)]
    decide) "run" 0 0

end CursorProxy.Http1Append
