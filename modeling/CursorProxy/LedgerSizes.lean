import CursorProxy.LedgerHistory

namespace CursorProxy.LedgerSizes
open LedgerModel LedgerRecords LedgerHistory

variable {env:LedgerEnv} {payload:RecordPayload}

theorem jsonNumberBytes_le {n:ℕ} (h:n ≤ u64Max) : jsonNumberBytes n ≤ 20:=by
 refine (Nat.length_toDigits_le_iff (by decide) (by decide)).mpr ?_
 unfold u64Max at h
 omega

theorem digit_bytes {n:ℕ} (h:n<16) : ((String.utf8EncodeChar (Nat.digitChar n)).map jsonByteBytes).sum=1:=by
 revert n
 decide

theorem hexByte_bytes (byte:UInt8) : (((hexByte byte).flatMap String.utf8EncodeChar).map jsonByteBytes).sum=2:=by
 have hbound:=byte.toNat_lt
 simp only [hexByte,List.flatMap_cons,List.flatMap_nil,List.append_nil,List.map_append,List.sum_append]
 rw [digit_bytes (by omega),digit_bytes (by omega)]

theorem hex_bytes (digest:Digest) : jsonStringBytes (hex digest)=66:=by
 have hsum:∀ bytes:List UInt8,
  (((bytes.flatMap hexByte).flatMap String.utf8EncodeChar).map jsonByteBytes).sum = 2*bytes.length:=by
  intro bytes
  induction bytes with
  | nil=>rfl
  | cons byte bytes ih=>
   rw [List.flatMap_cons,List.flatMap_append,List.map_append,List.sum_append,hexByte_bytes,ih,List.length_cons]
   omega
 have hencode:(hex digest).toByteArray.data.toList =
  (digest.toList.flatMap hexByte).flatMap String.utf8EncodeChar:=by
  unfold hex
  rw [String.toByteArray_ofList,List.utf8Encode,List.data_toByteArray]
 unfold jsonStringBytes
 rw [hencode,hsum,Vector.length_toList]

theorem storedBytes_sealRecord (payload:RecordPayload) :
 storedBytes (sealRecord env payload)=payloadBytes payload+102:=by
 unfold storedBytes sealRecord checksum
 rw [hex_bytes]
 simp only [jsonListBytes,jsonFieldBytes,List.sum_cons,List.sum_nil,List.length_cons,List.length_nil]
 have hversion:jsonNumberBytes recordVersion=1:=by decide
 have hnames : "version".utf8ByteSize=7 ∧ "payload".utf8ByteSize=7 ∧ "checksum".utf8ByteSize=8 := by decide
 omega

theorem completedBytes_pos (entry:CompletedOperation) : 20 ≤ completedBytes entry:=by
 simp only [completedBytes,jsonListBytes,jsonFieldBytes,List.sum_cons,List.sum_nil,List.length_cons,List.length_nil]
 have hnames : "fingerprint".utf8ByteSize=11 ∧ "completed_at_ms".utf8ByteSize=15:=by decide
 omega

theorem activeBytes_pos (active:ActiveOperation) : 24 ≤ activeBytes active:=by
 simp only [activeBytes,jsonListBytes,jsonFieldBytes,List.sum_cons,List.sum_nil,List.length_cons,List.length_nil]
 have hnames : "fingerprint".utf8ByteSize=11 ∧ "process_instance_id".utf8ByteSize=19:=by
  decide
 omega

theorem completed_sublist_bytes {kept completed:List CompletedOperation} (h:kept.Sublist completed) :
 jsonListBytes (kept.map completedBytes)+20*(completed.length-kept.length) ≤
  jsonListBytes (completed.map completedBytes):=by
 have hsum:(kept.map completedBytes).sum+20*(completed.length-kept.length) ≤ (completed.map completedBytes).sum:=by
  induction h with
  | slnil=>exact le_refl _
  | @cons kept completed entry h ih=>
   have hentry:=completedBytes_pos entry
   have hlength:=h.length_le
   simp only [List.map_cons,List.sum_cons,List.length_cons]
   omega
  | @cons_cons kept completed entry h ih=>
   simp only [List.map_cons,List.sum_cons,List.length_cons]
   omega
 have hlength:=h.length_le
 simp only [jsonListBytes,List.length_map]
 omega

theorem retainActive_bytes (processInstanceId:String) (nowMs:ℕ) (active:Option ActiveOperation) :
 retainActive processInstanceId nowMs active=active ∨
  jsonOptionBytes activeBytes (retainActive processInstanceId nowMs active)+20 ≤
   jsonOptionBytes activeBytes active:=by
 cases active with
 | none=>exact .inl rfl
 | some stage=>
  have hstage:=activeBytes_pos stage
  unfold retainActive
  dsimp only
  split_ifs
  · exact .inr (by simp only [jsonOptionBytes]; omega)
  · exact .inr (by simp only [jsonOptionBytes]; omega)
  · exact .inl rfl

theorem normalize_payloadBytes (env:LedgerEnv) (processInstanceId:String) {nowMs:ℕ}
 (hnow:nowMs ≤ u64Max) (payload:RecordPayload) :
 payloadBytes (normalize env processInstanceId nowMs payload).1 ≤ payloadBytes payload:=by
 unfold LedgerModel.normalize
 dsimp only
 split_ifs with hchanged
 · have hsublist:=retainCompleted_sublist env nowMs payload.completed
   have hcompleted:=completed_sublist_bytes hsublist
   have hactive:=retainActive_bytes processInstanceId nowMs payload.active
   have hstamp:=jsonNumberBytes_le hnow
   have hshorter:retainActive processInstanceId nowMs payload.active=payload.active →
    (retainCompleted env nowMs payload.completed).length<payload.completed.length:=by
    intro hsame
    refine lt_of_le_of_ne hsublist.length_le fun hlength=>hchanged ?_
    rw [hsame,hsublist.eq_of_length hlength]
   simp only [payloadBytes,jsonListBytes,jsonFieldBytes,List.sum_cons,List.sum_nil,
    List.length_cons,List.length_nil] at hcompleted ⊢
   rcases hactive with hsame | hless
   · have:=hshorter hsame
     rw [hsame]
     omega
   · omega
 · exact le_refl _

end CursorProxy.LedgerSizes
