import Mathlib

/-! The alphabet for URLs. A byte sequence is written in digits of six bits; a decoder takes the
canonical texts only, in which the bits behind the last byte are zero. -/
namespace CursorProxy.Base64Url

def symbol (digit:ℕ) : Char :=
 if digit<26 then Char.ofNat (digit+65)
 else if digit<52 then Char.ofNat (digit+71)
 else if digit<62 then Char.ofNat (digit-4)
 else if digit=62 then '-'
 else '_'

def digitOf (char:Char) : Option ℕ :=
 let code:=char.toNat
 if 65 ≤ code ∧ code ≤ 90 then some (code-65)
 else if 97 ≤ code ∧ code ≤ 122 then some (code-71)
 else if 48 ≤ code ∧ code ≤ 57 then some (code+4)
 else if char = '-' then some 62
 else if char = '_' then some 63
 else none

def digitsOf : List Char → Option (List ℕ)
 | []=>some []
 | char::text=>(digitOf char).bind fun digit=>(digitsOf text).map (digit :: ·)

def digits : List ℕ → List ℕ
 | []=>[]
 | [a]=>[a / 4,a % 4*16]
 | [a,b]=>[a / 4,a % 4*16+b / 16,b % 16*4]
 | a::b::c::rest=>
  a / 4::(a % 4*16+b / 16)::(b % 16*4+c / 64)::c % 64::digits rest

def undigits : List ℕ → Option (List ℕ)
 | []=>some []
 | [_]=>none
 | [p,q]=>if q % 16=0 then some [p*4+q / 16] else none
 | [p,q,r]=>if r % 4=0 then some [p*4+q / 16,q % 16*16+r / 4] else none
 | p::q::r::s::rest=>(undigits rest).map fun bytes=>
  (p*4+q / 16)::(q % 16*16+r / 4)::(r % 4*64+s)::bytes

def encode (bytes:List UInt8) : List Char := (digits (bytes.map UInt8.toNat)).map symbol

def decode (text:List Char) : Option (List UInt8) :=
 (digitsOf text).bind fun digits=>(undigits digits).map (List.map UInt8.ofNat)

theorem digitOf_symbol {digit:ℕ} (h:digit<64) : digitOf (symbol digit)=some digit:=by
 have hall:∀ digit<64,digitOf (symbol digit)=some digit:=by decide +kernel
 exact hall digit h

theorem symbol_ne_colon {digit:ℕ} (h:digit<64) : symbol digit ≠ ':' := by
 have hall:∀ digit<64,symbol digit ≠ ':' := by decide +kernel
 exact hall digit h

theorem symbol_utf8Size {digit:ℕ} (h:digit<64) : (symbol digit).utf8Size=1:=by
 have hall:∀ digit<64,(symbol digit).utf8Size=1:=by decide +kernel
 exact hall digit h

theorem of_digitOf {char:Char} {digit:ℕ} (h:digitOf char=some digit) : digit<64 ∧ symbol digit=char:=by
 have hchar:=Char.ofNat_toNat char
 unfold digitOf at h
 dsimp only at h
 unfold symbol
 split_ifs at h with hupper hlower hnumber hminus hline
 · obtain rfl:=Option.some.inj h
   refine ⟨by omega,?_⟩
   rw [if_pos (by omega),Nat.sub_add_cancel hupper.1,hchar]
 · obtain rfl:=Option.some.inj h
   refine ⟨by omega,?_⟩
   rw [if_neg (by omega),if_pos (by omega),Nat.sub_add_cancel (by omega),hchar]
 · obtain rfl:=Option.some.inj h
   refine ⟨by omega,?_⟩
   rw [if_neg (by omega),if_neg (by omega),if_pos (by omega),Nat.add_sub_cancel,hchar]
 · obtain rfl:=Option.some.inj h
   exact ⟨by omega,hminus.symm⟩
 · obtain rfl:=Option.some.inj h
   exact ⟨by omega,hline.symm⟩

theorem digitsOf_map_symbol {digits:List ℕ} (h:∀ digit∈digits,digit<64) : digitsOf (digits.map symbol)=some digits:=by
 induction digits with
 | nil=>rfl
 | cons digit digits ih=>
  have hrest:=ih fun other hmem=>h other (List.mem_cons_of_mem _ hmem)
  rw [List.map_cons,digitsOf,digitOf_symbol (h digit List.mem_cons_self),hrest]
  rfl

theorem of_digitsOf {text:List Char} : ∀ {digits:List ℕ},digitsOf text=some digits →
 (∀ digit∈digits,digit<64) ∧ digits.map symbol=text:=by
 induction text with
 | nil=>
  intro digits h
  obtain rfl:=Option.some.inj h
  exact ⟨nofun,rfl⟩
 | cons char text ih=>
  intro digits h
  obtain ⟨digit,hdigit,hmap⟩:=Option.bind_eq_some_iff.mp h
  obtain ⟨rest,hrest,rfl⟩:=Option.map_eq_some_iff.mp hmap
  obtain ⟨hlt,hsymbol⟩:=of_digitOf hdigit
  obtain ⟨hlts,hsymbols⟩:=ih hrest
  refine ⟨fun other hmem=>?_,?_⟩
  · rcases List.mem_cons.mp hmem with rfl | hmem
    · exact hlt
    · exact hlts other hmem
  · rw [List.map_cons,hsymbol,hsymbols]

theorem digits_lt (bytes:List ℕ) (h:∀ byte∈bytes,byte<256) : ∀ digit∈digits bytes,digit<64:=by
 induction bytes using digits.induct with
 | case1=>exact nofun
 | case2 a=>
  have ha:=h a (by simp)
  simp only [digits,List.forall_mem_cons]
  exact ⟨by omega,by omega,nofun⟩
 | case3 a b=>
  have ha:=h a (by simp)
  have hb:=h b (by simp)
  simp only [digits,List.forall_mem_cons]
  exact ⟨by omega,by omega,by omega,nofun⟩
 | case4 a b c rest ih=>
  have ha:=h a (by simp)
  have hb:=h b (by simp)
  have hc:=h c (by simp)
  simp only [digits,List.forall_mem_cons]
  exact ⟨by omega,by omega,by omega,by omega,ih fun byte hmem=>h byte (by simp [hmem])⟩

theorem undigits_digits (bytes:List ℕ) (h:∀ byte∈bytes,byte<256) : undigits (digits bytes)=some bytes:=by
 induction bytes using digits.induct with
 | case1=>rfl
 | case2 a=>
  have ha:=h a (by simp)
  rw [digits,undigits,if_pos (by omega)]
  congr 2
  omega
 | case3 a b=>
  have ha:=h a (by simp)
  have hb:=h b (by simp)
  rw [digits,undigits,if_pos (by omega)]
  congr 3 <;> omega
 | case4 a b c rest ih=>
  have ha:=h a (by simp)
  have hb:=h b (by simp)
  have hc:=h c (by simp)
  rw [digits,undigits,ih fun byte hmem=>h byte (by simp [hmem]),Option.map_some]
  congr 4 <;> omega

theorem of_undigits (ds:List ℕ) (h:∀ digit∈ds,digit<64) : ∀ {bytes:List ℕ},
 undigits ds=some bytes → (∀ byte∈bytes,byte<256) ∧ digits bytes=ds:=by
 induction ds using undigits.induct with
 | case1=>
  intro bytes hread
  obtain rfl:=Option.some.inj hread
  exact ⟨nofun,rfl⟩
 | case2 digit=>exact nofun
 | case3 p q hzero=>
  intro bytes hread
  have hp:=h p (by simp)
  have hq:=h q (by simp)
  rw [undigits,if_pos hzero] at hread
  obtain rfl:=Option.some.inj hread
  simp only [List.forall_mem_cons]
  refine ⟨⟨by omega,nofun⟩,?_⟩
  rw [digits]
  congr 2 <;> omega
 | case4 p q hzero=>
  intro bytes hread
  rw [undigits,if_neg hzero] at hread
  exact (nomatch hread)
 | case5 p q r hzero=>
  intro bytes hread
  have hp:=h p (by simp)
  have hq:=h q (by simp)
  have hr:=h r (by simp)
  rw [undigits,if_pos hzero] at hread
  obtain rfl:=Option.some.inj hread
  simp only [List.forall_mem_cons]
  refine ⟨⟨by omega,by omega,nofun⟩,?_⟩
  rw [digits]
  congr 3 <;> omega
 | case6 p q r hzero=>
  intro bytes hread
  rw [undigits,if_neg hzero] at hread
  exact (nomatch hread)
 | case7 p q r s rest ih=>
  intro bytes hread
  have hp:=h p (by simp)
  have hq:=h q (by simp)
  have hr:=h r (by simp)
  have hs:=h s (by simp)
  obtain ⟨more,hmore,rfl⟩:=Option.map_eq_some_iff.mp hread
  obtain ⟨hlts,hdigits⟩:=ih (fun digit hmem=>h digit (by simp [hmem])) hmore
  simp only [List.forall_mem_cons]
  refine ⟨⟨by omega,by omega,by omega,hlts⟩,?_⟩
  rw [digits,hdigits]
  congr 4 <;> omega

theorem length_digits (bytes:List ℕ) : (digits bytes).length=(4*bytes.length+2) / 3:=by
 induction bytes using digits.induct with
 | case1=>rfl
 | case2 a=>simp [digits]
 | case3 a b=>simp [digits]
 | case4 a b c rest ih=>
  simp only [digits,List.length_cons,ih]
  omega

theorem toNat_lt (bytes:List UInt8) : ∀ byte∈bytes.map UInt8.toNat,byte<256:=by
 intro byte hmem
 obtain ⟨byte,-,rfl⟩:=List.mem_map.mp hmem
 exact byte.toNat_lt

theorem digit_of_mem {bytes:List UInt8} {char:Char} (h:char∈encode bytes) : ∃ digit<64,symbol digit=char:=by
 obtain ⟨digit,hmem,hsymbol⟩:=List.mem_map.mp h
 exact ⟨digit,digits_lt _ (toNat_lt bytes) digit hmem,hsymbol⟩

theorem colon_notMem_encode (bytes:List UInt8) : ':' ∉ encode bytes:=by
 intro hmem
 obtain ⟨digit,hlt,hsymbol⟩:=digit_of_mem hmem
 exact symbol_ne_colon hlt hsymbol

theorem length_encode (bytes:List UInt8) : (encode bytes).length=(4*bytes.length+2) / 3:=by
 unfold encode
 rw [List.length_map,length_digits,List.length_map]

theorem decode_encode (bytes:List UInt8) : decode (encode bytes)=some bytes:=by
 have hlt:=toNat_lt bytes
 unfold decode encode
 rw [digitsOf_map_symbol (digits_lt _ hlt),Option.bind_some,undigits_digits _ hlt,Option.map_some,List.map_map]
 refine congrArg some ((List.map_congr_left fun byte _=>?_).trans (List.map_id _))
 exact UInt8.ofNat_toNat

theorem encode_of_decode {text:List Char} {bytes:List UInt8} (h:decode text=some bytes) : encode bytes=text:=by
 obtain ⟨ds,hdigits,hmap⟩:=Option.bind_eq_some_iff.mp h
 obtain ⟨read,hread,rfl⟩:=Option.map_eq_some_iff.mp hmap
 obtain ⟨hlt,hsymbols⟩:=of_digitsOf hdigits
 obtain ⟨hbytes,rfl⟩:=of_undigits ds hlt hread
 have hsame:(read.map UInt8.ofNat).map UInt8.toNat=read:=by
  rw [List.map_map]
  refine (List.map_congr_left fun byte hmem=>?_).trans (List.map_id _)
  exact UInt8.toNat_ofNat_of_lt' (hbytes byte hmem)
 unfold encode
 rw [hsame,hsymbols]

end CursorProxy.Base64Url
