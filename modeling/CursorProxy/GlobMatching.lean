import CursorProxy.RouteEdits

/-! The declarative reading of a glob, and the texts for which the scan agrees with it. -/
namespace CursorProxy.GlobMatching
open ModelRoutes SseEvents XmlElements

section
variable {α:Type*} [DecidableEq α] {star any symbol:α} {lit pattern text rest:List α}

/-- The text is cut into a piece for each element of the pattern: any sequence for a star, and
one element, which is the same unless anything will do, for each other. -/
def Cut (star any:α) : List α → List α → Prop
 | [],text=>text=[]
 | symbol::pattern,text=>
  if symbol=star then ∃ rest,rest <:+ text ∧ Cut star any pattern rest
  else ∃ first rest,text=first::rest ∧ (symbol=any ∨ symbol=first) ∧
   Cut star any pattern rest

theorem cut_star : Cut star any (star::pattern) text ↔ ∃ rest,rest <:+ text ∧ Cut star any pattern rest:=by
 rw [Cut,if_pos rfl]

theorem cut_cons (h:symbol≠star) : Cut star any (symbol::pattern) text ↔
  ∃ first rest,text=first::rest ∧ (symbol=any ∨ symbol=first) ∧ Cut star any pattern rest:=by
 rw [Cut,if_neg h]

theorem Cut.absorb (h:Cut star any (star::pattern) rest) (hrest:rest <:+ text) : Cut star any (star::pattern) text:=by
 obtain ⟨last,hlast,hcut⟩:=cut_star.mp h
 exact cut_star.mpr ⟨last,hlast.trans hrest,hcut⟩

theorem Cut.behind (hlit:star ∉ lit) (h:Cut star any (lit++pattern) text) :
  lit.length ≤ text.length ∧ Cut star any pattern (text.drop lit.length):=by
 induction lit generalizing text with
 | nil=>exact ⟨Nat.zero_le _,h⟩
 | cons symbol lit ih=>
  obtain ⟨hne,hlit⟩:=not_or.mp (List.mem_cons.not.mp hlit)
  obtain ⟨first,rest,rfl,-,hcut⟩:=(cut_cons (Ne.symm hne)).mp h
  obtain ⟨hlength,hcut⟩:=ih hlit hcut
  exact ⟨Nat.succ_le_succ hlength,hcut⟩

theorem cut_literal (hlit:∀ symbol∈lit,symbol≠star ∧ symbol≠any) :
  Cut star any (lit++pattern) text ↔ ∃ rest,text=lit++rest ∧ Cut star any pattern rest:=by
 induction lit generalizing text with
 | nil=>exact ⟨fun h=>⟨text,rfl,h⟩,fun ⟨_,heq,h⟩=>heq ▸ h⟩
 | cons symbol lit ih=>
  obtain ⟨hstar,hany⟩:=hlit symbol List.mem_cons_self
  rw [List.cons_append,cut_cons hstar]
  constructor
  · rintro ⟨first,rest,rfl,hsame,hcut⟩
    obtain rfl:=hsame.resolve_left hany
    obtain ⟨last,rfl,hlast⟩ :=
     (ih fun other hmem=>hlit other (List.mem_cons_of_mem _ hmem)).mp hcut
    exact ⟨last,rfl,hlast⟩
  · rintro ⟨rest,rfl,hcut⟩
    exact ⟨symbol,lit++rest,rfl,Or.inr rfl,
     (ih fun other hmem=>hlit other (List.mem_cons_of_mem _ hmem)).mpr ⟨rest,rfl,hcut⟩⟩

theorem cut_nil : Cut star any pattern [] ↔ ∀ symbol∈pattern,symbol=star:=by
 induction pattern with
 | nil=>simp [Cut]
 | cons symbol pattern ih=>
  rw [List.forall_mem_cons,← ih]
  by_cases hstar:symbol=star
  · rw [hstar,cut_star]
    simp
  · rw [cut_cons hstar]
    simp [hstar]

end

/-! The scan -/

variable {pattern text:List UInt8} {saved:Option (List UInt8×List UInt8)}

/-- The last star takes more of the text than it has. -/
def Later : Option (List UInt8×List UInt8) → Prop
 | none=>False
 | some (pattern,text)=>∃ rest,rest <:+ text ∧ rest≠text ∧ Cut 42 63 pattern rest

/-- What was read since the last star has no star, and the text behind it has none. -/
def Behind (pattern text:List UInt8) : Option (List UInt8×List UInt8) → Prop
 | none=>True
 | some (before,whole)=>42 ∉ whole ∧ ∃ lit,42 ∉ lit ∧ before=lit++pattern ∧
   lit.length ≤ whole.length ∧ whole.drop lit.length=text

theorem later_cons {byte:UInt8} :
  Later (some (pattern,byte::text)) ↔ Cut 42 63 pattern text ∨ Later (some (pattern,text)):=by
 constructor
 · rintro ⟨rest,hrest,hne,hcut⟩
   rcases List.suffix_cons_iff.mp hrest with heq | hrest
   · exact absurd heq hne
   · by_cases hsame:rest=text
     · exact Or.inl (hsame ▸ hcut)
     · exact Or.inr ⟨rest,hrest,hsame,hcut⟩
 · rintro (hcut | ⟨rest,hrest,-,hcut⟩)
   · exact ⟨text,List.suffix_cons _ _,by simp,hcut⟩
   · refine ⟨rest,hrest.trans (List.suffix_cons _ _),fun heq=>?_,hcut⟩
     have hlength:=hrest.length_le
     rw [heq,List.length_cons] at hlength
     omega

theorem Behind.later (h:Behind pattern text saved) (hlater:Later saved) :
  ∃ rest,rest <:+ text ∧ rest.length<text.length ∧ Cut 42 63 pattern rest:=by
 cases saved with
 | none=>exact hlater.elim
 | some s=>
  obtain ⟨before,whole⟩:=s
  obtain ⟨-,lit,hlit,rfl,hlength,rfl⟩:=h
  obtain ⟨rest,⟨front,rfl⟩,hne,hcut⟩:=hlater
  obtain ⟨hle,hcut⟩:=hcut.behind hlit
  have hfront:front≠[]:=fun hnil=>hne (by rw [hnil]; rfl)
  have hpos:=List.length_pos_iff.mpr hfront
  refine ⟨rest.drop lit.length,?_,?_,hcut⟩
  · have hdrop:rest.drop lit.length=((front++rest).drop lit.length).drop front.length:=by
     rw [List.drop_drop,Nat.add_comm,← List.drop_drop,List.drop_left]
    exact hdrop ▸ List.drop_suffix _ _
  · rw [List.length_drop,List.length_drop,List.length_append]
    omega

theorem Behind.cons {symbol byte:UInt8} (h:Behind (symbol::pattern) (byte::text) saved)
  (hsymbol:symbol≠42) : Behind pattern text saved:=by
 cases saved with
 | none=>trivial
 | some s=>
  obtain ⟨before,whole⟩:=s
  obtain ⟨hwhole,lit,hlit,rfl,hlength,hdrop⟩:=h
  have hsize:=congrArg List.length hdrop
  rw [List.length_drop,List.length_cons] at hsize
  refine ⟨hwhole,lit++[symbol],?_,by simp,?_,?_⟩
  · simpa [hlit] using hsymbol.symm
  · rw [List.length_append,List.length_singleton]
    omega
  · rw [List.length_append,← List.drop_drop,hdrop]
    rfl

theorem later_stuck (h:∀ pattern byte text,saved=some (pattern,byte::text) → False) : ¬ Later saved:=by
 rcases saved with _ | ⟨pattern,_ | ⟨byte,text⟩⟩
 · exact id
 · rintro ⟨rest,hrest,hne,-⟩
   exact hne (List.suffix_nil.mp hrest)
 · exact (h _ _ _ rfl).elim

theorem Behind.restart {before whole:List UInt8} {first:UInt8} (h:Behind pattern text (some (before,first::whole))) :
  Behind before whole (some (before,whole)) :=
 ⟨fun hmem=>h.1 (List.mem_cons_of_mem _ hmem),[],List.not_mem_nil,rfl,Nat.zero_le _,rfl⟩

/-- Where no star of the pattern meets one of the text, the last star is the only one to be
tried again. -/
theorem globLoop_iff (hstar:42∈pattern → 42 ∉ text) (h:Behind pattern text saved) :
  globLoop pattern text saved=true ↔ Cut 42 63 pattern text ∨ Later saved:=by
 fun_induction globLoop pattern text saved with
 | case1 saved pattern=>
  rw [cut_nil,List.all_eq_true]
  constructor
  · exact fun hall=>Or.inl fun symbol hmem=>of_decide_eq_true (hall symbol hmem)
  · rintro (hall | hlater)
    · exact fun symbol hmem=>decide_eq_true (hall symbol hmem)
    · obtain ⟨_,-,hless,-⟩:=h.later hlater
      exact absurd hless (Nat.not_lt_zero _)
 | case2 saved byte text symbol pattern hsame ih=>
  have hsymbol:symbol≠42:=by
   rintro rfl
   rcases hsame with hany | rfl
   · exact absurd hany (by decide)
   · exact hstar List.mem_cons_self List.mem_cons_self
  rw [ih (fun hmem hbyte=>hstar (List.mem_cons_of_mem _ hmem) (List.mem_cons_of_mem _ hbyte))
   (h.cons hsymbol),cut_cons hsymbol]
  refine or_congr_left ⟨fun hcut=>⟨byte,text,rfl,hsame,hcut⟩,?_⟩
  rintro ⟨_,_,heq,-,hcut⟩
  obtain ⟨rfl,rfl⟩:=List.cons.inj heq
  exact hcut
 | case3 saved byte text pattern hsame ih=>
  have htext:=hstar List.mem_cons_self
  have hnew:Behind pattern (byte::text) (some (pattern,byte::text)) :=
   ⟨htext,[],List.not_mem_nil,rfl,Nat.zero_le _,rfl⟩
  rw [ih (fun _=>htext) hnew,cut_star]
  constructor
  · rintro (hcut | ⟨rest,hrest,-,hcut⟩)
    · exact Or.inl ⟨_,List.suffix_rfl,hcut⟩
    · exact Or.inl ⟨rest,hrest,hcut⟩
  · intro hcut
    have hsome:∃ rest,rest <:+ byte::text ∧ Cut 42 63 pattern rest:=by
     rcases hcut with hcut | hlater
     · exact hcut
     · obtain ⟨rest,hrest,-,hcut⟩:=h.later hlater
       exact cut_star.mp (hcut.absorb hrest)
    obtain ⟨rest,hrest,hcut⟩:=hsome
    by_cases hwhole:rest=byte::text
    · exact Or.inl (hwhole ▸ hcut)
    · exact Or.inr ⟨rest,hrest,hwhole,hcut⟩
 | case4 byte text symbol pattern hdiffer hnot before first whole ih=>
  rw [ih (fun _ hmem=>h.1 (List.mem_cons_of_mem _ hmem)) (h.restart),later_cons,
   cut_cons hnot]
  refine (or_iff_right ?_).symm
  rintro ⟨_,_,heq,hsame,-⟩
  obtain ⟨rfl,-⟩:=List.cons.inj heq
  exact hdiffer hsame
 | case5 saved byte text symbol pattern hdiffer hnot hstuck=>
  rw [cut_cons hnot]
  refine iff_of_false Bool.false_ne_true ?_
  rintro (⟨_,_,heq,hsame,-⟩ | hlater)
  · obtain ⟨rfl,-⟩:=List.cons.inj heq
    exact hdiffer hsame
  · exact later_stuck hstuck hlater
 | case6 byte text before first whole ih=>
  rw [ih (fun _ hmem=>h.1 (List.mem_cons_of_mem _ hmem)) h.restart,later_cons]
  exact (or_iff_right (List.cons_ne_nil _ _)).symm
 | case7 saved byte text hstuck=>
  exact iff_of_false Bool.false_ne_true (not_or.mpr ⟨List.cons_ne_nil _ _,later_stuck hstuck⟩)

/-! Bytes and characters -/

theorem utf8_shape (char:Char) : ∃ head tail,String.utf8EncodeChar char=head::tail ∧
  (head.toNat<128 ∨ 192 ≤ head.toNat) ∧ ∀ byte∈tail,128 ≤ byte.toNat ∧ byte.toNat<192:=by
 have hchar:char.val.toNat<1114112:=by
  have hvalid:=char.valid
  unfold UInt32.isValidChar Nat.isValidChar at hvalid
  omega
 have hsize:∀ n:ℕ,(UInt8.ofNat n).toNat=n % 256:=fun n=>UInt8.toNat_ofNat'
 unfold String.utf8EncodeChar
 dsimp only
 generalize char.val.toNat=v at hchar ⊢
 split_ifs
 all_goals
  refine ⟨_,_,rfl,?_,?_⟩
  · rw [hsize]
    omega
  · simp only [List.forall_mem_cons,hsize,List.not_mem_nil,false_implies,implies_true,and_true]
    try omega

/-- A part of the bytes that begins a character is the bytes of a part of the text. -/
theorem suffix_whole {text:Text} {head:UInt8} {tail:List UInt8}
  (hsuffix:head::tail <:+ bytesOf text) (hhead:head.toNat<128 ∨ 192 ≤ head.toNat) :
  ∃ rest,rest <:+ text ∧ head::tail=bytesOf rest:=by
 induction text with
 | nil=>exact absurd (List.suffix_nil.mp hsuffix) (List.cons_ne_nil _ _)
 | cons char text ih=>
  obtain ⟨first,more,hchar,-,hmore⟩:=utf8_shape char
  have hbytes:bytesOf (char::text)=first::(more++bytesOf text):=by
   change String.utf8EncodeChar char++bytesOf text=_
   rw [hchar]
   rfl
  rw [hbytes] at hsuffix
  rcases List.suffix_cons_iff.mp hsuffix with heq | hsuffix
  · exact ⟨char::text,List.suffix_rfl,heq.trans hbytes.symm⟩
  · obtain ⟨front,hfront⟩:=hsuffix
    rcases List.append_eq_append_iff.mp hfront with ⟨cut,rfl,htail⟩ | ⟨cut,rfl,htail⟩
    · cases cut with
      | nil=>
       obtain ⟨rest,hrest,heq⟩:=ih ⟨[],htail⟩
       exact ⟨rest,hrest.trans (List.suffix_cons _ _),heq⟩
      | cons byte cut=>
       obtain ⟨rfl,-⟩:=List.cons.inj htail
       have hbyte:=hmore head (List.mem_append_right _ List.mem_cons_self)
       omega
    · obtain ⟨rest,hrest,heq⟩:=ih ⟨cut,htail.symm⟩
      exact ⟨rest,hrest.trans (List.suffix_cons _ _),heq⟩

theorem utf8_inj {char other:Char} {bytes more:List UInt8}
  (h:String.utf8EncodeChar char++bytes=String.utf8EncodeChar other++more) : char=other ∧ bytes=more:=by
 have hdecode:=congrArg (fun bytes=>ByteArray.utf8DecodeChar? bytes.toByteArray 0) h
 rw [List.toByteArray_append,List.toByteArray_append,ByteArray.utf8DecodeChar?_utf8EncodeChar_append,
  ByteArray.utf8DecodeChar?_utf8EncodeChar_append] at hdecode
 obtain rfl:=Option.some.inj hdecode
 exact ⟨rfl,List.append_cancel_left h⟩

theorem literal_bytes {char:Char} (hstar:char ≠ '*') (hany:char ≠ '?') :
  ∀ byte∈String.utf8EncodeChar char,byte≠42 ∧ byte≠63:=by
 intro byte hmem
 constructor
 · rintro rfl
   exact hstar (Char.toNat_inj.mp (ascii_of_mem (by decide) hmem))
 · rintro rfl
   exact hany (Char.toNat_inj.mp (ascii_of_mem (by decide) hmem))

/-- Anything is a whole character. -/
def Plain (pattern text:Text) : Prop := '?' ∈ pattern → ∀ char∈text,char.toNat<128

theorem ascii_bytes {char:Char} (h:char.toNat<128) : String.utf8EncodeChar char=[UInt8.ofNat char.toNat]:=by
 unfold String.utf8EncodeChar
 exact if_pos (Nat.le_of_lt_succ h)

theorem Plain.tail {symbol:Char} {pattern text rest:Text} (h:Plain (symbol::pattern) text)
  (hrest:rest <:+ text) : Plain pattern rest := fun hany char hmem=>
 h (List.mem_cons_of_mem _ hany) char (hrest.subset hmem)

theorem cut_whole {pattern text rest:Text} (hrest:rest <:+ text) (hcut:Cut '*' '?' pattern rest)
  (h:bytesOf text=bytesOf rest ∨ pattern.head?=some '*') : Cut '*' '?' pattern text:=by
 rcases h with hbytes | hstar
 · exact RouteEdits.bytesOf_injective hbytes ▸ hcut
 · obtain ⟨pattern,rfl⟩:=List.head?_eq_some_iff.mp hstar
   exact hcut.absorb hrest

/-- By induction on the pattern. Only a star can begin within a character, and it can take the
rest of that character too. -/
theorem cut_bytes_back {pattern:Text} : ∀ {text:Text} {bytes:List UInt8},Plain pattern text →
  bytes <:+ bytesOf text → Cut 42 63 (bytesOf pattern) bytes →
  ∃ rest,rest <:+ text ∧ Cut '*' '?' pattern rest ∧ (bytes=bytesOf rest ∨ pattern.head?=some '*'):=by
 induction pattern with
 | nil=>exact fun _ _ hcut=>⟨[],List.nil_suffix,rfl,Or.inl hcut⟩
 | cons symbol pattern ih=>
  intro text bytes hplain hsuffix hcut
  change Cut 42 63 (String.utf8EncodeChar symbol++bytesOf pattern) bytes at hcut
  by_cases hstar:symbol = '*'
  · subst hstar
    obtain ⟨more,hmore,hcut⟩:=cut_star.mp hcut
    obtain ⟨rest,hrest,hcut,-⟩:=ih (hplain.tail List.suffix_rfl) (hmore.trans hsuffix) hcut
    exact ⟨rest,hrest,cut_star.mpr ⟨rest,List.suffix_rfl,hcut⟩,Or.inr rfl⟩
  · have hnext:∃ first rest,first::rest <:+ text ∧ bytes=bytesOf (first::rest) ∧
      (symbol = '?' ∨ symbol=first) ∧ Cut 42 63 (bytesOf pattern) (bytesOf rest):=by
     by_cases hany:symbol = '?'
     · subst hany
       have hascii:=hplain List.mem_cons_self
       obtain ⟨byte,more,rfl,-,hcut⟩:=(cut_cons (by decide)).mp hcut
       have hbyte:byte.toNat<128:=by
        obtain ⟨char,hchar,hmem⟩:=List.mem_flatMap.mp (hsuffix.subset List.mem_cons_self)
        rw [ascii_bytes (hascii char hchar),List.mem_singleton] at hmem
        have hsmall:=hascii char hchar
        rw [hmem,UInt8.toNat_ofNat']
        omega
       obtain ⟨_ | ⟨first,rest⟩,hrest,hbytes⟩:=suffix_whole hsuffix (Or.inl hbyte)
       · cases hbytes
       · refine ⟨first,rest,hrest,hbytes,Or.inl rfl,?_⟩
         have hfirst:bytesOf (first::rest)=[UInt8.ofNat first.toNat]++bytesOf rest :=
          congrArg (· ++ bytesOf rest) (ascii_bytes (hascii first (hrest.subset
           List.mem_cons_self)))
         obtain ⟨-,rfl⟩:=List.cons.inj (hbytes.trans hfirst)
         exact hcut
     · obtain ⟨more,rfl,hmore⟩:=(cut_literal (literal_bytes hstar hany)).mp hcut
       obtain ⟨head,tail,hchar,hhead,-⟩:=utf8_shape symbol
       rw [hchar] at hsuffix
       obtain ⟨_ | ⟨first,rest⟩,hrest,hbytes⟩:=suffix_whole hsuffix hhead
       · cases hbytes
       · have hwhole:String.utf8EncodeChar symbol++more=bytesOf (first::rest):=by
          rw [hchar]
          exact hbytes
         obtain ⟨hsame,rfl⟩:=utf8_inj hwhole
         exact ⟨first,rest,hrest,hwhole,Or.inr hsame,hmore⟩
    obtain ⟨first,rest,hrest,hbytes,hsame,hcut⟩:=hnext
    have htail:=hplain.tail ((List.suffix_cons first rest).trans hrest)
    obtain ⟨last,hlast,hcut,hwhole⟩:=ih htail List.suffix_rfl hcut
    exact ⟨first::rest,hrest,(cut_cons hstar).mpr ⟨first,rest,rfl,hsame,
     cut_whole hlast hcut hwhole⟩,Or.inl hbytes⟩

theorem cut_bytes {pattern text:Text} (hplain:Plain pattern text) :
  Cut 42 63 (bytesOf pattern) (bytesOf text) ↔ Cut '*' '?' pattern text:=by
 constructor
 · intro hcut
   obtain ⟨rest,hrest,hcut,hwhole⟩:=cut_bytes_back hplain List.suffix_rfl hcut
   exact cut_whole hrest hcut hwhole
 · intro hcut
   induction pattern generalizing text with
   | nil=>
    rw [show text=[] from hcut]
    rfl
   | cons symbol pattern ih=>
    change Cut 42 63 (String.utf8EncodeChar symbol++bytesOf pattern) (bytesOf text)
    by_cases hstar:symbol = '*'
    · subst hstar
      obtain ⟨rest,hrest,hcut⟩:=cut_star.mp hcut
      refine cut_star.mpr ⟨bytesOf rest,?_,ih (hplain.tail hrest) hcut⟩
      obtain ⟨front,rfl⟩:=hrest
      exact ⟨bytesOf front,(bytesOf_append _ _).symm⟩
    · obtain ⟨first,rest,rfl,hsame,hcut⟩:=(cut_cons hstar).mp hcut
      have hrest:=ih (hplain.tail (List.suffix_cons _ _)) hcut
      change Cut 42 63 _ (String.utf8EncodeChar first++bytesOf rest)
      by_cases hany:symbol = '?'
      · subst hany
        rw [ascii_bytes (hplain List.mem_cons_self first List.mem_cons_self)]
        exact (cut_cons (by decide)).mpr ⟨_,_,rfl,Or.inl rfl,hrest⟩
      · obtain rfl:=hsame.resolve_left hany
        exact (cut_literal (literal_bytes hstar hany)).mpr ⟨_,rfl,hrest⟩

/-- No star of the pattern meets one of the text, and anything is a whole character. -/
def Apart (pattern text:Text) : Prop := ('*' ∈ pattern → '*' ∉ text) ∧ Plain pattern text

end CursorProxy.GlobMatching
