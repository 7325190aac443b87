import CursorProxy.LiveRunKeys
import CursorProxy.SandRequests

namespace CursorProxy.RoutingExcerpts
open JsonValues LiveRunKeys SandRequests XmlElements

def maxRunInferenceRoutingBytes : ℕ := 32*1024

/-- From the first character boundary at or behind a byte. -/
def fromBoundary : ℕ → Text → Text
 | 0,text=>text
 | _+1,[]=>[]
 | start+1,char::text=>fromBoundary (start+1-char.utf8Size) text

def utf8SuffixWithMaxBytes (value:Text) (maxBytes:ℕ) : Text :=
 if len value ≤ maxBytes then value else fromBoundary (len value-maxBytes) value

def sandMessageRoutingText (message:SandInferenceMessage) : Text :=
 match message.text.filter fun text=>!text.isEmpty with
 | some text=>text
 | none=>['\n'].intercalate (message.parts.filterMap fun part=>
   (((part.get "text").bind fun value=>(value.get "text").or (value.get "value")).bind
    JsonValue.asStr).map String.toList)

abbrev Entry := ℕ×Text

def projected (messages:List SandInferenceMessage) : List Entry :=
 (messages.filter fun message=>message.role=roleUser ∨ message.role=roleAssistant).filterMap
  fun message=>
   let text:=sandMessageRoutingText message
   if text.isEmpty then none else some (message.role,text)

def newest : ℕ → List Entry → List Entry
 | 0,_=>[]
 | _,[]=>[]
 | remaining,(role,text)::older=>
  let text:=utf8SuffixWithMaxBytes text remaining
  if text.isEmpty then newest remaining older
  else (role,text)::newest (remaining-len text) older

def runInferenceRoutingConversation (messages:List SandInferenceMessage) : List Entry :=
 (newest maxRunInferenceRoutingBytes (projected messages).reverse).reverse

def total (entries:List Entry) : ℕ := (entries.map fun entry=>len entry.2).sum

/-- Newest first: no entry is skipped, and only the oldest may be an end of its text. -/
structure Excerpt (bound:ℕ) (all out:List Entry) : Prop where
 contiguous : out=[] ∨ ∃ newer role text cut before,
  all=newer++(role,text)::before ∧ cut≠[] ∧ cut <:+ text ∧ out=newer++[(role,cut)]
 bounded : total out ≤ bound
 whole : total all ≤ bound → out=all

/-- Newest first: the first text that does not fit can be cut so that no older text has a last
character that fits behind the cut. -/
def Filled : ℕ → List Entry → Prop
 | _,[]=>True
 | bound,(_,text)::older=>
  if len text ≤ bound then Filled (bound-len text) older
  else ∃ cut,cut <:+ text ∧ len cut ≤ bound ∧ ∀ entry∈older,∀ last∈entry.2.getLast?,bound<len cut+last.utf8Size

variable {bound role:ℕ} {text cut:Text} {older out:List Entry}

theorem len_append (text rest:Text) : len (text++rest)=len text+len rest:=by
 simp [len,LengthFrames.size]

theorem len_eq_zero : len text=0 ↔ text=[]:=by
 cases text with
 | nil=>simp [len]
 | cons char text=>
  have hchar:=char.utf8Size_pos
  simp [len]
  omega

theorem len_le_of_suffix (h:cut <:+ text) : len cut ≤ len text:=by
 obtain ⟨front,rfl⟩:=h
 rw [len_append]
 omega

theorem fromBoundary_spec : ∀ (start:ℕ) (text:Text),fromBoundary start text <:+ text ∧
  (start ≤ len text → len (fromBoundary start text)+start ≤ len text) ∧
  ∀ cut,cut <:+ text → len cut+start ≤ len text → cut <:+ fromBoundary start text:=by
 intro start text
 fun_induction fromBoundary start text with
 | case1 text=>exact ⟨List.suffix_rfl,by simp,fun cut h _=>h⟩
 | case2 start=>
  refine ⟨List.suffix_rfl,fun h=>absurd h (by simp [len]),fun cut _ h=>?_⟩
  simp [len] at h
 | case3 start char text ih=>
  obtain ⟨hsuffix,hlen,hlongest⟩:=ih
  have hcons:len (char::text)=char.utf8Size+len text:=by simp [len]
  have hpos:=char.utf8Size_pos
  refine ⟨hsuffix.trans (List.suffix_cons char text),?_,?_⟩
  · intro h
    by_cases hle:start+1-char.utf8Size ≤ len text
    · have:=hlen hle
      omega
    · omega
  · intro cut hcut h
    rcases List.suffix_cons_iff.mp hcut with rfl | hcut
    · omega
    · have:=len_le_of_suffix hcut
      exact hlongest cut hcut (by omega)

/-- The longest end of the text that fits. -/
theorem suffix_spec (text:Text) (bound:ℕ) :
  utf8SuffixWithMaxBytes text bound <:+ text ∧ len (utf8SuffixWithMaxBytes text bound) ≤ bound ∧
   ∀ cut,cut <:+ text → len cut ≤ bound → cut <:+ utf8SuffixWithMaxBytes text bound:=by
 unfold utf8SuffixWithMaxBytes
 split_ifs with hfits
 · exact ⟨List.suffix_rfl,hfits,fun _ h _=>h⟩
 · obtain ⟨hsuffix,hlen,hlongest⟩:=fromBoundary_spec (len text-bound) text
   have:=hlen (by omega)
   exact ⟨hsuffix,by omega,fun cut hcut h=>hlongest cut hcut (by omega)⟩

/-- Nothing of a text fits where its last character does not. -/
theorem suffix_eq_nil (hne:text≠[]) :
  utf8SuffixWithMaxBytes text bound=[] ↔ ∀ last∈text.getLast?,bound<last.utf8Size:=by
 obtain ⟨hsuffix,hlen,hlongest⟩:=suffix_spec text bound
 have hone:∀ char:Char,len [char]=char.utf8Size:=fun char=>by simp [len]
 constructor
 · intro hnil last hlast
   by_contra hle
   have hcut:=hlongest [last] (by
    obtain ⟨front,rfl⟩:=List.getLast?_eq_some_iff.mp hlast
    exact List.suffix_append front [last]) (by rw [hone]; omega)
   rw [hnil] at hcut
   exact absurd (List.suffix_nil.mp hcut) (List.cons_ne_nil _ _)
 · intro h
   by_contra hcut
   generalize utf8SuffixWithMaxBytes text bound=cut at *
   obtain ⟨front,rfl⟩:=hsuffix
   have hlast:=h (cut.getLast hcut) (by
    rw [List.getLast?_append_of_ne_nil _ hcut,List.getLast?_eq_some_getLast hcut]
    rfl)
   have hwidth:=len_append cut.dropLast [cut.getLast hcut]
   rw [List.dropLast_append_getLast hcut,hone] at hwidth
   omega

theorem newest_cons {text:Text} : newest bound ((role,text)::older) =
  if utf8SuffixWithMaxBytes text bound=[] then newest bound older
  else (role,utf8SuffixWithMaxBytes text bound) :: newest (bound-len (utf8SuffixWithMaxBytes text bound)) older:=by
 cases bound with
 | zero=>
  have hnil:=len_eq_zero.mp (Nat.le_zero.mp (suffix_spec text 0).2.1)
  rw [if_pos hnil,newest,newest]
 | succ bound=>
  rw [newest.eq_3 _ _ _ _ (Nat.succ_ne_zero bound)]
  simp only [List.isEmpty_iff]

theorem newest_eq_nil (hfull:∀ entry∈older,entry.2≠[]) :
  newest bound older=[] ↔ ∀ entry∈older,∀ last∈entry.2.getLast?,bound<last.utf8Size:=by
 induction older with
 | nil=>cases bound <;> simp [newest]
 | cons entry older ih=>
  obtain ⟨role,text⟩:=entry
  rw [List.forall_mem_cons] at hfull ⊢
  rw [newest_cons,← suffix_eq_nil hfull.1,← ih hfull.2]
  split_ifs with hnil <;> simp [hnil]

theorem total_cons (entry:Entry) (out:List Entry) : total (entry::out)=len entry.2+total out:=by
 simp [total]

/-- An entry that fits is kept as it is. -/
theorem excerpt_cons (hne:text≠[]) (hfits:len text ≤ bound) :
  Excerpt bound ((role,text)::older) ((role,text)::out) ↔ Excerpt (bound-len text) older out:=by
 constructor
 · rintro ⟨hcontiguous,hbounded,hwhole⟩
   rw [total_cons] at hbounded hwhole
   dsimp only at hbounded hwhole
   refine ⟨?_,by omega,fun h=>(List.cons.inj (hwhole (by omega))).2⟩
   rcases hcontiguous with hnil | ⟨newer,role',text',cut,before,hall,hcut,hsuffix,hout⟩
   · cases hnil
   · cases newer with
     | nil=>exact Or.inl (List.cons.inj hout).2
     | cons entry newer=>
      exact Or.inr ⟨newer,role',text',cut,before,(List.cons.inj hall).2,hcut,hsuffix,(List.cons.inj hout).2⟩
 · rintro ⟨hcontiguous,hbounded,hwhole⟩
   refine ⟨Or.inr ?_,by rw [total_cons]; dsimp only; omega,fun h=>?_⟩
   · rcases hcontiguous with rfl | ⟨newer,role',text',cut,before,rfl,hcut,hsuffix,rfl⟩
     · exact ⟨[],role,text,text,older,rfl,hne,List.suffix_rfl,rfl⟩
     · exact ⟨(role,text)::newer,role',text',cut,before,rfl,hcut,hsuffix,rfl⟩
   · rw [total_cons] at h
     dsimp only at h
     rw [hwhole (by omega)]

/-- A text that does not fit ends the excerpt if nothing follows its cut. -/
theorem excerpt_cut (hlong:bound<len text) :
  Excerpt bound ((role,text)::older) (newest bound ((role,text)::older)) ↔
   newest (bound-len (utf8SuffixWithMaxBytes text bound)) older=[]:=by
 obtain ⟨hsuffix,hlen,hlongest⟩:=suffix_spec text bound
 have htotal:=total_cons (role,text) older
 dsimp only at htotal
 rw [newest_cons]
 constructor
 · have hshape:∀ {out},Excerpt bound ((role,text)::older) out → out=[] ∨
     ∃ cut,cut≠[] ∧ cut <:+ utf8SuffixWithMaxBytes text bound ∧ out=[(role,cut)]:=by
    rintro out ⟨rfl | ⟨newer,role',text',cut,before,hall,hcut,hcutText,rfl⟩,hbounded,-⟩
    · exact Or.inl rfl
    · right
      cases newer with
      | nil=>
       obtain ⟨⟨rfl,rfl⟩,rfl⟩:=List.cons.inj hall |>.imp_left Prod.mk.inj
       exact ⟨cut,hcut,hlongest cut hcutText (by simpa [total] using hbounded),rfl⟩
      | cons entry newer=>
       obtain ⟨rfl,-⟩:=List.cons.inj hall
       rw [List.cons_append,total_cons] at hbounded
       dsimp only at hbounded
       omega
   intro h
   have hout:=hshape h
   split_ifs at hout with hnil
   · rw [hnil]
     rcases hout with hout | ⟨cut,hcut,hcutText,-⟩
     · exact hout
     · exact absurd (List.suffix_nil.mp (hnil ▸ hcutText)) hcut
   · rcases hout with hout | ⟨cut,-,-,hout⟩
     · cases hout
     · exact (List.cons.inj hout).2
 · intro hrest
   split_ifs with hnil
   · rw [hnil] at hrest
     exact ⟨Or.inl hrest,by rw [show newest bound older=[] from hrest]; exact Nat.zero_le _,
      fun h=>by omega⟩
   · rw [hrest]
     exact ⟨Or.inr ⟨[],role,text,_,older,rfl,hnil,hsuffix,rfl⟩,hlen,fun h=>by omega⟩

theorem excerpt_newest {all:List Entry} (hfull:∀ entry∈all,entry.2≠[]) : ∀ bound,
  Excerpt bound all (newest bound all) ↔ Filled bound all:=by
 induction all with
 | nil=>
  intro bound
  have hnil:newest bound []=[]:=by cases bound <;> rfl
  rw [hnil]
  exact iff_of_true ⟨Or.inl rfl,Nat.zero_le _,fun _=>rfl⟩ trivial
 | cons entry older ih=>
  intro bound
  obtain ⟨role,text⟩:=entry
  rw [List.forall_mem_cons] at hfull
  obtain ⟨-,hlen,hlongest⟩:=suffix_spec text bound
  rw [Filled]
  split_ifs with hfits
  · have hsame:utf8SuffixWithMaxBytes text bound=text:=if_pos hfits
    rw [newest_cons,hsame,if_neg hfull.1,excerpt_cons hfull.1 hfits,ih hfull.2]
  · rw [excerpt_cut (by omega),newest_eq_nil hfull.2]
    constructor
    · intro h
      refine ⟨_,(suffix_spec text bound).1,hlen,fun entry hentry last hlast=>?_⟩
      have:=h entry hentry last hlast
      omega
    · rintro ⟨cut,hcut,hcutLen,h⟩ entry hentry last hlast
      have hwidth:=h entry hentry last hlast
      have:=len_le_of_suffix (hlongest cut hcut hcutLen)
      omega

theorem projected_full (messages:List SandInferenceMessage) : ∀ entry∈projected messages,entry.2≠[]:=by
 intro entry hentry
 obtain ⟨message,-,hmessage⟩:=List.mem_filterMap.mp hentry
 dsimp only at hmessage
 split_ifs at hmessage with hempty
 obtain rfl:=Option.some.inj hmessage
 simpa using hempty

theorem excerpt_iff (messages:List SandInferenceMessage) :
    Excerpt maxRunInferenceRoutingBytes (projected messages).reverse
        (runInferenceRoutingConversation messages).reverse ↔
      Filled maxRunInferenceRoutingBytes (projected messages).reverse:=by
  rw [runInferenceRoutingConversation,List.reverse_reverse]
  exact excerpt_newest (fun entry hentry=>
    projected_full messages entry (List.mem_reverse.mp hentry)) _

def userMessage (text:Text) : SandInferenceMessage := ⟨roleUser,some text,[],[],none,[]⟩

def skipped (newest:Text) : List SandInferenceMessage :=
 [userMessage ['x'],userMessage ['é'],userMessage newest]

/-- One byte of the bound is left behind the newest text. -/
theorem excerpt_skips : let messages:=skipped (List.replicate 32767 'a')
    ¬ Excerpt maxRunInferenceRoutingBytes (projected messages).reverse
      (runInferenceRoutingConversation messages).reverse:=by
  have hlen:∀ count,len (List.replicate count 'a')=count:=by
    intro count
    have hwidth : 'a'.utf8Size=1:=by decide
    simp [len,LengthFrames.size,hwidth]
  have hlong:=hlen 32767
  generalize List.replicate 32767 'a' = long at hlong
  have hne:long≠[]:=by
    rintro rfl
    cases hlong
  have hprojected:(projected (skipped long)).reverse=[(1,long),(1,['é']),(1,['x'])]:=by
    simp [projected,skipped,userMessage,roleUser,sandMessageRoutingText,Option.filter,hne]
  intro messages
  rw [runInferenceRoutingConversation,List.reverse_reverse,excerpt_newest (fun entry hentry=>
    projected_full messages entry (List.mem_reverse.mp hentry)),hprojected,Filled,hlong,
    if_pos (by decide),Filled,if_neg (by decide)]
  rintro ⟨cut,hcut,hlen,h⟩
  have hwidth:=h _ List.mem_cons_self 'x' rfl
  rcases List.suffix_cons_iff.mp hcut with rfl | hcut
  · exact absurd hlen (by decide)
  · rw [List.suffix_nil.mp hcut] at hwidth
    exact absurd hwidth (by decide)

end CursorProxy.RoutingExcerpts
