import CursorProxy.BlockBrackets
import CursorProxy.GrokMoves

namespace CursorProxy.GrokBrackets
open BlockBrackets GrokMoves GrokReducer JsonValues

inductive GrokKind where
 | active (kind:ActiveKind)
 | tool
 | search
 | result
 deriving DecidableEq

/-- One of thinking, text and compaction is open at a time. -/
def GrokKind.solo : GrokKind → Bool
 | .active _=>true
 | _=>false

def bracketsOf : ReducerEvent → List (Bracket GrokKind)
 | .thinkingStart index=>[.start index (.active .thinking)]
 | .thinkingDelta index _=>[.delta index (.active .thinking)]
 | .thinkingStop index=>[.stop index (.active .thinking)]
 | .textStart index=>[.start index (.active .text)]
 | .textDelta index _=>[.delta index (.active .text)]
 | .textStop index=>[.stop index (.active .text)]
 | .compactionStart index=>[.start index (.active .compaction)]
 | .compactionDelta index _=>[.delta index (.active .compaction)]
 | .compactionStop index=>[.stop index (.active .compaction)]
 | .toolStart index _ _=>[.start index .tool]
 | .toolDelta index _=>[.delta index .tool]
 | .toolStop index=>[.stop index .tool]
 | .hostedSearch index resultIndex _ _ _=>[.start index .search,.delta index .search,
  .stop index .search,.start resultIndex .result,.stop resultIndex .result]
 | .citation index _=>[.delta index (.active .text)]
 | .finish _ _ _ _ _=>[]

def bracketsAll (events:List ReducerEvent) : List (Bracket GrokKind) := events.flatMap bracketsOf

def isFinish : ReducerEvent → Bool
 | .finish _ _ _ _ _=>true
 | _=>false

def argumentOf (index:ℕ) : ReducerEvent → Option String
 | .toolDelta other text=>if other=index then some text else none
 | _=>none

def argumentsOf (index:ℕ) (events:List ReducerEvent) : String :=
 String.join (events.filterMap (argumentOf index))

def Open (c:Core) (index:ℕ) (kind:GrokKind) : Prop :=
 (∃ active,c.active=some (active,index) ∧ kind=.active active) ∨
  kind=.tool ∧ ∃ id name,c.calls.lookup id=some (index,name)

structure Bracketed (c:Core) (out:List ReducerEvent) : Prop where
 reads : ∃ b,Blocks.none.readAll (bracketsAll out)=some b ∧ b.next=c.nextIndex ∧
  ∀ index kind,b.opened index=some kind ↔ Open c index kind
 solo : readSoloAll GrokKind.solo none (bracketsAll out)=some (c.active.map Prod.snd)
 active : ∀ kind index,c.active=some (kind,index) → index<c.nextIndex
 calls : ∀ id index name,c.calls.lookup id=some (index,name) → index<c.nextIndex ∧ ∀ kind,c.active≠some (kind,index)
 distinct : ∀ id id' index name name',c.calls.lookup id=some (index,name) →
  c.calls.lookup id'=some (index,name') → id=id'

theorem bracketsAll_append (events more:List ReducerEvent) :
 bracketsAll (events++more)=bracketsAll events++bracketsAll more :=
 List.flatMap_append

theorem bracketsAll_single (event:ReducerEvent) : bracketsAll [event]=bracketsOf event :=
 List.flatMap_singleton _ _

theorem bracketsOf_start (kind:ActiveKind) (index:ℕ) : bracketsOf (kind.start index)=[.start index (.active kind)]:=by
 cases kind <;> rfl

theorem bracketsOf_delta (kind:ActiveKind) (index:ℕ) (text:String) :
 bracketsOf (kind.delta index text)=[.delta index (.active kind)]:=by
 cases kind <;> rfl

theorem bracketsOf_stop (kind:ActiveKind) (index:ℕ) : bracketsOf (kind.stop index)=[.stop index (.active kind)]:=by
 cases kind <;> rfl

theorem kept_of_erase {α:Type} {entries:AList fun _ : String=>α} {key other:String} {value:α}
 (h:(entries.erase key).lookup other=some value) :
 other≠key ∧ entries.lookup other=some value:=by
 by_cases hkey:other=key
 · rw [hkey,AList.lookup_erase] at h
   exact (nomatch h)
 · exact ⟨hkey,(AList.lookup_erase_ne hkey).symm.trans h⟩

theorem kept_of_insert {α:Type} {entries:AList fun _ : String=>α} {key other:String}
 {new value:α} (h:(entries.insert key new).lookup other=some value) :
 other=key ∧ value=new ∨ other≠key ∧ entries.lookup other=some value:=by
 by_cases hkey:other=key
 · rw [hkey,AList.lookup_insert] at h
   exact Or.inl ⟨hkey,(Option.some.inj h).symm⟩
 · exact Or.inr ⟨hkey,(AList.lookup_insert_ne hkey).symm.trans h⟩

section bracketed
variable {env:GrokEnv} {may:Bool} {c d:Core} {out:List ReducerEvent}

variable {index:ℕ} {kind:GrokKind}

theorem Open.lt (h:Bracketed c out) (hopen:Open c index kind) : index<c.nextIndex:=by
 rcases hopen with ⟨active,hactive,-⟩ | ⟨-,id,name,hcall⟩
 · exact h.active active index hactive
 · exact (h.calls id index name hcall).1

theorem Bracketed.delta (h:Bracketed c out) {event:ReducerEvent}
 (hevent:bracketsOf event=[.delta index kind]) (hopen:Open c index kind)
 (hsame:d.nextIndex=c.nextIndex ∧ d.active=c.active ∧ d.calls=c.calls) : Bracketed d (out++[event]):=by
 obtain ⟨hnext,hactive,hcalls⟩:=hsame
 obtain ⟨b,hread,hb,hopened⟩:=h.reads
 have hiff:∀ index kind,Open d index kind ↔ Open c index kind:=by
  intro index kind
  unfold Open
  rw [hactive,hcalls]
 refine ⟨⟨b,?_,hb.trans hnext.symm,?_⟩,?_,?_,?_,?_⟩
 · rw [bracketsAll_append,bracketsAll_single,hevent]
   exact Blocks.readAll_then hread (Blocks.readAll_single (Blocks.read_delta ((hopened index kind).mpr hopen)))
 · intro index kind
   rw [hopened,hiff]
 · rw [bracketsAll_append,bracketsAll_single,hevent,hactive]
   exact readSoloAll_then h.solo rfl
 · rw [hactive,hnext]
   exact h.active
 · rw [hactive,hcalls,hnext]
   exact h.calls
 · rw [hcalls]
   exact h.distinct

theorem Bracketed.start (h:Bracketed c out) {event:ReducerEvent} {kind:GrokKind}
 (hevent:bracketsOf event=[.start c.nextIndex kind]) (hnext:d.nextIndex=c.nextIndex+1)
 (hsolo:readSolo GrokKind.solo (c.active.map Prod.snd) (.start c.nextIndex kind) = some (d.active.map Prod.snd))
 (hopen:∀ index other,Open d index other ↔ Open c index other ∨ index=c.nextIndex ∧ other=kind)
 (hactive:∀ kind index,d.active=some (kind,index) → index<d.nextIndex)
 (hcalls:∀ id index name,d.calls.lookup id=some (index,name) → index<d.nextIndex ∧ ∀ kind,d.active≠some (kind,index))
 (hdistinct:∀ id id' index name name',d.calls.lookup id=some (index,name) →
  d.calls.lookup id'=some (index,name') → id=id') : Bracketed d (out++[event]):=by
 obtain ⟨b,hread,hb,hopened⟩:=h.reads
 refine ⟨⟨⟨b.next+1,Function.update b.opened b.next (some kind)⟩,?_,?_,?_⟩,?_,hactive,hcalls,hdistinct⟩
 · rw [bracketsAll_append,bracketsAll_single,hevent,← hb]
   exact Blocks.readAll_then hread (Blocks.readAll_single (Blocks.read_start b kind))
 · rw [hnext,← hb]
 · intro index other
   rw [hopen]
   change Function.update b.opened b.next (some kind) index=some other ↔ _
   by_cases hindex:index=b.next
   · rw [hindex,Function.update_self,hb]
     constructor
     · intro hsame
       exact Or.inr ⟨rfl,(Option.some.inj hsame).symm⟩
     · rintro (hold | ⟨-,rfl⟩)
       · exact absurd (hold.lt h) (Nat.lt_irrefl _)
       · rfl
   · rw [Function.update_of_ne hindex,hopened,or_iff_left]
     rintro ⟨hsame,-⟩
     exact hindex (hsame.trans hb.symm)
 · rw [bracketsAll_append,bracketsAll_single,hevent]
   refine readSoloAll_then h.solo ?_
   unfold readSoloAll
   rw [List.foldlM_cons,hsolo]
   rfl

theorem Bracketed.stop (h:Bracketed c out) {event:ReducerEvent}
 (hevent:bracketsOf event=[.stop index kind]) (hopened:Open c index kind) (hnext:d.nextIndex=c.nextIndex)
 (hsolo:readSolo GrokKind.solo (c.active.map Prod.snd) (.stop index kind)=some (d.active.map Prod.snd))
 (hopen:∀ other otherKind,Open d other otherKind ↔ Open c other otherKind ∧ other≠index)
 (hactive:∀ kind index,d.active=some (kind,index) → c.active=some (kind,index))
 (hcalls:∀ id call,d.calls.lookup id=some call → c.calls.lookup id=some call) : Bracketed d (out++[event]):=by
 obtain ⟨b,hread,hb,hopenedIff⟩:=h.reads
 refine ⟨⟨⟨b.next,Function.update b.opened index none⟩,?_,hb.trans hnext.symm,?_⟩,?_,?_,?_,?_⟩
 · rw [bracketsAll_append,bracketsAll_single,hevent]
   exact Blocks.readAll_then hread (Blocks.readAll_single (Blocks.read_stop ((hopenedIff index kind).mpr hopened)))
 · intro other otherKind
   rw [hopen]
   change Function.update b.opened index none other=some otherKind ↔ _
   by_cases hother:other=index
   · rw [hother,Function.update_self]
     exact iff_of_false nofun fun hboth=>hboth.2 rfl
   · rw [Function.update_of_ne hother,hopenedIff]
     exact (and_iff_left hother).symm
 · rw [bracketsAll_append,bracketsAll_single,hevent]
   refine readSoloAll_then h.solo ?_
   unfold readSoloAll
   rw [List.foldlM_cons,hsolo]
   rfl
 · intro kind other hsome
   rw [hnext]
   exact h.active kind other (hactive kind other hsome)
 · intro id other name hcall
   obtain ⟨hlt,hnot⟩:=h.calls id other name (hcalls id _ hcall)
   exact ⟨hnext ▸ hlt,fun kind hsome=>hnot kind (hactive kind other hsome)⟩
 · intro id id' other name name' hcall hcall'
   exact h.distinct id id' other name name' (hcalls id _ hcall) (hcalls id' _ hcall')

theorem Bracketed.search (h:Bracketed c out) (hactive:c.active=none) (id name query:String) :
 Bracketed { c with nextIndex := c.nextIndex+2 }
  (out++[.hostedSearch c.nextIndex (c.nextIndex+1) id name query]):=by
 obtain ⟨b,hread,hb,hopened⟩:=h.reads
 have hfree:∀ index,c.nextIndex ≤ index → b.opened index=none:=by
  intro index hle
  refine Option.eq_none_iff_forall_ne_some.mpr fun kind hsome=>?_
  exact absurd (((hopened index kind).mp hsome).lt h) (Nat.not_lt.mpr hle)
 have hfirst:=b.readAll_block .search (hfree _ (Nat.le_of_eq hb.symm)) [.delta b.next .search]
  fun _ hmem=>List.mem_singleton.mp hmem
 have hsecond:=Blocks.readAll_block ⟨b.next+1,b.opened⟩ GrokKind.result (hfree _ (by dsimp only; omega)) [] nofun
 have hsame:∀ index kind,Open { c with nextIndex:=c.nextIndex+2 } index kind ↔
  Open c index kind := fun _ _=>Iff.rfl
 refine ⟨⟨⟨b.next+2,b.opened⟩,?_,congrArg (· + 2) hb,?_⟩,?_,?_,?_,h.distinct⟩
 · rw [bracketsAll_append,bracketsAll_single,← hb]
   exact Blocks.readAll_then hread (Blocks.readAll_then hfirst hsecond)
 · intro index kind
   rw [hsame]
   exact hopened index kind
 · rw [bracketsAll_append,bracketsAll_single]
   exact readSoloAll_then h.solo rfl
 · intro kind index hsome
   exact (nomatch hactive.symm.trans hsome)
 · intro id index name hcall
   obtain ⟨hlt,hnot⟩:=h.calls id index name hcall
   exact ⟨Nat.lt_add_right 2 hlt,hnot⟩

theorem Bracketed.call (h:Bracketed c out) (hactive:c.active=none) {id:String}
 (hnew:c.calls.lookup id=none) (name:String) :
 Bracketed
  { c with
    nextIndex := c.nextIndex+1
    calls := c.calls.insert id (c.nextIndex,name)
    toolArgs := c.toolArgs.insert id "" }
  (out++[.toolStart c.nextIndex id name]):=by
 refine h.start rfl rfl ?_ ?_ ?_ ?_ ?_
 · rw [hactive]
   rfl
 · intro index kind
   constructor
   · rintro (⟨active,hsome,-⟩ | ⟨rfl,other,otherName,hcall⟩)
     · exact (nomatch hactive.symm.trans hsome)
     · rcases kept_of_insert hcall with ⟨-,hown⟩ | ⟨-,hold⟩
       · exact Or.inr ⟨(Prod.mk.inj hown).1,rfl⟩
       · exact Or.inl (Or.inr ⟨rfl,other,otherName,hold⟩)
   · rintro ((⟨active,hsome,-⟩ | ⟨rfl,other,otherName,hcall⟩) | ⟨rfl,rfl⟩)
     · exact (nomatch hactive.symm.trans hsome)
     · have hid:other≠id:=by
        rintro rfl
        exact (nomatch hnew.symm.trans hcall)
       exact Or.inr ⟨rfl,other,otherName,(AList.lookup_insert_ne hid).trans hcall⟩
     · exact Or.inr ⟨rfl,id,name,AList.lookup_insert _⟩
 · intro kind index hsome
   exact (nomatch hactive.symm.trans hsome)
 · intro other index otherName hcall
   refine ⟨?_,fun kind hsome=>(nomatch hactive.symm.trans hsome)⟩
   rcases kept_of_insert hcall with ⟨-,hown⟩ | ⟨-,hold⟩
   · obtain ⟨rfl,-⟩:=Prod.mk.inj hown
     exact Nat.lt_succ_self _
   · exact Nat.lt_succ_of_lt (h.calls other index otherName hold).1
 · intro first second index firstName secondName hfirst hsecond
   rcases kept_of_insert hfirst with ⟨hid,hown⟩ | ⟨-,hold⟩
   · rcases kept_of_insert hsecond with ⟨hid',-⟩ | ⟨-,hold'⟩
     · rw [hid,hid']
     · obtain ⟨rfl,-⟩:=Prod.mk.inj hown
       exact absurd (h.calls second _ secondName hold').1 (Nat.lt_irrefl _)
   · rcases kept_of_insert hsecond with ⟨-,hown'⟩ | ⟨-,hold'⟩
     · obtain ⟨rfl,-⟩:=Prod.mk.inj hown'
       exact absurd (h.calls first _ firstName hold).1 (Nat.lt_irrefl _)
     · exact h.distinct first second index firstName secondName hold hold'

theorem Bracketed.stopCall (h:Bracketed c out) {id:String} {name:String} (hcall:c.calls.lookup id=some (index,name)) :
 Bracketed { c with calls := c.calls.erase id,toolArgs := c.toolArgs.erase id }
  (out++[.toolStop index]):=by
 refine h.stop rfl (Or.inr ⟨rfl,id,name,hcall⟩) rfl rfl ?_ (fun _ _ hsome=>hsome)
  fun other call hsome=>(kept_of_erase hsome).2
 intro other kind
 constructor
 · rintro (⟨active,hsome,rfl⟩ | ⟨rfl,otherId,otherName,hother⟩)
   · refine ⟨Or.inl ⟨active,hsome,rfl⟩,?_⟩
     rintro rfl
     exact (h.calls id other name hcall).2 active hsome
   · obtain ⟨hid,hother⟩:=kept_of_erase hother
     refine ⟨Or.inr ⟨rfl,otherId,otherName,hother⟩,?_⟩
     rintro rfl
     exact hid (h.distinct otherId id other otherName name hother hcall)
 · rintro ⟨hactive | ⟨rfl,otherId,otherName,hother⟩,hindex⟩
   · exact Or.inl hactive
   · refine Or.inr ⟨rfl,otherId,otherName,(AList.lookup_erase_ne ?_).trans hother⟩
     rintro rfl
     exact hindex (Prod.mk.inj (Option.some.inj (hother.symm.trans hcall))).1

theorem Bracketed.move (h:Bracketed c out) {more:List ReducerEvent} (hmove:Move env may c more d) :
 Bracketed d (out++more):=by
 cases hmove with
 | close kind index hactive=>
  refine h.stop (bracketsOf_stop kind index) (Or.inl ⟨kind,hactive,rfl⟩) rfl ?_ ?_ nofun
   fun _ _ hcall=>hcall
  · rw [hactive]
    exact if_pos rfl
  · intro other otherKind
    constructor
    · rintro (⟨active,hnone,-⟩ | ⟨rfl,id,name,hcall⟩)
      · exact (nomatch hnone)
      · exact ⟨Or.inr ⟨rfl,id,name,hcall⟩,fun hother=>
         (h.calls id other name hcall).2 kind (hother ▸ hactive)⟩
    · rintro ⟨⟨active,hsome,-⟩ | htool,hother⟩
      · exact absurd (Prod.mk.inj (Option.some.inj (hsome.symm.trans hactive))).2 hother
      · exact Or.inr htool
 | start kind hactive=>
  refine h.start (bracketsOf_start kind c.nextIndex) rfl ?_ ?_ ?_ ?_ h.distinct
  · rw [hactive]
    rfl
  · intro index other
    constructor
    · rintro (⟨active,hsome,rfl⟩ | htool)
      · obtain ⟨rfl,rfl⟩:=Prod.mk.inj (Option.some.inj hsome)
        exact Or.inr ⟨rfl,rfl⟩
      · exact Or.inl (Or.inr htool)
    · rintro ((⟨active,hsome,-⟩ | htool) | ⟨rfl,rfl⟩)
      · exact (nomatch hactive.symm.trans hsome)
      · exact Or.inr htool
      · exact Or.inl ⟨kind,rfl,rfl⟩
  · intro other index hsome
    obtain ⟨-,rfl⟩:=Prod.mk.inj (Option.some.inj hsome)
    exact Nat.lt_succ_self _
  · intro id index name hcall
    obtain ⟨hlt,-⟩:=h.calls id index name hcall
    refine ⟨Nat.lt_succ_of_lt hlt,fun other hsome=>?_⟩
    obtain ⟨-,rfl⟩:=Prod.mk.inj (Option.some.inj hsome)
    exact Nat.lt_irrefl _ hlt
 | delta kind index text hactive=>
  exact h.delta (bracketsOf_delta kind index text) (Or.inl ⟨kind,hactive,rfl⟩) ⟨rfl,rfl,rfl⟩
 | cite index annotation hactive=>
  have hevent:bracketsOf (.citation index annotation)=[.delta index (.active .text)]:=rfl
  exact h.delta hevent (Or.inl ⟨.text,hactive,rfl⟩) ⟨rfl,rfl,rfl⟩
 | search id name query hactive=>exact h.search hactive id name query
 | call id name hactive hnew=>exact h.call hactive hnew name
 | argue hmay id index name args text hcall hargs=>
  exact h.delta rfl (Or.inr ⟨rfl,id,name,hcall⟩) ⟨rfl,rfl,rfl⟩
 | stop id index name hcall hvalid=>exact h.stopCall hcall
 | finish reason input output web x hactive hcalls=>
  have hsame:bracketsAll (out++[.finish reason input output web x])=bracketsAll out:=by
   rw [bracketsAll_append,bracketsAll_single]
   exact List.append_nil _
  exact ⟨hsame ▸ h.reads,hsame ▸ h.solo,h.active,h.calls,h.distinct⟩

theorem Bracketed.balanced (h:Bracketed c out) (hactive:c.active=none)
 (hcalls:∀ id,c.calls.lookup id=none) : Balanced (bracketsAll out):=by
 obtain ⟨b,hread,hb,hopened⟩:=h.reads
 have hfree:b.opened=fun _=>none:=by
  funext index
  refine Option.eq_none_iff_forall_ne_some.mpr fun kind hsome=>?_
  rcases (hopened index kind).mp hsome with ⟨active,hsome,-⟩ | ⟨-,id,name,hcall⟩
  · exact (nomatch hactive.symm.trans hsome)
  · exact (nomatch (hcalls id).symm.trans hcall)
 refine ⟨b.next,hread.trans (congrArg some ?_)⟩
 rw [← hfree]

end bracketed

structure Argued (env:GrokEnv) (c:Core) (out:List ReducerEvent) : Prop where
 args : ∀ id index name,c.calls.lookup id=some (index,name) → c.toolArgs.lookup id=some (argumentsOf index out)
 stopped : ∀ index, .toolStop index∈out → index<c.nextIndex ∧
  (env.readValue (argumentsOf index out)).isSome=true ∧ ∀ id name,c.calls.lookup id≠some (index,name)
 fresh : ∀ index,c.nextIndex ≤ index → argumentsOf index out = ""

theorem argumentsOf_quiet {event:ReducerEvent} (h:∀ index,argumentOf index event=none)
 (index:ℕ) (out:List ReducerEvent) : argumentsOf index (out++[event])=argumentsOf index out:=by
 unfold argumentsOf
 rw [List.filterMap_append,List.filterMap_cons,h,List.filterMap_nil,List.append_nil]

theorem argumentsOf_delta (index other:ℕ) (text:String) (out:List ReducerEvent) :
 argumentsOf index (out++[.toolDelta other text]) =
  if other=index then argumentsOf index out++text else argumentsOf index out:=by
 have hone:argumentOf index (.toolDelta other text) =
  if other=index then some text else none := rfl
 unfold argumentsOf
 rw [List.filterMap_append,String.join_append,List.filterMap_cons,hone]
 split_ifs
 · exact congrArg (String.join (out.filterMap (argumentOf index)) ++ ·) (String.join_cons.trans String.append_empty)
 · exact String.append_empty

section argued
variable {env:GrokEnv} {may:Bool} {c d:Core} {out:List ReducerEvent}

theorem Argued.quiet (h:Argued env c out) {event:ReducerEvent}
 (hevent:∀ index,argumentOf index event=none ∧ event ≠ .toolStop index)
 (hnext:c.nextIndex ≤ d.nextIndex) (hcalls:d.calls=c.calls)
 (hargs:d.toolArgs=c.toolArgs) : Argued env d (out++[event]):=by
 have hsame:=argumentsOf_quiet fun index=>(hevent index).1
 refine ⟨?_,?_,?_⟩
 · intro id index name hcall
   rw [hcalls] at hcall
   rw [hsame,hargs]
   exact h.args id index name hcall
 · intro index hmem
   rcases List.mem_append.mp hmem with hmem | hmem
   · obtain ⟨hlt,hvalid,hclosed⟩:=h.stopped index hmem
     rw [hsame,hcalls]
     exact ⟨Nat.lt_of_lt_of_le hlt hnext,hvalid,hclosed⟩
   · exact absurd (List.mem_singleton.mp hmem).symm (hevent index).2
 · intro index hle
   rw [hsame]
   exact h.fresh index (Nat.le_trans hnext hle)

theorem quiet_start (kind:ActiveKind) (number index:ℕ) :
 argumentOf index (kind.start number)=none ∧ kind.start number ≠ .toolStop index:=by
 cases kind <;> exact ⟨rfl,nofun⟩

theorem quiet_delta (kind:ActiveKind) (number index:ℕ) (text:String) :
 argumentOf index (kind.delta number text)=none ∧ kind.delta number text ≠ .toolStop index:=by
 cases kind <;> exact ⟨rfl,nofun⟩

theorem quiet_stop (kind:ActiveKind) (number index:ℕ) :
 argumentOf index (kind.stop number)=none ∧ kind.stop number ≠ .toolStop index:=by
 cases kind <;> exact ⟨rfl,nofun⟩

theorem Argued.move (h:Argued env c out) (hb:Bracketed c out) {more:List ReducerEvent}
 (hmove:Move env may c more d) : Argued env d (out++more):=by
 cases hmove with
 | close kind index hactive=>exact h.quiet (quiet_stop kind index) (Nat.le_refl _) rfl rfl
 | start kind hactive=>exact h.quiet (quiet_start kind _) (Nat.le_succ _) rfl rfl
 | delta kind index text hactive=>
  exact h.quiet (fun other=>quiet_delta kind index other text) (Nat.le_refl _) rfl rfl
 | cite index annotation hactive=>
  exact h.quiet (fun _=>⟨rfl,nofun⟩) (Nat.le_refl _) rfl rfl
 | search id name query hactive=>
  exact h.quiet (fun _=>⟨rfl,nofun⟩) (Nat.le_add_right _ 2) rfl rfl
 | finish reason input output web x hactive hcalls=>
  exact h.quiet (fun _=>⟨rfl,nofun⟩) (Nat.le_refl _) rfl rfl
 | call id name hactive hnew=>
  have hsame:=@argumentsOf_quiet (.toolStart c.nextIndex id name) fun _=>rfl
  refine ⟨?_,?_,?_⟩
  · intro other index otherName hcall
    rw [hsame]
    rcases kept_of_insert hcall with ⟨rfl,hown⟩ | ⟨hid,hold⟩
    · obtain ⟨rfl,-⟩:=Prod.mk.inj hown
      rw [h.fresh _ (Nat.le_refl _)]
      exact AList.lookup_insert _
    · exact (AList.lookup_insert_ne hid).trans (h.args other index otherName hold)
  · intro index hmem
    have hmem : .toolStop index∈out:=by
     rcases List.mem_append.mp hmem with hmem | hmem
     · exact hmem
     · exact (nomatch List.mem_singleton.mp hmem)
    obtain ⟨hlt,hvalid,hclosed⟩:=h.stopped index hmem
    rw [hsame]
    refine ⟨Nat.lt_succ_of_lt hlt,hvalid,fun other otherName hcall=>?_⟩
    rcases kept_of_insert hcall with ⟨-,hown⟩ | ⟨-,hold⟩
    · obtain ⟨rfl,-⟩:=Prod.mk.inj hown
      exact Nat.lt_irrefl _ hlt
    · exact hclosed other otherName hold
  · intro index hle
    rw [hsame]
    exact h.fresh index (Nat.le_of_succ_le hle)
 | argue hmay id index name args text hcall hargs=>
  have hown:args=argumentsOf index out :=
   Option.some.inj (hargs.symm.trans (h.args id index name hcall))
  refine ⟨?_,?_,?_⟩
  · intro other otherIndex otherName hother
    rw [argumentsOf_delta]
    by_cases hid:other=id
    · subst hid
      obtain ⟨rfl,-⟩:=Prod.mk.inj (Option.some.inj (hcall.symm.trans hother))
      rw [if_pos rfl,← hown]
      exact AList.lookup_insert _
    · have hindex:index≠otherIndex:=by
       rintro rfl
       exact hid (hb.distinct other id index otherName name hother hcall)
      rw [if_neg hindex]
      exact (AList.lookup_insert_ne hid).trans (h.args other otherIndex otherName hother)
  · intro other hmem
    have hmem : .toolStop other∈out:=by
     rcases List.mem_append.mp hmem with hmem | hmem
     · exact hmem
     · exact (nomatch List.mem_singleton.mp hmem)
    obtain ⟨hlt,hvalid,hclosed⟩:=h.stopped other hmem
    have hindex:index≠other:=by
     rintro rfl
     exact hclosed id name hcall
    rw [argumentsOf_delta,if_neg hindex]
    exact ⟨hlt,hvalid,hclosed⟩
  · intro other hle
    have hindex:index≠other :=
     Nat.ne_of_lt (Nat.lt_of_lt_of_le (hb.calls id index name hcall).1 hle)
    rw [argumentsOf_delta,if_neg hindex]
    exact h.fresh other hle
 | stop id index name hcall hvalid=>
  have hsame:=@argumentsOf_quiet (.toolStop index) fun _=>rfl
  refine ⟨?_,?_,?_⟩
  · intro other otherIndex otherName hother
    obtain ⟨hid,hother⟩:=kept_of_erase hother
    rw [hsame]
    exact (AList.lookup_erase_ne hid).trans (h.args other otherIndex otherName hother)
  · intro other hmem
    rw [hsame]
    rcases List.mem_append.mp hmem with hmem | hmem
    · obtain ⟨hlt,hvalid,hclosed⟩:=h.stopped other hmem
      exact ⟨hlt,hvalid,fun otherId otherName hother=>
       hclosed otherId otherName (kept_of_erase hother).2⟩
    · obtain rfl:=ReducerEvent.toolStop.inj (List.mem_singleton.mp hmem)
      rw [h.args id other name hcall] at hvalid
      refine ⟨(hb.calls id other name hcall).1,hvalid,fun otherId otherName hother=>?_⟩
      obtain ⟨hid,hother⟩:=kept_of_erase hother
      exact hid (hb.distinct otherId id other otherName name hother hcall)
  · intro other hle
    rw [hsame]
    exact h.fresh other hle

end argued

structure Ended (c:Core) (out:List ReducerEvent) : Prop where
 going : c.completed=false → ∀ event∈out,isFinish event=false
 finished : c.completed=true → ∃ body event,out=body++[event] ∧ isFinish event=true ∧
  (∀ event∈body,isFinish event=false) ∧ Balanced (bracketsAll body)

theorem Ended.move {env:GrokEnv} {may:Bool} {c d:Core} {out more:List ReducerEvent} (h:Ended c out)
 (hb:Bracketed c out) (hgoing:c.completed=false) (hmove:Move env may c more d) : Ended d (out++more):=by
 have hquiet:∀ event,isFinish event=false → d.completed=c.completed → Ended d (out++[event]):=by
  intro event hevent hsame
  refine ⟨fun _ other hmem=>?_,fun hdone=>?_⟩
  · rcases List.mem_append.mp hmem with hmem | hmem
    · exact h.going hgoing other hmem
    · rw [List.mem_singleton.mp hmem]
      exact hevent
  · rw [hsame,hgoing] at hdone
    exact (nomatch hdone)
 cases hmove with
 | close kind index hactive=>exact hquiet _ (by cases kind <;> rfl) rfl
 | start kind hactive=>exact hquiet _ (by cases kind <;> rfl) rfl
 | delta kind index text hactive=>exact hquiet _ (by cases kind <;> rfl) rfl
 | cite index annotation hactive=>exact hquiet _ rfl rfl
 | search id name query hactive=>exact hquiet _ rfl rfl
 | call id name hactive hnew=>exact hquiet _ rfl rfl
 | argue hmay id index name args text hcall hargs=>exact hquiet _ rfl rfl
 | stop id index name hcall hvalid=>exact hquiet _ rfl rfl
 | finish reason input output web x hactive hcalls=>
  exact ⟨nofun,fun _=>⟨out,_,rfl,rfl,h.going hgoing,hb.balanced hactive hcalls⟩⟩

structure Held (env:GrokEnv) (c:Core) (out:List ReducerEvent) : Prop where
 bracketed : Bracketed c out
 argued : Argued env c out
 ended : Ended c out

theorem Held.moves {env:GrokEnv} {may:Bool} {c d:Core} {more:List ReducerEvent}
 (hmoves:Moves env may c more d) : ∀ {out:List ReducerEvent},Held env c out → Held env d (out++more):=by
 induction hmoves with
 | refl c=>
  intro out h
  rw [List.append_nil]
  exact h
 | step hgoing hmove hrest ih=>
  intro out h
  rw [← List.append_assoc]
  exact ih ⟨h.bracketed.move hmove,h.argued.move h.bracketed hmove,h.ended.move h.bracketed hgoing hmove⟩

theorem held_new (env:GrokEnv) : Held env (coreOf .new) [] where
 bracketed :=
  { reads := ⟨.none,rfl,rfl,fun index kind=>iff_of_false nofun (by
     rintro (⟨active,hsome,-⟩ | ⟨-,id,name,hcall⟩)
     · exact (nomatch hsome)
     · exact (nomatch hcall))⟩
    solo := rfl
    active := nofun
    calls := fun _ _ _ hcall=>(nomatch hcall)
    distinct := fun _ _ _ _ _ hcall=>(nomatch hcall) }
 argued := ⟨fun _ _ _ hcall=>(nomatch hcall),nofun,fun _ _=>rfl⟩
 ended := ⟨fun _=>nofun,nofun⟩

end CursorProxy.GrokBrackets
