import CursorProxy.CodexReducer

/-! A reader checks the events of an answer. The desk holds what of the state of the reducer
matters for it; the reducer moves it by a few steps that the reader follows. -/
namespace CursorProxy.CodexWellFormed
open JsonValues CodexReducer ReducerState

inductive BlockKind where
 | thinking
 | text
 | tool
 deriving DecidableEq

/-- The blocks that are open, the indices used so far, and whether the end was read. -/
structure Reading where
 opened : List (BlockKind×ℕ)
 used : List ℕ
 finished : Bool

namespace Reading

def start (reading:Reading) (kind:BlockKind) (index:ℕ) : Option Reading :=
 if index∈reading.used then none
 else some { reading with
  opened := (kind,index)::reading.opened
  used := reading.used++[index] }

def within (reading:Reading) (kind:BlockKind) (index:ℕ) : Option Reading :=
 if (kind,index)∈reading.opened then some reading else none

def stop (reading:Reading) (kind:BlockKind) (index:ℕ) : Option Reading :=
 if (kind,index)∈reading.opened then
  some { reading with opened := reading.opened.filter (· ≠ (kind,index)) }
 else none

def search (reading:Reading) (index resultIndex:ℕ) : Option Reading :=
 if index∈reading.used ∨ resultIndex∈reading.used ∨ index=resultIndex then none
 else some { reading with used := reading.used++[index,resultIndex] }

def finish (reading:Reading) : Option Reading :=
 if reading.opened.isEmpty then some { reading with finished := true } else none

def read (reading:Reading) (event:ReducerEvent) : Option Reading :=
 if reading.finished then none
 else
  match event with
  | .thinkingStart index=>reading.start .thinking index
  | .textStart index=>reading.start .text index
  | .toolStart index _ _=>reading.start .tool index
  | .thinkingDelta index _ | .thinkingSignature index _=>reading.within .thinking index
  | .textDelta index _=>reading.within .text index
  | .toolDelta index _ | .toolProgress index=>reading.within .tool index
  | .thinkingStop index=>reading.stop .thinking index
  | .textStop index=>reading.stop .text index
  | .toolStop index=>reading.stop .tool index
  | .progress=>some reading
  | .webSearch index resultIndex _ _=>reading.search index resultIndex
  | .finish _ _ _ _ _ _ _=>reading.finish

end Reading

def readAll (events:List ReducerEvent) : Option Reading :=
 events.foldlM Reading.read ⟨[],[],false⟩

/-- Every block is opened under a fresh index and closed once before the one `finish` at
the end, whatever is said of an index comes while its block is open, and the indices of
blocks and searches are those below their number. -/
def WellFormed (events:List ReducerEvent) : Prop :=
 ∃ reading,readAll events=some reading ∧ reading.finished=true ∧ reading.used.Perm (List.range reading.used.length)

theorem readAll_push (events:List ReducerEvent) (event:ReducerEvent) :
 readAll (events++[event])=(readAll events).bind fun reading=>reading.read event:=by
 unfold readAll
 rw [List.foldlM_append]
 cases List.foldlM Reading.read ⟨[],[],false⟩ events with
 | none=>rfl
 | some reading=>
  change (reading.read event).bind some=reading.read event
  exact Option.bind_fun_some _

structure Desk where
 out : List ReducerEvent
 blocks : ℕ → Option (BlockKind×ℕ)
 thinking : Option ℕ
 next : ℕ

def entryOf : BlockState → BlockKind×ℕ
 | .text index _=>(.text,index)
 | .tool block=>(.tool,block.index)

def desk (state:ReducerState) : Desk where
 out := state.out
 blocks := fun outputIndex=>(state.blocksByOutputIndex.lookup outputIndex).map entryOf
 thinking := state.activeThinking.map ActiveThinking.anthropicIndex
 next := state.anthropicIndex

namespace Desk

def say (desk:Desk) (event:ReducerEvent) : Desk := { desk with out := desk.out++[event] }

def Live (desk:Desk) (entry:BlockKind×ℕ) : Prop :=
 (∃ outputIndex,desk.blocks outputIndex=some entry) ∨ ∃ index,desk.thinking=some index ∧ entry=(.thinking,index)

end Desk

def Inside (desk:Desk) : ReducerEvent → Prop
 | .thinkingDelta index _ | .thinkingSignature index _=>desk.Live (.thinking,index)
 | .textDelta index _=>desk.Live (.text,index)
 | .toolDelta index _ | .toolProgress index=>desk.Live (.tool,index)
 | .progress=>True
 | _=>False

def Starts (entry:BlockKind×ℕ) : ReducerEvent → Prop
 | .textStart index=>entry=(.text,index)
 | .toolStart index _ _=>entry=(.tool,index)
 | _=>False

def Stops (entry:BlockKind×ℕ) : ReducerEvent → Prop
 | .textStop index=>entry=(.text,index)
 | .toolStop index=>entry=(.tool,index)
 | _=>False

def openAt (desk:Desk) (outputIndex:ℕ) (kind:BlockKind) (event:ReducerEvent) : Desk where
 out := desk.out++[event]
 blocks := Function.update desk.blocks outputIndex (some (kind,desk.next))
 thinking := desk.thinking
 next := desk.next+1

/-- What the reducer does without leaving a block behind. -/
inductive DeskStep : Desk → Desk → Prop where
 | inside {desk:Desk} (event:ReducerEvent) (h:Inside desk event) :
  DeskStep desk (desk.say event)
 | startThinking {desk:Desk} (h:desk.thinking=none) :
  DeskStep desk { desk.say (.thinkingStart desk.next) with
   thinking := some desk.next,next := desk.next+1 }
 | stopThinking {desk:Desk} {index:ℕ} (h:desk.thinking=some index) :
  DeskStep desk { desk.say (.thinkingStop index) with thinking := none }
 | openBlock {desk:Desk} {outputIndex:ℕ} {kind:BlockKind} {event:ReducerEvent}
  (h:desk.blocks outputIndex=none) (hstarts:Starts (kind,desk.next) event) :
  DeskStep desk (openAt desk outputIndex kind event)
 | closeBlock {desk:Desk} {outputIndex:ℕ} {entry:BlockKind×ℕ} {event:ReducerEvent}
  (h:desk.blocks outputIndex=some entry) (hstops:Stops entry event) :
  DeskStep desk { desk.say event with blocks := Function.update desk.blocks outputIndex none }
 | webSearch {desk:Desk} (id query:String) :
  DeskStep desk { desk.say (.webSearch desk.next (desk.next+1) id query) with
   next := desk.next+2 }

abbrev DeskRun := Relation.ReflTransGen DeskStep

structure Tracks (desk:Desk) (reading:Reading) : Prop where
 read : readAll desk.out=some reading
 going : reading.finished=false
 used : reading.used=List.range desk.next
 live : ∀ entry,desk.Live entry → entry∈reading.opened
 bound : ∀ entry∈reading.opened,entry.2<desk.next
 distinct : ∀ first second entry other,desk.blocks first=some entry →
  desk.blocks second=some other → entry.2=other.2 → first=second
 apart : ∀ outputIndex entry index,desk.blocks outputIndex=some entry → desk.thinking=some index → entry.2≠index

/-- A block that was opened, and of which the desk knows no more. -/
def Lost (desk:Desk) (reading:Reading) (entry:BlockKind×ℕ) : Prop :=
 entry∈reading.opened ∧ ∀ other,desk.Live other → other.2≠entry.2

/-- The reader follows the desk: it goes on reading, what is open stays known, and what
is lost stays lost. -/
structure Follows (desk:Desk) (reading:Reading) (after:Desk) (next:Reading) : Prop where
 tracks : Tracks after next
 known : (∀ entry∈reading.opened,desk.Live entry) → ∀ entry∈next.opened,after.Live entry
 lost : ∀ entry,Lost desk reading entry → Lost after next entry

variable {before:Desk} {reading:Reading}

theorem Follows.refl (h:Tracks before reading) : Follows before reading before reading :=
 ⟨h,id,fun _=>id⟩

variable {after:Desk}

theorem Follows.trans {middle:Desk} {second third:Reading}
 (h:Follows before reading middle second) (h':Follows middle second after third) :
 Follows before reading after third :=
 ⟨h'.tracks,fun hall=>h'.known (h.known hall),
  fun entry hlost=>h'.lost entry (h.lost entry hlost)⟩

theorem Tracks.next (h:Tracks before reading) (event:ReducerEvent) :
 readAll (before.out++[event])=reading.read event:=by
 rw [readAll_push,h.read]
 rfl

theorem read_going (h:reading.finished=false) (event:ReducerEvent) : reading.read event = match event with
      | .thinkingStart index=>reading.start .thinking index
      | .textStart index=>reading.start .text index
      | .toolStart index _ _=>reading.start .tool index
      | .thinkingDelta index _ | .thinkingSignature index _=>reading.within .thinking index
      | .textDelta index _=>reading.within .text index
      | .toolDelta index _ | .toolProgress index=>reading.within .tool index
      | .thinkingStop index=>reading.stop .thinking index
      | .textStop index=>reading.stop .text index
      | .toolStop index=>reading.stop .tool index
      | .progress=>some reading
      | .webSearch index resultIndex _ _=>reading.search index resultIndex
      | .finish _ _ _ _ _ _ _=>reading.finish :=
 if_neg (Bool.eq_false_iff.mp h)

theorem Tracks.fresh (h:Tracks before reading) {index:ℕ} (hindex:before.next ≤ index) : index ∉ reading.used:=by
 rw [h.used,List.mem_range]
 omega

variable {entry:BlockKind×ℕ}

theorem Tracks.live_bound (h:Tracks before reading) (hlive:before.Live entry)
 : entry.2<before.next := h.bound entry (h.live entry hlive)

variable {event:ReducerEvent}

theorem follows_inside (h:Tracks before reading) (hinside:Inside before event)
 : Follows before reading (before.say event) reading:=by
 have hread:reading.read event=some reading:=by
  rw [read_going h.going]
  cases event with
  | thinkingDelta | thinkingSignature | textDelta | toolDelta | toolProgress=>
   exact if_pos (h.live _ hinside)
  | progress=>rfl
  | _=>exact hinside.elim
 exact ⟨⟨(h.next event).trans hread,h.going,h.used,h.live,h.bound,h.distinct,h.apart⟩,id,
  fun _=>id⟩

/-- The reader when a block is opened under the next index. -/
def Reading.opening (reading:Reading) (kind:BlockKind) (index:ℕ) : Reading :=
 { reading with opened := (kind,index)::reading.opened,used := reading.used++[index] }

theorem Tracks.start (h:Tracks before reading) (kind:BlockKind) :
 reading.start kind before.next=some (reading.opening kind before.next) :=
 if_neg (h.fresh le_rfl)

theorem opening_used (h:Tracks before reading) (kind:BlockKind) :
 (reading.opening kind before.next).used=List.range (before.next+1):=by
 rw [List.range_succ,← h.used]
 rfl

theorem opening_bound (h:Tracks before reading) (kind:BlockKind) :
 ∀ entry∈(reading.opening kind before.next).opened,entry.2<before.next+1:=by
 intro entry hmem
 obtain rfl | hmem:=List.mem_cons.mp hmem
 · exact Nat.lt_succ_self _
 · have hbound:=h.bound entry hmem
   omega

theorem follows_startThinking (h:Tracks before reading) (hidle:before.thinking=none) :
 Follows before reading { before.say (.thinkingStart before.next) with
  thinking := some before.next,next := before.next+1 }
  (reading.opening .thinking before.next):=by
 have hlive:∀ entry,Desk.Live { before.say (.thinkingStart before.next) with
  thinking := some before.next,next := before.next+1 } entry ↔
   before.Live entry ∨ entry=(.thinking,before.next):=by
  intro entry
  constructor
  · rintro (hblock | ⟨index,hindex,rfl⟩)
    · exact .inl (.inl hblock)
    · exact .inr (by rw [← Option.some.inj hindex])
  · rintro ((hblock | ⟨index,hindex,_⟩) | rfl)
    · exact .inl hblock
    · exact absurd (hidle.symm.trans hindex) (by simp)
    · exact .inr ⟨_,rfl,rfl⟩
 refine ⟨⟨?_,h.going,opening_used h _,?_,opening_bound h _,h.distinct,?_⟩,?_,?_⟩
 · exact (h.next _).trans ((read_going h.going _).trans (h.start .thinking))
 · intro entry hentry
   obtain hbefore | rfl:=(hlive entry).mp hentry
   · exact List.mem_cons_of_mem _ (h.live entry hbefore)
   · exact List.mem_cons_self
 · intro outputIndex entry index hblock hindex
   obtain rfl:=Option.some.inj hindex
   exact (h.live_bound (.inl ⟨_,hblock⟩)).ne
 · intro hall entry hmem
   obtain rfl | hmem:=List.mem_cons.mp hmem
   · exact (hlive _).mpr (.inr rfl)
   · exact (hlive _).mpr (.inl (hall entry hmem))
 · rintro entry ⟨hmem,hother⟩
   refine ⟨List.mem_cons_of_mem _ hmem,fun other hlater=>?_⟩
   obtain hbefore | rfl:=(hlive other).mp hlater
   · exact hother other hbefore
   · exact (h.bound entry hmem).ne'

variable {kind:BlockKind}

theorem starts_read (h:Tracks before reading) (hstarts:Starts (kind,before.next) event) :
 reading.read event=some (reading.opening kind before.next):=by
 rw [read_going h.going]
 cases event with
 | textStart index | toolStart index=>
  obtain ⟨rfl,rfl⟩:=Prod.mk.inj hstarts
  exact h.start _
 | _=>exact hstarts.elim

theorem openAt_tracks (h:Tracks before reading) (outputIndex:ℕ) (hstarts:Starts (kind,before.next) event) :
 Tracks (openAt before outputIndex kind event) (reading.opening kind before.next):=by
 have hblocks:∀ index entry,(openAt before outputIndex kind event).blocks index=some entry →
  index=outputIndex ∧ entry=(kind,before.next) ∨ index≠outputIndex ∧ before.blocks index=some entry:=by
  intro index entry hentry
  by_cases hindex:index=outputIndex
  · subst hindex
    have hself:(openAt before index kind event).blocks index=some (kind,before.next) :=
     Function.update_self ..
    exact .inl ⟨rfl,Option.some.inj (hentry.symm.trans hself)⟩
  · exact .inr ⟨hindex,(Function.update_of_ne hindex _ _).symm.trans hentry⟩
 refine ⟨(h.next event).trans (starts_read h hstarts),h.going,opening_used h kind,?_,opening_bound h kind,?_,?_⟩
 · rintro entry (⟨index,hentry⟩ | ⟨index,hindex,rfl⟩)
   · obtain ⟨_,rfl⟩ | ⟨_,hbefore⟩:=hblocks index entry hentry
     · exact List.mem_cons_self
     · exact List.mem_cons_of_mem _ (h.live entry (.inl ⟨index,hbefore⟩))
   · exact List.mem_cons_of_mem _ (h.live _ (.inr ⟨index,hindex,rfl⟩))
 · intro first second entry other hfirst hsecond hsame
   obtain ⟨rfl,rfl⟩ | ⟨_,hbefore⟩:=hblocks first entry hfirst
   · obtain ⟨rfl,_⟩ | ⟨_,hbefore'⟩:=hblocks second other hsecond
     · rfl
     · exact absurd hsame (h.live_bound (.inl ⟨second,hbefore'⟩)).ne'
   · obtain ⟨_,rfl⟩ | ⟨_,hbefore'⟩:=hblocks second other hsecond
     · exact absurd hsame (h.live_bound (.inl ⟨first,hbefore⟩)).ne
     · exact h.distinct first second entry other hbefore hbefore' hsame
 · intro index entry thinking hentry hthinking
   obtain ⟨_,rfl⟩ | ⟨_,hbefore⟩:=hblocks index entry hentry
   · exact (h.live_bound (.inr ⟨thinking,hthinking,rfl⟩)).ne'
   · exact h.apart index entry thinking hbefore hthinking

variable {outputIndex:ℕ}

theorem openAt_live (hfree:before.blocks outputIndex=none) (entry:BlockKind×ℕ) :
 (openAt before outputIndex kind event).Live entry ↔ before.Live entry ∨ entry=(kind,before.next):=by
 have hself:(openAt before outputIndex kind event).blocks outputIndex =
  some (kind,before.next) := Function.update_self ..
 have hkept:∀ index,index≠outputIndex → (openAt before outputIndex kind event).blocks index=before.blocks index :=
  fun index hindex=>Function.update_of_ne hindex ..
 constructor
 · rintro (⟨index,hentry⟩ | hthinking)
   · by_cases hindex:index=outputIndex
     · subst hindex
       exact .inr (Option.some.inj (hentry.symm.trans hself))
     · exact .inl (.inl ⟨index,(hkept index hindex).symm.trans hentry⟩)
   · exact .inl (.inr hthinking)
 · rintro ((⟨index,hentry⟩ | hthinking) | rfl)
   · have hindex:index≠outputIndex:=by
      rintro rfl
      exact absurd (hfree.symm.trans hentry) (by simp)
     exact .inl ⟨index,(hkept index hindex).trans hentry⟩
   · exact .inr hthinking
   · exact .inl ⟨outputIndex,hself⟩

theorem follows_openBlock (h:Tracks before reading) (hfree:before.blocks outputIndex=none)
 (hstarts:Starts (kind,before.next) event) :
 Follows before reading (openAt before outputIndex kind event) (reading.opening kind before.next):=by
 refine ⟨openAt_tracks h outputIndex hstarts,fun hall entry hmem=>?_,?_⟩
 · obtain rfl | hmem:=List.mem_cons.mp hmem
   · exact (openAt_live hfree _).mpr (.inr rfl)
   · exact (openAt_live hfree _).mpr (.inl (hall entry hmem))
 · rintro entry ⟨hmem,hother⟩
   refine ⟨List.mem_cons_of_mem _ hmem,fun other hlater=>?_⟩
   obtain hbefore | rfl:=(openAt_live hfree other).mp hlater
   · exact hother other hbefore
   · exact (h.bound entry hmem).ne'

theorem replaced_lost (h:Tracks before reading) (hblock:before.blocks outputIndex=some entry) :
 Lost (openAt before outputIndex kind event) (reading.opening kind before.next) entry:=by
 have hlive:before.Live entry:=.inl ⟨outputIndex,hblock⟩
 refine ⟨List.mem_cons_of_mem _ (h.live entry hlive),?_⟩
 rintro other (⟨index,hother⟩ | ⟨index,hindex,rfl⟩)
 · by_cases hindex:index=outputIndex
   · subst hindex
     have hself:(openAt before index kind event).blocks index=some (kind,before.next) :=
      Function.update_self ..
     rw [Option.some.inj (hother.symm.trans hself)]
     exact (h.live_bound hlive).ne'
   · have hbefore:before.blocks index=some other :=
      (Function.update_of_ne hindex ..).symm.trans hother
     exact fun hsame=>hindex (h.distinct index outputIndex other entry hbefore hblock hsame)
 · exact (h.apart outputIndex entry index hblock hindex).symm

def Reading.closing (reading:Reading) (entry:BlockKind×ℕ) : Reading :=
 { reading with opened := reading.opened.filter (· ≠ entry) }

theorem mem_closing {other:BlockKind×ℕ} :
 other∈(reading.closing entry).opened ↔ other∈reading.opened ∧ other≠entry:=by
 unfold Reading.closing
 rw [List.mem_filter,decide_eq_true_eq]

theorem follows_closing (h:Tracks before reading) (event:ReducerEvent)
 (hread:reading.read event=some (reading.closing entry))
 (hout:after.out=before.out++[event]) (hnext:after.next=before.next) (hlive:before.Live entry)
 (hblocks:∀ index other,after.blocks index=some other → before.blocks index=some other)
 (hthinking:∀ index,after.thinking=some index → before.thinking=some index)
 (hafter:∀ other,after.Live other ↔ before.Live other ∧ other≠entry) :
 Follows before reading after (reading.closing entry):=by
 refine ⟨⟨?_,h.going,?_,?_,?_,?_,?_⟩,?_,?_⟩
 · rw [hout]
   exact (h.next event).trans hread
 · rw [hnext]
   exact h.used
 · intro other hother
   obtain ⟨hbefore,hne⟩:=(hafter other).mp hother
   exact mem_closing.mpr ⟨h.live other hbefore,hne⟩
 · intro other hmem
   rw [hnext]
   exact h.bound other (mem_closing.mp hmem).1
 · intro first second one other hfirst hsecond
   exact h.distinct first second one other (hblocks _ _ hfirst) (hblocks _ _ hsecond)
 · intro index other thinking hother hindex
   exact h.apart index other thinking (hblocks _ _ hother) (hthinking _ hindex)
 · intro hall other hmem
   obtain ⟨hopen,hne⟩:=mem_closing.mp hmem
   exact (hafter other).mpr ⟨hall other hopen,hne⟩
 · rintro other ⟨hmem,hother⟩
   refine ⟨mem_closing.mpr ⟨hmem,?_⟩,fun third hthird=>hother third ((hafter third).mp hthird).1⟩
   rintro rfl
   exact hother other hlive rfl

theorem follows_stopThinking (h:Tracks before reading) {index:ℕ} (hthinking:before.thinking=some index) :
 Follows before reading { before.say (.thinkingStop index) with thinking := none }
  (reading.closing (.thinking,index)):=by
 have hlive:before.Live (.thinking,index):=.inr ⟨index,hthinking,rfl⟩
 refine follows_closing h (.thinkingStop index) ?_ rfl rfl hlive (fun _ _=>id)
  (fun _ hnone=>absurd hnone (by simp)) fun other=>?_
 · rw [read_going h.going]
   exact if_pos (h.live _ hlive)
 · constructor
   · rintro (⟨outputIndex,hblock⟩ | ⟨_,hnone,_⟩)
     · refine ⟨.inl ⟨outputIndex,hblock⟩,?_⟩
       rintro rfl
       exact h.apart outputIndex _ index hblock hthinking rfl
     · exact absurd hnone (by simp)
   · rintro ⟨hblock | ⟨other,hother,rfl⟩,hne⟩
     · exact .inl hblock
     · exact absurd (by rw [Option.some.inj (hother.symm.trans hthinking)]) hne

theorem update_none {blocks:ℕ → Option (BlockKind×ℕ)} {outputIndex index:ℕ} {entry:BlockKind×ℕ} :
 Function.update blocks outputIndex none index=some entry ↔ index≠outputIndex ∧ blocks index=some entry:=by
 by_cases hindex:index=outputIndex
 · subst hindex
   rw [Function.update_self]
   simp
 · rw [Function.update_of_ne hindex]
   exact (and_iff_right hindex).symm

theorem follows_closeBlock (h:Tracks before reading)
 (hblock:before.blocks outputIndex=some entry) (hstops:Stops entry event) :
 Follows before reading { before.say event with blocks := Function.update before.blocks outputIndex none }
  (reading.closing entry):=by
 have hlive:before.Live entry:=.inl ⟨outputIndex,hblock⟩
 have hread:reading.read event=some (reading.closing entry):=by
  rw [read_going h.going]
  cases event with
  | textStop index | toolStop index=>
   obtain rfl:=hstops
   exact if_pos (h.live _ hlive)
  | _=>exact hstops.elim
 have hblocks:=@update_none before.blocks outputIndex
 refine follows_closing h event hread rfl rfl hlive (fun index other=>?_) (fun _=>id)
  fun other=>?_
 · exact fun hother=>(hblocks.mp hother).2
 · constructor
   · rintro (⟨index,hother⟩ | ⟨index,hindex,rfl⟩)
     · obtain ⟨hne,hbefore⟩:=hblocks.mp hother
       refine ⟨.inl ⟨index,hbefore⟩,?_⟩
       rintro rfl
       exact hne (h.distinct index outputIndex other other hbefore hblock rfl)
     · refine ⟨.inr ⟨index,hindex,rfl⟩,?_⟩
       rintro rfl
       exact h.apart outputIndex _ index hblock hindex rfl
   · rintro ⟨⟨index,hother⟩ | hthinking,hne⟩
     · refine .inl ⟨index,hblocks.mpr ⟨?_,hother⟩⟩
       rintro rfl
       exact hne (Option.some.inj (hother.symm.trans hblock))
     · exact .inr hthinking

theorem follows_webSearch (h:Tracks before reading) (id query:String) :
 Follows before reading { before.say (.webSearch before.next (before.next+1) id query) with
  next := before.next+2 }
  { reading with used := reading.used++[before.next,before.next+1] }:=by
 have hread:reading.read (.webSearch before.next (before.next+1) id query) =
  some { reading with used := reading.used++[before.next,before.next+1] }:=by
  rw [read_going h.going]
  refine if_neg ?_
  rintro (hused | hused | hsame)
  · exact h.fresh le_rfl hused
  · exact h.fresh (Nat.le_succ _) hused
  · omega
 refine ⟨⟨(h.next _).trans hread,h.going,?_,h.live,?_,h.distinct,h.apart⟩,fun hall=>hall,
  fun _ hlost=>hlost⟩
 · change reading.used++[before.next,before.next+1]=List.range (before.next+1+1)
   rw [List.range_succ,List.range_succ,h.used,List.append_assoc]
   rfl
 · intro entry hmem
   have hbound:=h.bound entry hmem
   change entry.2<before.next+2
   omega

theorem step_follows (h:Tracks before reading) (hstep:DeskStep before after) :
 ∃ next,Follows before reading after next:=by
 cases hstep with
 | inside event hinside=>exact ⟨_,follows_inside h hinside⟩
 | startThinking hidle=>exact ⟨_,follows_startThinking h hidle⟩
 | stopThinking hthinking=>exact ⟨_,follows_stopThinking h hthinking⟩
 | openBlock hfree hstarts=>exact ⟨_,follows_openBlock h hfree hstarts⟩
 | closeBlock hblock hstops=>exact ⟨_,follows_closeBlock h hblock hstops⟩
 | webSearch id query=>exact ⟨_,follows_webSearch h id query⟩

theorem run_follows (h:Tracks before reading) (hrun:DeskRun before after) :
 ∃ next,Follows before reading after next:=by
 induction hrun with
 | refl=>exact ⟨reading,.refl h⟩
 | tail _ hstep ih=>
  obtain ⟨middle,hmiddle⟩:=ih
  obtain ⟨next,hnext⟩:=step_follows hmiddle.tracks hstep
  exact ⟨next,hmiddle.trans hnext⟩

variable {env:CodexEnv} {state:ReducerState}

theorem desk_insert (blocks:AList fun _ : ℕ=>BlockState) (outputIndex:ℕ)
 (block:BlockState) :
 (fun index=>((blocks.insert outputIndex block).lookup index).map entryOf) =
  Function.update (fun index=>(blocks.lookup index).map entryOf) outputIndex
   (some (entryOf block)):=by
 funext index
 by_cases hindex:index=outputIndex
 · subst hindex
   rw [AList.lookup_insert,Function.update_self]
   rfl
 · rw [AList.lookup_insert_ne hindex,Function.update_of_ne hindex]

theorem desk_erase (blocks:AList fun _ : ℕ=>BlockState) (outputIndex:ℕ) :
 (fun index=>((blocks.erase outputIndex).lookup index).map entryOf) =
  Function.update (fun index=>(blocks.lookup index).map entryOf) outputIndex none:=by
 funext index
 by_cases hindex:index=outputIndex
 · subst hindex
   rw [AList.lookup_erase,Function.update_self]
   rfl
 · rw [AList.lookup_erase_ne hindex,Function.update_of_ne hindex]

theorem desk_update {block:BlockState} (changed:BlockState)
 (hblock:state.blocksByOutputIndex.lookup outputIndex=some block) (hentry:entryOf changed=entryOf block) :
 desk { state with
  blocksByOutputIndex := state.blocksByOutputIndex.insert outputIndex changed } = desk state:=by
 have hself:(desk state).blocks outputIndex=some (entryOf changed):=by
  rw [hentry]
  exact congrArg (Option.map entryOf) hblock
 have hsame:=(desk_insert state.blocksByOutputIndex outputIndex changed).trans
  (Function.update_eq_self_iff.mpr hself.symm)
 exact congrArg (fun blocks=>(⟨state.out,blocks,state.activeThinking.map
  ActiveThinking.anthropicIndex,state.anthropicIndex⟩ : Desk)) hsame

theorem desk_captureOutputItem (outputIndex:ℕ) (block:BlockState) :
 desk (state.captureOutputItem outputIndex block)=desk state:=by
 unfold captureOutputItem
 cases block with
 | text index textAccum=>
  dsimp only
  split <;> rfl
 | tool=>rfl

theorem closeThinking_run (env:CodexEnv) (state:ReducerState) :
 DeskRun (desk state) (desk (state.closeThinking env)) ∧ (desk (state.closeThinking env)).thinking=none ∧
  (desk (state.closeThinking env)).blocks=(desk state).blocks:=by
 unfold closeThinking
 cases hactive:state.activeThinking with
 | none=>
  refine ⟨.refl,?_,rfl⟩
  change state.activeThinking.map ActiveThinking.anthropicIndex=none
  rw [hactive]
  rfl
 | some active=>
  have hthinking:(desk state).thinking=some active.anthropicIndex :=
   congrArg (Option.map ActiveThinking.anthropicIndex) hactive
  unfold finalizeActiveThinking
  dsimp only
  split
  · rename_i signature _
    have hlive:(desk state).Live (.thinking,active.anthropicIndex) :=
     .inr ⟨_,hthinking,rfl⟩
    have hsigned:=DeskStep.inside (.thinkingSignature active.anthropicIndex signature) hlive
    exact ⟨.tail (.single hsigned) (.stopThinking hthinking),rfl,rfl⟩
  · exact ⟨.single (.stopThinking hthinking),rfl,rfl⟩

theorem emitSignatureOnlyReasoning_run (h:(desk state).thinking=none) (outputIndex:ℕ) :
 DeskRun (desk state) (desk (state.emitSignatureOnlyReasoning env outputIndex)):=by
 unfold emitSignatureOnlyReasoning
 dsimp only
 split
 · rename_i replay signature _
   have hstart:=DeskStep.startThinking h
   have hsigned:=DeskStep.inside (.thinkingSignature state.anthropicIndex signature)
    (.inr ⟨_,rfl,rfl⟩ : Desk.Live { (desk state).say (.thinkingStart (desk state).next) with
     thinking := some (desk state).next,next := (desk state).next+1 } (.thinking,state.anthropicIndex))
   have hthinking:(Desk.say { (desk state).say (.thinkingStart (desk state).next) with
    thinking := some (desk state).next,next := (desk state).next+1 }
     (.thinkingSignature state.anthropicIndex signature)).thinking = some state.anthropicIndex := rfl
   have hstop:=DeskStep.stopThinking hthinking
   rw [← h] at hstop
   exact .tail (.tail (.single hstart) hsigned) hstop
 · exact .refl

theorem reduceSummaryPartAdded_run (payload:JsonValue) :
 DeskRun (desk state) (desk (reduceSummaryPartAdded state payload)):=by
 unfold reduceSummaryPartAdded
 cases hactive:state.activeThinking with
 | none=>exact .refl
 | some active=>
  have hthinking:(desk state).thinking=some active.anthropicIndex :=
   congrArg (Option.map ActiveThinking.anthropicIndex) hactive
  dsimp only
  split
  · exact .single (.inside (.thinkingDelta active.anthropicIndex _) (.inr ⟨_,hthinking,rfl⟩))
  · exact .refl

theorem reduceSummaryDelta_run (payload:JsonValue) :
 DeskRun (desk state) (desk (reduceSummaryDelta env state payload)):=by
 unfold reduceSummaryDelta
 dsimp only
 split
 · exact .refl
 · split
   · rename_i active hactive
     have hthinking:(desk state).thinking=some active.anthropicIndex :=
      congrArg (Option.map ActiveThinking.anthropicIndex) (Option.filter_eq_some_iff.mp hactive).1
     exact .single (.inside (.thinkingDelta active.anthropicIndex _) (.inr ⟨_,hthinking,rfl⟩))
   · obtain ⟨hrun,hidle,_⟩:=closeThinking_run env state
     refine .tail (.tail hrun (.startThinking hidle)) ?_
     exact .inside (.thinkingDelta (state.closeThinking env).anthropicIndex _) (.inr ⟨_,rfl,rfl⟩)

theorem reduceTextDelta_run (payload:JsonValue) : DeskRun (desk state) (desk (reduceTextDelta env state payload)):=by
 obtain ⟨hrun,_,_⟩:=closeThinking_run env state
 unfold reduceTextDelta
 dsimp only
 split
 · exact hrun
 · split
   · rename_i outputIndex index textAccum hfound
     obtain ⟨found,_,hmap⟩:=Option.bind_eq_some_iff.mp hfound
     obtain ⟨block,hblock,hpair⟩:=Option.map_eq_some_iff.mp hmap
     obtain ⟨rfl,rfl⟩:=Prod.mk.inj hpair
     have hsame:=desk_update (.text index (textAccum++strField "delta" payload)) hblock rfl
     have hentry:(desk (state.closeThinking env)).blocks found=some (.text,index) :=
      congrArg (Option.map entryOf) hblock
     refine .tail hrun ?_
     change DeskStep _ ((desk { state.closeThinking env with
      blocksByOutputIndex := (state.closeThinking env).blocksByOutputIndex.insert found
       (.text index (textAccum++strField "delta" payload)) }).say (.textDelta index (strField "delta" payload)))
     rw [hsame]
     exact .inside _ (.inl ⟨found,hentry⟩)
   · exact hrun

theorem reduceArgumentsDone_run (payload:JsonValue) :
 DeskRun (desk state) (desk (reduceArgumentsDone state payload)):=by
 unfold reduceArgumentsDone
 split
 · exact .refl
 · split
   · rename_i outputIndex _ _ _ block args hblock _
     split
     · rw [desk_update (.tool { block with argsAccum := args }) hblock rfl]
     · exact .refl
   · exact .refl

theorem closeBlock_run {block:BlockState} (event:ReducerEvent) {closing:ReducerState}
 (hblock:state.blocksByOutputIndex.lookup outputIndex=some block) (hstops:Stops (entryOf block) event)
 (hclosing:desk closing={ desk state with blocks := Function.update (desk state).blocks outputIndex none })
 :
 DeskRun (desk state) (desk (closing.push event)):=by
 have hentry:(desk state).blocks outputIndex=some (entryOf block) :=
  congrArg (Option.map entryOf) hblock
 have hstep:=DeskStep.closeBlock hentry hstops
 have hdesk:desk (closing.push event)=(desk closing).say event:=rfl
 rw [hdesk,hclosing]
 exact .single hstep

theorem desk_erased (state:ReducerState) (outputIndex:ℕ) :
 desk { state with
  blocksByOutputIndex := state.blocksByOutputIndex.erase outputIndex } =
   { desk state with blocks := Function.update (desk state).blocks outputIndex none } :=
 congrArg (fun blocks=>(⟨state.out,blocks,state.activeThinking.map
  ActiveThinking.anthropicIndex,state.anthropicIndex⟩ : Desk)) (desk_erase _ outputIndex)

theorem finishArguments_events (env:CodexEnv) (item:Option JsonValue) (block:ToolBlock) :
 (finishArguments env item block).1.index=block.index ∧
  ((finishArguments env item block).2=[] ∨
   ∃ args,(finishArguments env item block).2=[.toolDelta block.index args]):=by
 have hindex:∀ item,(fillArguments item block).index=block.index:=by
  intro item
  unfold fillArguments
  split
  · split <;> rfl
  · rfl
 unfold finishArguments
 split
 · exact ⟨rfl,.inl rfl⟩
 · rename_i item
   dsimp only
   split
   · exact ⟨hindex item,.inl rfl⟩
   · split
     · exact ⟨hindex item,.inr ⟨_,by rw [hindex item]⟩⟩
     · exact ⟨hindex item,.inl rfl⟩

theorem reduceBlockDone_run (outputIndex:ℕ) (item:Option JsonValue) :
 DeskRun (desk state) (desk (reduceBlockDone env state outputIndex item)):=by
 unfold reduceBlockDone
 cases hblock:state.blocksByOutputIndex.lookup outputIndex with
 | none=>exact .refl
 | some block=>
  cases block with
  | text index textAccum=>
   refine closeBlock_run (.textStop index) hblock rfl ?_
   exact (desk_captureOutputItem _ _).trans (desk_erased state outputIndex)
  | tool tool=>
   dsimp only
   obtain ⟨hindex,hevents⟩:=finishArguments_events env item tool
   generalize finishArguments env item tool=written at hindex hevents ⊢
   obtain ⟨finished,events⟩:=written
   dsimp only at hindex hevents ⊢
   have hentry:(desk state).blocks outputIndex=some (.tool,tool.index) :=
    congrArg (Option.map entryOf) hblock
   have hwritten:DeskRun (desk state) (desk { state with out:=state.out++events }):=by
    obtain rfl | ⟨args,rfl⟩:=hevents
    · rw [List.append_nil]
    · exact .single (.inside (.toolDelta tool.index args) (.inl ⟨_,hentry⟩))
   have hstopped:Stops (entryOf (.tool tool)) (.toolStop finished.index):=by
    rw [hindex]
    exact rfl
   have hclosed:=desk_erased { state with out := state.out++events } outputIndex
   exact hwritten.trans (closeBlock_run _ hblock hstopped ((desk_captureOutputItem _ _).trans hclosed))

theorem reduceItemDone_run (payload:JsonValue) : DeskRun (desk state) (desk (reduceItemDone env state payload)):=by
 unfold reduceItemDone
 dsimp only
 split
 · rename_i item _
   unfold reduceReasoningDone
   dsimp only
   have hcaptured:desk (state.captureReasoning ((outputIndexOf payload).getD 0) item) = desk state := rfl
   obtain ⟨hrun,hidle,_⟩:=closeThinking_run env (state.captureReasoning ((outputIndexOf payload).getD 0) item)
   rw [hcaptured] at hrun
   split
   · exact hrun
   · exact hrun.trans (emitSignatureOnlyReasoning_run hidle _)
 · split
   · rename_i item _
     obtain ⟨hrun,_,_⟩:=closeThinking_run env state
     exact .tail hrun (.webSearch _ _)
   · exact reduceBlockDone_run _ _

end CursorProxy.CodexWellFormed
