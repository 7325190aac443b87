import CursorProxy.SandModel
import CursorProxy.XmlElements

/-! Both answers gather the same pieces of content into blocks: a piece continues the block that
is being written if that is of its kind, and begins a new one otherwise. They differ in what a
text delta without text does, and in what comes after the end. -/
namespace CursorProxy.BlockLanes
open SandModel XmlElements

inductive Block where
 | thinking (thinking:Text) (signature:Option Text)
 | text (text:Text)
 | toolUse (id name partialJson:String)
 deriving DecidableEq

namespace Block

def full : Block → Bool
 | .thinking thought signature=>!thought.isEmpty||signature.isSome
 | .text shown=>!shown.isEmpty
 | .toolUse _ _ _=>true

def size : Block → ℕ
 | .thinking thought _=>thought.length
 | .text shown=>shown.length
 | .toolUse _ _ _=>0

def weight (block:Block) : ℕ := if block.full then block.size+1 else 0

def isThinking : Block → Bool
 | .thinking _ _=>true
 | _=>false

/-- The second block as the continuation of the first. -/
def join : Block → Block → Option Block
 | .thinking thought signature, .thinking more later=>
  some (.thinking (thought++more) (later.or signature))
 | .text shown, .text more=>some (.text (shown++more))
 | _,_=>none

variable {block:Block}

theorem weight_of_full (h:block.full=true) : block.weight=block.size+1 := if_pos h

theorem weight_of_blank (h:block.full=false) : block.weight=0:=by
 unfold weight
 rw [h]
 rfl

variable {first second joined:Block}

theorem join_full (h:first.join second=some joined) : joined.full=(first.full||second.full):=by
 cases first <;> cases second <;> cases h
 · rename_i thought signature more later
   cases thought <;> cases signature <;> cases more <;> cases later <;> rfl
 · rename_i shown more
   cases shown <;> cases more <;> rfl

theorem join_size (h:first.join second=some joined) : joined.size=first.size+second.size:=by
 cases first <;> cases second <;> cases h
 · exact List.length_append
 · exact List.length_append

theorem size_of_blank (h:block.full=false) : block.size=0:=by
 cases block with
 | thinking thought signature=>cases thought <;> simp_all [full,size]
 | text shown=>cases shown <;> simp_all [full,size]
 | toolUse=>rfl

theorem join_weight (h:first.join second=some joined) :
 joined.weight = first.weight+if first.full then second.size else second.weight:=by
 have hfull:=join_full h
 have hsize:=join_size h
 unfold weight
 cases hfirst:first.full <;> cases hsecond:second.full <;>
  simp only [hfull,hsize,hfirst,hsecond,Bool.or_false,Bool.or_true,if_true,Bool.false_eq_true,if_false]
 · rw [size_of_blank hfirst]
   omega
 · omega
 · omega

end Block

/-- The finished blocks, and the one that is being written. -/
structure Lane where
 closed : List Block
 current : Option Block

namespace Lane

def blocks (lane:Lane) : List Block := lane.closed++lane.current.toList

def close (lane:Lane) : Lane := ⟨lane.blocks,none⟩

def closeThinking (lane:Lane) : Lane :=
 match lane.current with
 | some (.thinking _ _)=>lane.close
 | _=>lane

def put (lane:Lane) (block:Block) : Lane :=
 match lane.current with
 | none=>⟨lane.closed,some block⟩
 | some current=>
  match current.join block with
  | some joined=>⟨lane.closed,some joined⟩
  | none=>⟨lane.closed++[current],some block⟩

end Lane

inductive Piece where
 | text (text:Text)
 | thinking (thinking:Text) (signature:Option Text)
 | completed
 | finish
 | other

def pieceOf : CursorStreamEvent → Piece
 | .textDelta text=>.text text.toList
 | .thinkingDelta text=>.thinking text.toList none
 | .thinkingSignature signature=>
  if signature.toList.isEmpty then .other else .thinking [] (some signature.toList)
 | .thinkingCompleted=>.completed
 | .end=>.finish
 | _=>.other

/-- A streamed answer passes over a text delta without text. -/
def streamStep (lane:Lane) : Piece → Lane
 | .text text=>if text.isEmpty then lane else lane.put (.text text)
 | .thinking thinking signature=>lane.put (.thinking thinking signature)
 | .completed=>lane.closeThinking
 | .finish=>lane.close
 | .other=>lane

def streamBlocks : Lane → List Piece → List Block
 | lane,[]=>lane.blocks
 | lane, .finish::_=>lane.blocks
 | lane,piece::pieces=>streamBlocks (streamStep lane piece) pieces

/-- In a collected answer a text delta without text ends the thinking block, and the end
does no more than that. -/
def messageStep (lane:Lane) : Piece → Lane
 | .text text=>if text.isEmpty then lane.closeThinking else lane.put (.text text)
 | .thinking thinking signature=>lane.put (.thinking thinking signature)
 | .completed | .finish=>lane.closeThinking
 | .other=>lane

def messageBlocks (lane:Lane) (pieces:List Piece) : List Block :=
 (pieces.foldl messageStep lane).blocks

/-- Where a piece comes: outside of thinking, in a thinking block that has nothing in it
so far or that has, or in one that a text delta without text has cut. -/
inductive Phase where
 | outside
 | blank
 | filled
 | cut
 deriving DecidableEq

def advance : Phase → Piece → Option Phase
 | phase, .other=>some phase
 | .outside, .text _=>some .outside
 | .blank, .text text=>if text.isEmpty then some .blank else none
 | .filled, .text text=>if text.isEmpty then some .cut else some .outside
 | .cut, .text text=>if text.isEmpty then some .cut else some .outside
 | .outside, .thinking thinking signature | .blank, .thinking thinking signature=>
  if (Block.thinking thinking signature).full then some .filled else some .blank
 | .filled, .thinking _ _=>some .filled
 | .cut, .thinking thinking signature=>
  if (Block.thinking thinking signature).full then none else some .cut
 | .blank, .completed | .blank, .finish=>none
 | _, .completed | _, .finish=>some .outside

def Quiet (pieces:List Piece) : Prop :=
 ∀ piece∈pieces,match piece with
  | .text text=>text=[]
  | .thinking thinking signature=>(Block.thinking thinking signature).full=false
  | _=>True

/-- Every thinking block has something in it, none goes on after a text delta without
text, and nothing comes after the end. -/
def Agrees : Phase → List Piece → Prop
 | _,[]=>True
 | phase, .finish::pieces=>phase ≠ .blank ∧ Quiet pieces
 | phase,piece::pieces=>
  match advance phase piece with
  | some next=>Agrees next pieces
  | none=>False

variable {lane stream message:Lane} {block:Block}

theorem close_blocks (lane:Lane) : lane.close.blocks=lane.blocks := List.append_nil _

theorem closeThinking_cases (lane:Lane) :
 (∃ thinking signature,lane.current=some (.thinking thinking signature) ∧ lane.closeThinking=lane.close) ∨
  (∀ thinking signature,lane.current≠some (.thinking thinking signature)) ∧ lane.closeThinking=lane:=by
 unfold Lane.closeThinking
 split
 · rename_i thinking signature hcurrent
   exact .inl ⟨thinking,signature,hcurrent,rfl⟩
 · rename_i hother
   exact .inr ⟨hother,rfl⟩

theorem closeThinking_blocks (lane:Lane) : lane.closeThinking.blocks=lane.blocks:=by
 obtain ⟨_,_,_,heq⟩ | ⟨_,heq⟩:=closeThinking_cases lane
 · rw [heq,close_blocks]
 · rw [heq]

theorem put_cases (lane:Lane) (block:Block) :
 (∃ current joined,lane.current=some current ∧ current.join block=some joined ∧
  lane.put block=⟨lane.closed,some joined⟩) ∨
  (∀ current,lane.current=some current → current.join block=none) ∧ lane.put block=⟨lane.blocks,some block⟩:=by
 unfold Lane.put Lane.blocks
 cases hcurrent:lane.current with
 | none=>exact .inr ⟨fun _ h=>absurd h (by simp),by simp⟩
 | some current=>
  cases hjoin:current.join block with
  | some joined=>exact .inl ⟨current,joined,rfl,hjoin,by simp only [hjoin]⟩
  | none=>
   refine .inr ⟨fun other h=>?_,by simp only [hjoin,Option.toList_some]⟩
   obtain rfl:=Option.some.inj h
   exact hjoin

def weightOf (blocks:List Block) : ℕ := (blocks.map Block.weight).sum

theorem weightOf_append (front back:List Block) : weightOf (front++back)=weightOf front+weightOf back:=by
 unfold weightOf
 rw [List.map_append,List.sum_append]

theorem weightOf_filter (blocks:List Block) : weightOf (blocks.filter Block.full) = weightOf blocks:=by
 induction blocks with
 | nil=>rfl
 | cons block blocks ih=>
  unfold weightOf at ih ⊢
  cases hfull:block.full with
  | true=>
   rw [List.filter_cons_of_pos hfull,List.map_cons,List.sum_cons,ih]
   rfl
  | false=>
   rw [List.filter_cons_of_neg (Bool.eq_false_iff.mp hfull),ih,List.map_cons,List.sum_cons,
    Block.weight_of_blank hfull]
   omega

def gain (lane:Lane) (block:Block) : ℕ :=
 match lane.current with
 | some current=>
  if (current.join block).isSome&&current.full then block.size else block.weight
 | none=>block.weight

theorem put_weight (lane:Lane) (block:Block) :
 weightOf (lane.put block).blocks=weightOf lane.blocks+gain lane block:=by
 unfold gain Lane.blocks
 obtain ⟨current,joined,hcurrent,hjoin,heq⟩ | ⟨hnone,heq⟩:=put_cases lane block
 · have hweight:=Block.join_weight hjoin
   rw [heq,hcurrent,weightOf_append,weightOf_append]
   simp only [hjoin,Option.toList_some,Option.isSome_some,Bool.true_and]
   change _+(joined.weight+0)=_+(current.weight+0)+_
   omega
 · have hgain:gain lane block=block.weight:=by
    unfold gain
    cases hcurrent:lane.current with
    | none=>rfl
    | some current=>simp only [hnone current hcurrent,Option.isSome_none,Bool.false_and,
     Bool.false_eq_true,if_false]
   unfold gain at hgain
   rw [heq,hgain,Option.toList_some,weightOf_append]
   rfl

theorem size_le_weight (block:Block) : block.size ≤ block.weight:=by
 cases hfull:block.full with
 | true=>
  rw [Block.weight_of_full hfull]
  omega
 | false=>
  rw [Block.size_of_blank hfull]
  omega

theorem gain_le_weight (lane:Lane) (block:Block) : gain lane block ≤ block.weight:=by
 have hsize:=size_le_weight block
 unfold gain
 split
 · split <;> omega
 · omega

theorem messageStep_weight (lane:Lane) (piece:Piece) :
 weightOf lane.blocks ≤ weightOf (messageStep lane piece).blocks:=by
 cases piece with
 | text text=>
  simp only [messageStep]
  split
  · rw [closeThinking_blocks]
  · have hput:=put_weight lane (.text text)
    omega
 | thinking thinking signature=>
  have hput:=put_weight lane (.thinking thinking signature)
  simp only [messageStep]
  omega
 | completed | finish=>exact (congrArg weightOf (closeThinking_blocks lane)).ge
 | other=>exact le_rfl

theorem messageBlocks_weight (lane:Lane) (pieces:List Piece) :
 weightOf lane.blocks ≤ weightOf (messageBlocks lane pieces):=by
 induction pieces generalizing lane with
 | nil=>exact le_rfl
 | cons piece pieces ih=>exact (messageStep_weight lane piece).trans (ih _)

/-- What a collected answer is writing, the streamed one is writing too. -/
def Follows (stream message:Lane) : Prop :=
 ∀ behind,message.current=some behind → ∃ ahead,stream.current=some ahead ∧
  (ahead.join behind).isSome ∧ (behind.full=true → ahead.full=true)

variable {first second:Block}

theorem join_isSome_trans {third:Block} (h:(first.join second).isSome)
 (h':(second.join third).isSome) : (first.join third).isSome:=by
 cases first <;> cases second <;> cases third <;> simp_all [Block.join]

theorem join_isSome_symm (h:(first.join second).isSome) : (second.join first).isSome:=by
 cases first <;> cases second <;> simp_all [Block.join]

theorem join_joined {joined:Block} (h:first.join second=some joined) : (joined.join second).isSome:=by
 cases first <;> cases second <;> cases h <;> rfl

theorem join_self (block:Block) (h:∀ id name partialJson,block ≠ .toolUse id name partialJson) :
 (block.join block).isSome:=by
 cases block with
 | thinking | text=>rfl
 | toolUse id name partialJson=>exact absurd rfl (h id name partialJson)

theorem gain_le (h:Follows stream message) (block:Block) : gain stream block ≤ gain message block:=by
 have hle:=gain_le_weight stream block
 unfold gain at hle ⊢
 cases hbehind:message.current with
 | none=>exact hle
 | some behind=>
  obtain ⟨ahead,hahead,hjoin,hfull⟩:=h behind hbehind
  rw [hahead] at hle ⊢
  dsimp only at hle ⊢
  by_cases hboth:((behind.join block).isSome&&behind.full)=true
  · rw [Bool.and_eq_true_iff] at hboth
    rw [if_pos (Bool.and_eq_true_iff.mpr hboth),if_pos]
    rw [join_isSome_trans hjoin hboth.1,hfull hboth.2]
    rfl
  · rw [if_neg hboth]
    exact hle

theorem put_current (lane:Lane) (block:Block) (h:∀ id name partialJson,block ≠ .toolUse id name partialJson) :
 ∃ current,(lane.put block).current=some current ∧ (current.join block).isSome ∧
  (block.full=true → current.full=true) ∧
  ((∃ before,lane.current=some before ∧ (before.join block).isSome ∧ current.full=(before.full||block.full)) ∨
   (∀ before,lane.current=some before → before.join block=none) ∧ current=block):=by
 obtain ⟨before,joined,hbefore,hjoin,heq⟩ | ⟨hnone,heq⟩:=put_cases lane block
 · have hfull:=Block.join_full hjoin
   refine ⟨joined,congrArg Lane.current heq,join_joined hjoin,fun hblock=>?_,
    .inl ⟨before,hbefore,Option.isSome_of_eq_some hjoin,hfull⟩⟩
   rw [hfull,hblock,Bool.or_true]
 · exact ⟨block,congrArg Lane.current heq,join_self block h,id,.inr ⟨hnone,rfl⟩⟩

theorem follows_put (h:Follows stream message) (block:Block)
 (hblock:∀ id name partialJson,block ≠ .toolUse id name partialJson) :
 Follows (stream.put block) (message.put block):=by
 intro behind hbehind
 obtain ⟨current,hcurrent,hjoin,_,hcases⟩:=put_current message block hblock
 obtain ⟨ahead,hahead,hjoin',hkeep,hcases'⟩:=put_current stream block hblock
 obtain rfl:=Option.some.inj (hcurrent.symm.trans hbehind)
 refine ⟨ahead,hahead,join_isSome_trans hjoin' (join_isSome_symm hjoin),fun hfull=>?_⟩
 obtain ⟨before,hbefore,hgoes,hor⟩ | ⟨_,rfl⟩:=hcases
 · obtain ⟨ahead',hahead',hsame,hmore⟩:=h before hbefore
   obtain ⟨before',hbefore',_,hor'⟩ | ⟨hnone,_⟩:=hcases'
   · obtain rfl:=Option.some.inj (hbefore'.symm.trans hahead')
     rw [hor,Bool.or_eq_true] at hfull
     rw [hor',Bool.or_eq_true]
     exact hfull.imp_left hmore
   · have hnot:=hnone ahead' hahead'
     have hgoes':=join_isSome_trans hsame hgoes
     rw [hnot] at hgoes'
     exact absurd hgoes' (by simp)
 · exact hkeep hfull

theorem closeThinking_current {behind:Block} (h:lane.closeThinking.current=some behind) :
 lane.current=some behind ∧ behind.isThinking=false:=by
 obtain ⟨_,_,_,heq⟩ | ⟨hother,heq⟩:=closeThinking_cases lane
 · rw [heq] at h
   exact absurd h (by simp [Lane.close])
 · rw [heq] at h
   refine ⟨h,?_⟩
   cases behind with
   | thinking thinking signature=>exact absurd h (hother thinking signature)
   | text | toolUse=>rfl

theorem follows_closeThinking (h:Follows stream message) : Follows stream message.closeThinking :=
 fun behind hbehind=>h behind (closeThinking_current hbehind).1

theorem follows_completed (h:Follows stream message) : Follows stream.closeThinking message.closeThinking:=by
 intro behind hbehind
 obtain ⟨hcurrent,hkind⟩:=closeThinking_current hbehind
 obtain ⟨ahead,hahead,hjoin,hfull⟩:=h behind hcurrent
 obtain ⟨thinking,signature,hthinking,_⟩ | ⟨_,heq⟩:=closeThinking_cases stream
 · obtain rfl:=Option.some.inj (hahead.symm.trans hthinking)
   cases behind with
   | thinking=>exact absurd hkind (by simp [Block.isThinking])
   | text | toolUse=>exact absurd hjoin (by simp [Block.join])
 · exact ⟨ahead,(congrArg Lane.current heq).trans hahead,hjoin,hfull⟩

/-- The streamed answer has an empty block behind it, or less than the collected one. -/
structure Apart (stream message:Lane) : Prop where
 follows : Follows stream message
 differ : (∃ block∈stream.closed,block.full=false) ∨ weightOf stream.blocks<weightOf message.blocks

theorem closed_put (lane:Lane) (block:Block) : lane.closed ⊆ (lane.put block).closed:=by
 obtain ⟨_,_,_,_,heq⟩ | ⟨_,heq⟩:=put_cases lane block
 · rw [heq]
   exact List.Subset.refl _
 · rw [heq]
   exact List.subset_append_left _ _

theorem closed_closeThinking (lane:Lane) : lane.closed ⊆ lane.closeThinking.closed:=by
 obtain ⟨_,_,_,heq⟩ | ⟨_,heq⟩:=closeThinking_cases lane
 · rw [heq]
   exact List.subset_append_left _ _
 · rw [heq]
   exact List.Subset.refl _

theorem Apart.put (h:Apart stream message) (block:Block)
 (hblock:∀ id name partialJson,block ≠ .toolUse id name partialJson) :
 Apart (stream.put block) (message.put block):=by
 refine ⟨follows_put h.follows block hblock,?_⟩
 have hgain:=gain_le h.follows block
 have hstream:=put_weight stream block
 have hmessage:=put_weight message block
 obtain ⟨blank,hmem,hblank⟩ | hless:=h.differ
 · exact .inl ⟨blank,closed_put stream block hmem,hblank⟩
 · exact .inr (by omega)

theorem Apart.closeMessage (h:Apart stream message) : Apart stream message.closeThinking:=by
 refine ⟨follows_closeThinking h.follows,?_⟩
 rw [closeThinking_blocks]
 exact h.differ

theorem Apart.completed (h:Apart stream message) : Apart stream.closeThinking message.closeThinking:=by
 refine ⟨follows_completed h.follows,?_⟩
 rw [closeThinking_blocks,closeThinking_blocks]
 exact h.differ.imp_left fun ⟨blank,hmem,hblank⟩=>
  ⟨blank,closed_closeThinking stream hmem,hblank⟩

variable {piece:Piece}

theorem Apart.step (h:Apart stream message) (hpiece:piece ≠ .finish) :
 Apart (streamStep stream piece) (messageStep message piece):=by
 cases piece with
 | text text=>
  unfold streamStep messageStep
  dsimp only
  split
  · exact h.closeMessage
  · exact h.put _ (by simp)
 | thinking thinking signature=>exact h.put _ (by simp)
 | completed=>exact h.completed
 | finish=>exact absurd rfl hpiece
 | other=>exact h

theorem Apart.ne (h:Apart stream message) {pieces:List Piece} :
 stream.blocks≠(messageBlocks message pieces).filter Block.full:=by
 intro heq
 have hmore:=messageBlocks_weight message pieces
 obtain ⟨blank,hmem,hblank⟩ | hless:=h.differ
 · have hblocks:blank∈stream.blocks:=List.mem_append_left _ hmem
   rw [heq] at hblocks
   exact absurd (List.of_mem_filter hblocks) (by simp [hblank])
 · have hsame:=congrArg weightOf heq
   rw [weightOf_filter] at hsame
   omega

theorem streamBlocks_step (lane:Lane) (pieces:List Piece) (h:piece ≠ .finish) :
 streamBlocks lane (piece::pieces)=streamBlocks (streamStep lane piece) pieces:=by
 cases piece with
 | finish=>exact absurd rfl h
 | _=>rfl

theorem apart_never (h:Apart stream message) (pieces:List Piece) :
 streamBlocks stream pieces≠(messageBlocks message pieces).filter Block.full:=by
 induction pieces generalizing stream message with
 | nil=>exact h.ne
 | cons piece pieces ih=>
  by_cases hfinish:piece=.finish
  · subst hfinish
    exact h.closeMessage.ne
  · rw [streamBlocks_step stream pieces hfinish]
    exact ih (h.step hfinish)

def blankThinking : Block := .thinking [] none

def Bare (current:Option Block) : Prop := current=none ∨ current=some blankThinking

inductive Tied : Phase → Lane → Lane → Prop where
 | idle (closed:List Block) : Tied .outside ⟨closed.filter Block.full,none⟩ ⟨closed,none⟩
 | text (closed:List Block) {shown:Text} (h:shown≠[]) :
  Tied .outside ⟨closed.filter Block.full,some (.text shown)⟩ ⟨closed,some (.text shown)⟩
 | blank (closed:List Block) {current:Option Block} (h:Bare current) :
  Tied .blank ⟨closed.filter Block.full,some blankThinking⟩ ⟨closed,current⟩
 | filled (closed:List Block) {thought:Text} {signature:Option Text}
  (h:(Block.thinking thought signature).full=true) :
  Tied .filled ⟨closed.filter Block.full,some (.thinking thought signature)⟩
   ⟨closed,some (.thinking thought signature)⟩
 | cut {front closed:List Block} {thought:Text} {signature:Option Text}
  {current:Option Block} (hfull:(Block.thinking thought signature).full=true)
  (hclosed:closed.filter Block.full=front++[.thinking thought signature])
  (h:Bare current) : Tied .cut ⟨front,some (.thinking thought signature)⟩ ⟨closed,current⟩

variable {phase:Phase}

theorem Tied.follows (h:Tied phase stream message) : Follows stream message:=by
 cases h with
 | idle closed=>exact fun behind h=>absurd h (by simp)
 | text closed hshown=>exact fun behind h=>⟨behind,h,by cases h; rfl,id⟩
 | blank closed hbare=>
  intro behind h
  obtain rfl | rfl:=hbare
  · exact absurd h (by simp)
  · obtain rfl:=Option.some.inj h
    exact ⟨_,rfl,rfl,id⟩
 | filled closed hfull=>exact fun behind h=>⟨behind,h,by cases h; rfl,id⟩
 | cut hfull hclosed hbare=>
  intro behind h
  obtain rfl | rfl:=hbare
  · exact absurd h (by simp)
  · obtain rfl:=Option.some.inj h
    exact ⟨_,rfl,rfl,fun _=>hfull⟩

theorem filter_blank (closed:List Block) : (closed++[blankThinking]).filter Block.full=closed.filter Block.full:=by
 rw [List.filter_append]
 exact List.append_nil _

theorem filter_full (closed:List Block) {block:Block} (h:block.full=true) :
 (closed++[block]).filter Block.full=closed.filter Block.full++[block]:=by
 rw [List.filter_append,List.filter_cons_of_pos h]
 rfl

variable {shown:Text}

theorem text_full (h:shown≠[]) : (Block.text shown).full=true:=by
 cases shown with
 | nil=>exact absurd rfl h
 | cons=>rfl

theorem Tied.blocks (h:Tied phase stream message) (hphase:phase ≠ .blank) :
 stream.blocks=message.blocks.filter Block.full:=by
 cases h with
 | idle closed=>simp [Lane.blocks]
 | text closed hshown=>
  exact (filter_full closed (text_full hshown)).symm
 | blank closed hbare=>exact absurd rfl hphase
 | filled closed hfull=>exact (filter_full closed hfull).symm
 | cut hfull hclosed hbare=>
  obtain rfl | rfl:=hbare
  · exact hclosed.symm.trans (congrArg _ (List.append_nil _).symm)
  · exact hclosed.symm.trans (filter_blank _).symm

variable {thought:Text} {signature:Option Text}

theorem blank_eq (h:¬(Block.thinking thought signature).full=true) :
 Block.thinking thought signature=blankThinking:=by
 cases thought with
 | nil=>
  cases signature with
  | none=>rfl
  | some=>exact absurd rfl h
 | cons=>exact absurd rfl h

variable {current:Option Block}

theorem bare_close (h:Bare current) (closed:List Block) :
 ∃ after,(Lane.mk closed current).closeThinking=⟨after,none⟩ ∧ after.filter Block.full=closed.filter Block.full:=by
 obtain rfl | rfl:=h
 · exact ⟨closed,rfl,rfl⟩
 · exact ⟨closed++[blankThinking],rfl,filter_blank closed⟩

theorem bare_putText (h:Bare current) (closed:List Block) (shown:Text)
 : ∃ after,(Lane.mk closed current).put (.text shown) =
  ⟨after,some (.text shown)⟩ ∧ after.filter Block.full=closed.filter Block.full:=by
 obtain rfl | rfl:=h
 · exact ⟨closed,rfl,rfl⟩
 · exact ⟨closed++[blankThinking],rfl,filter_blank closed⟩

theorem bare_putThinking (h:Bare current) (closed:List Block) (thought:Text) (signature:Option Text) :
 (Lane.mk closed current).put (.thinking thought signature) = ⟨closed,some (.thinking thought signature)⟩:=by
 obtain rfl | rfl:=h
 · rfl
 · cases signature <;> rfl

theorem tied_begun (closed:List Block) (thought:Text) (signature:Option Text) :
 Tied (if (Block.thinking thought signature).full then .filled else .blank)
  ⟨closed.filter Block.full,some (.thinking thought signature)⟩
  ⟨closed,some (.thinking thought signature)⟩:=by
 by_cases hfull:(Block.thinking thought signature).full=true
 · rw [if_pos hfull]
   exact .filled closed hfull
 · rw [if_neg hfull,blank_eq hfull]
   exact .blank closed (.inr rfl)

theorem tied_text {front closed:List Block} (h:closed.filter Block.full=front) (hshown:shown≠[])
 : Tied .outside ⟨front,some (.text shown)⟩ ⟨closed,some (.text shown)⟩:=by
 subst h
 exact .text closed hshown

theorem tied_idle {front closed:List Block} (h:closed.filter Block.full=front) :
 Tied .outside ⟨front,none⟩ ⟨closed,none⟩:=by
 subst h
 exact .idle closed

theorem step_text (h:Tied phase stream message) (hshown:shown≠[]) (hphase:phase ≠ .blank) :
 Tied .outside (stream.put (.text shown)) (message.put (.text shown)):=by
 cases h with
 | idle closed=>exact .text closed hshown
 | @text closed before hbefore=>
  refine .text closed fun hempty=>hbefore ?_
  exact (List.append_eq_nil_iff.mp hempty).1
 | blank closed hbare=>exact absurd rfl hphase
 | filled closed hfull=>exact tied_text (filter_full closed hfull) hshown
 | cut hfull hclosed hbare=>
  obtain ⟨after,heq,hafter⟩:=bare_putText hbare _ shown
  rw [heq]
  exact tied_text (hafter.trans hclosed) hshown

theorem step_completed (h:Tied phase stream message) (hphase:phase ≠ .blank) :
 Tied .outside stream.closeThinking message.closeThinking:=by
 cases h with
 | idle closed=>exact .idle closed
 | text closed hshown=>exact .text closed hshown
 | blank closed hbare=>exact absurd rfl hphase
 | filled closed hfull=>exact tied_idle (filter_full closed hfull)
 | cut hfull hclosed hbare=>
  obtain ⟨after,heq,hafter⟩:=bare_close hbare _
  rw [heq]
  exact tied_idle (hafter.trans hclosed)

variable {next:Phase}

theorem step_blankText (h:Tied phase stream message)
 (hnext:advance phase (.text [])=some next) : Tied next stream message.closeThinking:=by
 cases h with
 | idle closed=>
  cases hnext
  exact .idle closed
 | text closed hshown=>
  cases hnext
  exact .text closed hshown
 | blank closed hbare=>
  cases hnext
  obtain ⟨after,heq,hafter⟩:=bare_close hbare closed
  rw [heq,← hafter]
  exact .blank after (.inl rfl)
 | filled closed hfull=>
  cases hnext
  exact .cut hfull (filter_full closed hfull) (.inl rfl)
 | cut hfull hclosed hbare=>
  cases hnext
  obtain ⟨after,heq,hafter⟩:=bare_close hbare _
  rw [heq]
  exact .cut hfull (hafter.trans hclosed) (.inl rfl)

theorem step_thinking (h:Tied phase stream message) (hnext:advance phase (.thinking thought signature)=some next) :
 Tied next (stream.put (.thinking thought signature)) (message.put (.thinking thought signature)):=by
 cases h with
 | idle closed=>
  have hbegun:=tied_begun closed thought signature
  simp only [advance,← apply_ite some] at hnext
  obtain rfl:=Option.some.inj hnext
  exact hbegun
 | @text closed shown hshown=>
  have hbegun:=tied_begun (closed++[.text shown]) thought signature
  rw [filter_full closed (text_full hshown)] at hbegun
  simp only [advance,← apply_ite some] at hnext
  obtain rfl:=Option.some.inj hnext
  exact hbegun
 | blank closed hbare=>
  have hbegun:=tied_begun closed thought signature
  simp only [advance,← apply_ite some] at hnext
  obtain rfl:=Option.some.inj hnext
  rw [bare_putThinking hbare,bare_putThinking (.inr rfl)]
  exact hbegun
 | filled closed hfull=>
  cases hnext
  refine .filled closed ?_
  rw [Block.join_full (rfl:Block.join (.thinking _ _) (.thinking _ _)=some _),hfull]
  rfl
 | @cut front closed before earlier current hfull hclosed hbare=>
  simp only [advance] at hnext
  split at hnext
  · exact absurd hnext (by simp)
  · rename_i hblank
    cases hnext
    obtain ⟨rfl,rfl⟩:=Block.thinking.inj (blank_eq hblank)
    rw [bare_putThinking hbare]
    have hsame:(Lane.mk front (some (.thinking before earlier))).put (.thinking [] none) =
     ⟨front,some (.thinking before earlier)⟩:=by
     unfold Lane.put Block.join
     simp
    rw [hsame]
    exact .cut hfull hclosed (.inr rfl)

theorem Tied.step (h:Tied phase stream message) (hpiece:piece ≠ .finish) (hnext:advance phase piece=some next) :
 Tied next (streamStep stream piece) (messageStep message piece):=by
 cases piece with
 | text shown=>
  unfold streamStep messageStep
  dsimp only
  split
  · rename_i hempty
    obtain rfl:=List.isEmpty_iff.mp hempty
    exact step_blankText h hnext
  · rename_i hshown
    have hphase:phase ≠ .blank:=by
     rintro rfl
     rw [advance,if_neg hshown] at hnext
     exact absurd hnext (by simp)
    have houtside:next=.outside:=by
     cases phase <;> simp_all [advance]
    subst houtside
    exact step_text h (fun hempty=>hshown (List.isEmpty_iff.mpr hempty)) hphase
 | thinking thought signature=>exact step_thinking h hnext
 | completed=>
  have hphase:phase ≠ .blank:=by
   rintro rfl
   exact absurd hnext (by simp [advance])
  have houtside:next=.outside:=by
   cases phase <;> simp_all [advance]
  subst houtside
  exact step_completed h hphase
 | finish=>exact absurd rfl hpiece
 | other=>
  have hsame:next=phase:=by
   cases phase <;> simp_all [advance]
  subst hsame
  exact h

theorem Tied.leave_blank (h:Tied .blank stream message) (shown:Text) :
 Apart (stream.put (.text shown)) (message.put (.text shown)) ∧
  Apart stream.closeThinking message.closeThinking:=by
 have hfollows:=h.follows
 cases h with
 | blank closed hbare=>
  have hbehind:blankThinking∈closed.filter Block.full++[blankThinking] :=
   List.mem_append_right _ (List.mem_singleton_self _)
  exact ⟨⟨follows_put hfollows _ (by simp),.inl ⟨_,hbehind,rfl⟩⟩,
   ⟨follows_completed hfollows,.inl ⟨_,hbehind,rfl⟩⟩⟩

theorem Tied.leave_cut (h:Tied .cut stream message) (hfull:(Block.thinking thought signature).full=true) :
 Apart (stream.put (.thinking thought signature)) (message.put (.thinking thought signature)):=by
 have hfollows:=h.follows
 have hweight:=congrArg weightOf (h.blocks (by simp))
 rw [weightOf_filter] at hweight
 refine ⟨follows_put hfollows _ (by simp),.inr ?_⟩
 rw [put_weight,put_weight,hweight]
 cases h with
 | @cut front closed before earlier current hbefore hclosed hbare=>
  have hheavy:=Block.weight_of_full hfull
  have hstream:gain ⟨front,some (.thinking before earlier)⟩ (.thinking thought signature) =
   (Block.thinking thought signature).size := if_pos (by rw [hbefore]; rfl)
  have hmessage:gain ⟨closed,current⟩ (.thinking thought signature) = (Block.thinking thought signature).weight:=by
   obtain rfl | rfl:=hbare <;> rfl
  omega

theorem Tied.leave (h:Tied phase stream message) (hpiece:piece ≠ .finish) (hnone:advance phase piece=none) :
 Apart (streamStep stream piece) (messageStep message piece):=by
 cases piece with
 | text shown=>
  have hshown:¬shown.isEmpty=true:=by
   intro hempty
   cases phase <;> simp_all [advance]
  have hphase:phase=.blank:=by
   cases phase <;> simp_all [advance]
  subst hphase
  unfold streamStep messageStep
  dsimp only
  rw [if_neg hshown,if_neg hshown]
  exact (h.leave_blank shown).1
 | thinking thought signature=>
  have hcut:phase=.cut ∧ (Block.thinking thought signature).full=true:=by
   cases hfull:(Block.thinking thought signature).full <;> cases phase <;>
    simp_all [advance]
  obtain ⟨rfl,hfull⟩:=hcut
  exact h.leave_cut hfull
 | completed=>
  have hphase:phase=.blank:=by
   cases phase <;> simp_all [advance]
  subst hphase
  exact (h.leave_blank []).2
 | finish=>exact absurd rfl hpiece
 | other=>cases phase <;> exact absurd hnone (by simp [advance])

/-- No thinking block with something in it is being written. -/
def Calm (lane:Lane) : Prop :=
 ∀ thought signature,lane.current=some (.thinking thought signature) → (Block.thinking thought signature).full=false

theorem calm_closeThinking (lane:Lane) : Calm lane.closeThinking :=
 fun _ _ hcurrent=>absurd (closeThinking_current hcurrent).2 (by simp [Block.isThinking])

theorem gain_calm (h:Calm lane) (thought:Text) (signature:Option Text) :
 gain lane (.thinking thought signature)=(Block.thinking thought signature).weight:=by
 unfold gain
 split
 · rename_i current hcurrent
   cases current with
   | thinking before earlier=>
    rw [h before earlier hcurrent,Bool.and_false]
    rfl
   | text | toolUse=>rfl
 · rfl

theorem text_heavier (lane:Lane) (h:shown≠[]) : 0<gain lane (.text shown):=by
 have hsize:0<(Block.text shown).size:=List.length_pos_iff.mpr h
 have hweight:=size_le_weight (.text shown)
 unfold gain
 split
 · split <;> omega
 · omega

theorem closeThinking_filter (lane:Lane) :
 lane.closeThinking.blocks.filter Block.full=lane.blocks.filter Block.full:=by
 rw [closeThinking_blocks]

theorem put_blank (h:Calm lane) :
 (lane.put blankThinking).blocks.filter Block.full=lane.blocks.filter Block.full ∧
  Calm (lane.put blankThinking):=by
 obtain ⟨closed,current⟩:=lane
 have hblank:Calm ⟨closed,some blankThinking⟩:=by
  intro thought signature hcurrent
  rw [← Option.some.inj hcurrent]
  rfl
 cases current with
 | none=>
  refine ⟨(filter_blank closed).trans ?_,hblank⟩
  exact congrArg (List.filter Block.full) (List.append_nil closed).symm
 | some current=>
  cases current with
  | thinking before earlier=>
   have hbefore:=blank_eq (Bool.eq_false_iff.mp (h before earlier rfl))
   rw [hbefore]
   exact ⟨rfl,hblank⟩
  | text shown=>
   refine ⟨filter_blank (closed++[.text shown]),fun thought signature hcurrent=>?_⟩
   rw [← Option.some.inj hcurrent]
   rfl
  | toolUse id name partialJson=>
   refine ⟨filter_blank (closed++[.toolUse id name partialJson]),
    fun thought signature hcurrent=>?_⟩
   rw [← Option.some.inj hcurrent]
   rfl

theorem messageBlocks_ne (lane:Lane) (piece:Piece) (pieces:List Piece)
 (h:weightOf lane.blocks<weightOf (messageStep lane piece).blocks) :
 (messageBlocks lane (piece::pieces)).filter Block.full≠lane.blocks.filter Block.full:=by
 intro heq
 have hmore:=messageBlocks_weight (messageStep lane piece) pieces
 have hsame:=congrArg weightOf heq
 rw [weightOf_filter,weightOf_filter] at hsame
 change weightOf (messageBlocks (messageStep lane piece) pieces)=_ at hsame
 omega

theorem quiet_cons (piece:Piece) (pieces:List Piece) : Quiet (piece::pieces) ↔ Quiet [piece] ∧ Quiet pieces:=by
 unfold Quiet
 rw [List.forall_mem_cons,List.forall_mem_singleton]

theorem quiet_iff (h:Calm lane) (pieces:List Piece) :
 (messageBlocks lane pieces).filter Block.full=lane.blocks.filter Block.full ↔ Quiet pieces:=by
 induction pieces generalizing lane with
 | nil=>exact iff_of_true rfl (by simp [Quiet])
 | cons piece pieces ih=>
  have hkept:∀ {next:Lane},messageStep lane piece=next → Calm next →
   next.blocks.filter Block.full=lane.blocks.filter Block.full → Quiet [piece] →
   ((messageBlocks lane (piece::pieces)).filter Block.full =
    lane.blocks.filter Block.full ↔ Quiet (piece::pieces)):=by
   rintro _ rfl hcalm hsame hquiet
   rw [quiet_cons,← ih hcalm,hsame]
   exact (and_iff_right hquiet).symm
  have hloud:weightOf lane.blocks<weightOf (messageStep lane piece).blocks →
   ¬Quiet [piece] → ((messageBlocks lane (piece::pieces)).filter Block.full =
    lane.blocks.filter Block.full ↔ Quiet (piece::pieces)):=by
   intro hweight hquiet
   refine iff_of_false (messageBlocks_ne lane piece pieces hweight) fun hall=>?_
   exact hquiet ((quiet_cons piece pieces).mp hall).1
  have hclosed:messageStep lane piece=lane.closeThinking → Quiet [piece] →
   ((messageBlocks lane (piece::pieces)).filter Block.full =
    lane.blocks.filter Block.full ↔ Quiet (piece::pieces)) :=
   fun hstep=>hkept hstep (calm_closeThinking lane) (closeThinking_filter lane)
  cases piece with
  | text shown=>
   by_cases hshown:shown=[]
   · subst hshown
     exact hclosed rfl (by simp [Quiet])
   · refine hloud ?_ (by simp [Quiet,hshown])
     have hput:=put_weight lane (.text shown)
     have hgain:=text_heavier lane hshown
     have hstep:messageStep lane (.text shown)=lane.put (.text shown) :=
      if_neg fun hempty=>hshown (List.isEmpty_iff.mp hempty)
     rw [hstep]
     omega
  | thinking thought signature=>
   by_cases hfull:(Block.thinking thought signature).full=true
   · refine hloud ?_ (by simp [Quiet,hfull])
     have hput:=put_weight lane (.thinking thought signature)
     have hgain:=gain_calm h thought signature
     have hweight:=Block.weight_of_full hfull
     change _<weightOf (lane.put _).blocks
     omega
   · obtain ⟨rfl,rfl⟩:=Block.thinking.inj (blank_eq hfull)
     exact hkept rfl (put_blank h).2 (put_blank h).1 (by simp [Quiet,Block.full])
  | completed | finish=>exact hclosed rfl (by simp [Quiet])
  | other=>exact hkept rfl h rfl (by simp [Quiet])

theorem lanes_agree_iff (h:Tied phase stream message) {pieces:List Piece} (hend:.finish∈pieces) :
 streamBlocks stream pieces=(messageBlocks message pieces).filter Block.full ↔ Agrees phase pieces:=by
 induction pieces generalizing phase stream message with
 | nil=>exact absurd hend (by simp)
 | cons piece pieces ih=>
  by_cases hfinish:piece=.finish
  · subst hfinish
    have hquiet:=quiet_iff (calm_closeThinking message) pieces
    rw [closeThinking_filter] at hquiet
    have hagrees:Agrees phase (.finish::pieces) ↔ phase ≠ .blank ∧ Quiet pieces:=by
     cases phase <;> rfl
    rw [hagrees,← hquiet]
    change stream.blocks=(messageBlocks message.closeThinking pieces).filter Block.full ↔ _
    by_cases hphase:phase=.blank
    · subst hphase
      refine iff_of_false (fun heq=>?_) fun hboth=>hboth.1 rfl
      cases h with
      | blank closed hbare=>
       have hmem:blankThinking∈closed.filter Block.full++[blankThinking] :=
        List.mem_append_right _ (List.mem_singleton_self _)
       change closed.filter Block.full++[blankThinking]=_ at heq
       rw [heq] at hmem
       exact absurd (List.of_mem_filter hmem) (by decide)
    · rw [h.blocks hphase]
      exact ⟨fun heq=>⟨hphase,heq.symm⟩,fun hboth=>hboth.2.symm⟩
  · have hrest : .finish∈pieces:=(List.mem_cons.mp hend).resolve_left (Ne.symm hfinish)
    have hagrees:Agrees phase (piece::pieces) ↔
     match advance phase piece with
     | some next=>Agrees next pieces
     | none=>False:=by
     cases piece with
     | finish=>exact absurd rfl hfinish
     | _=>cases phase <;> rfl
    rw [hagrees,streamBlocks_step stream pieces hfinish]
    change _=(messageBlocks (messageStep message piece) pieces).filter Block.full ↔ _
    cases hnext:advance phase piece with
    | none=>exact iff_of_false (apart_never (h.leave hfinish hnext) pieces) id
    | some next=>exact ih (h.step hfinish hnext) hrest

end CursorProxy.BlockLanes
