import CursorProxy.CodexSeen
import CursorProxy.KeyedEntries

/-! Each block that was shown is open, or it was recorded, or it is gone. What one step of the
reducer does to such an account is said by `Carries`, and composed. -/
namespace CursorProxy.CodexAccounts
open CodexReducer ReducerState CodexSeen

inductive Trails : Seen → Seen → Prop where
 | text (said:String) : Trails (.text said) (.text said)
 | tool (id name lead args:String) : Trails (.tool id name args) (.tool id name (lead++args))

def weight : Seen → ℕ
 | .text said=>said.length
 | .tool _ _ _=>1

def size : Seen → ℕ
 | .text said=>said.length
 | .tool _ _ args=>args.length

theorem Trails.refl (seen:Seen) : Trails seen seen:=by
 cases seen with
 | text said=>exact .text said
 | tool id name args=>simpa using Trails.tool id name "" args

variable {seen held:Seen}

theorem Trails.weight (h:Trails seen held) : weight seen=weight held:=by
 cases h <;> rfl

theorem Trails.counts (h:Trails seen held) : seen.counts=held.counts:=by
 cases h <;> rfl

theorem Trails.size (h:Trails seen held) : size seen ≤ size held:=by
 cases h with
 | text said=>exact le_rfl
 | tool id name lead args=>
  simp only [CodexAccounts.size,String.length_append]
  exact Nat.le_add_left _ _

theorem Trails.eq_of_size (h:Trails seen held) (hsize:CodexAccounts.size seen=CodexAccounts.size held) : seen=held:=by
 cases h with
 | text said=>rfl
 | tool id name lead args=>
  simp only [CodexAccounts.size,String.length_append] at hsize
  have hlead:lead = "" := String.length_eq_zero_iff.mp (by omega)
  rw [hlead,String.empty_append]

theorem counts_iff (seen:Seen) : seen.counts=false ↔ weight seen=0:=by
 cases seen with
 | text said=>
  unfold Seen.counts weight
  rw [Bool.not_eq_false',String.isEmpty_iff,String.length_eq_zero_iff]
 | tool id name args=>simp [Seen.counts,weight]

theorem size_of_not_counts (h:seen.counts=false) : size seen=0:=by
 cases seen with
 | text said=>exact (counts_iff _).mp h
 | tool id name args=>exact absurd h (by simp [Seen.counts])

theorem Trails.eq_of_not_counts (h:Trails seen held) (hcounts:held.counts=false) : seen=held :=
 h.eq_of_size ((size_of_not_counts (h.counts.trans hcounts)).trans (size_of_not_counts hcounts).symm)

/-- A block with what the client has seen of it and what the reducer holds of it. -/
structure Told where
 index : ℕ
 seen : Seen
 held : Seen

def Told.view (told:Told) : ℕ×Seen := (told.index,told.seen)
def Told.block (told:Told) : ℕ×Seen := (told.index,told.held)

structure Ledger where
 gone : Multiset (ℕ×Seen)
 kept : Multiset Told
 opened : Multiset Told

/-- Nothing that counts is gone, and of each other block just that was seen which is held. -/
structure Ledger.Clean (ledger:Ledger) : Prop where
 gone : ∀ entry∈ledger.gone,entry.2.counts=false
 kept : ∀ told∈ledger.kept,told.seen=told.held
 opened : ∀ told∈ledger.opened,told.seen=told.held

/-- What an open block holds of what was said of it. -/
def heldOf : BlockState → ℕ×Seen
 | .text index textAccum=>(index,.text textAccum)
 | .tool block=>
  (block.index,.tool block.callId block.name (if block.emittedArgs then block.argsAccum else ""))

def openBlocks (blocks:AList fun _ : ℕ=>BlockState) : Multiset (ℕ×Seen) :=
 (blocks.entries.map fun entry=>heldOf entry.2 : List (ℕ×Seen))

def recorded (items:AList fun _ : ℕ=>ResponsesInputItem) : Multiset Seen :=
 (items.entries.filterMap fun entry=>recordOf entry.2 : List Seen)

structure Account (state:ReducerState) (ledger:Ledger) : Prop where
 shown : (shown state.out : Multiset (ℕ×Seen)) = ledger.gone+(ledger.kept+ledger.opened).map Told.view
 blocks : openBlocks state.blocksByOutputIndex=ledger.opened.map Told.block
 items : recorded state.outputItemsByIndex = (ledger.kept.map Told.held).filter fun seen=>seen.counts=true
 trails : ∀ told∈ledger.kept+ledger.opened,Trails told.seen told.held
 distinct : ((CodexSeen.shown state.out).map Prod.fst).Nodup
 past : ∀ entry∈CodexSeen.shown state.out,entry.1<state.anthropicIndex
 quiet : ∀ index,state.anthropicIndex ≤ index → textOf state.out index = "" ∧ argsOf state.out index = ""

/-- A step keeps the accounts, and it keeps them clean just if `keeps`. -/
def Carries (state next:ReducerState) (keeps:Prop) : Prop :=
 ∀ ledger,Account state ledger → ∃ later,Account next later ∧ (later.Clean ↔ ledger.Clean ∧ keeps)

variable {state next last:ReducerState} {keeps also:Prop}

theorem Carries.trans (h:Carries state next keeps) (h':Carries next last also) : Carries state last (keeps ∧ also):=by
 intro ledger haccount
 obtain ⟨middle,hmiddle, hclean⟩:=h ledger haccount
 obtain ⟨later,hlater,hclean'⟩:=h' middle hmiddle
 exact ⟨later,hlater,by rw [hclean', hclean,and_assoc]⟩

theorem Carries.of_iff (h:Carries state next keeps) (hiff:keeps ↔ also) : Carries state next also:=by
 rwa [← propext hiff]

theorem sum_eq_forall {f g:Told → ℕ} (told:Multiset Told) (hle:∀ one∈told,f one ≤ g one)
 (hsum:(told.map f).sum=(told.map g).sum) : ∀ one∈told,f one=g one:=by
 induction told using Multiset.induction_on with
 | empty=>exact fun _ h=>absurd h (Multiset.notMem_zero _)
 | cons first rest ih=>
  rw [Multiset.map_cons,Multiset.map_cons,Multiset.sum_cons,Multiset.sum_cons] at hsum
  have hrest:(rest.map f).sum ≤ (rest.map g).sum :=
   Multiset.sum_map_le_sum_map f g fun one h=>hle one (Multiset.mem_cons_of_mem h)
  have hfirst:=hle first (Multiset.mem_cons_self first rest)
  intro one hone
  rcases Multiset.mem_cons.mp hone with rfl | hmem
  · omega
  · exact ih (fun other h=>hle other (Multiset.mem_cons_of_mem h)) (by omega) one hmem

theorem sum_filter (measure:Seen → ℕ) (hmeasure:∀ seen,seen.counts=false → measure seen=0) (seen:Multiset Seen) :
 ((seen.filter fun one=>one.counts=true).map measure).sum=(seen.map measure).sum:=by
 induction seen using Multiset.induction_on with
 | empty=>rfl
 | cons first rest ih=>
  rw [Multiset.map_cons,Multiset.sum_cons,← ih]
  by_cases hfirst:first.counts=true
  · rw [Multiset.filter_cons_of_pos rest hfirst,Multiset.map_cons,Multiset.sum_cons]
  · rw [Multiset.filter_cons_of_neg rest hfirst,hmeasure first (Bool.eq_false_iff.mpr hfirst),
     Nat.zero_add]

theorem Account.seen_iff {ledger:Ledger} (h:Account state ledger) :
 (((CodexSeen.shown state.out : Multiset (ℕ×Seen)).map Prod.snd).filter
  fun seen=>seen.counts=true)=recorded state.outputItemsByIndex ↔
  ledger.Clean ∧ ∀ told∈ledger.opened,told.held.counts=false:=by
 have hseen:(CodexSeen.shown state.out : Multiset (ℕ×Seen)).map Prod.snd =
  ledger.gone.map Prod.snd+(ledger.kept.map Told.seen+ledger.opened.map Told.seen):=by
  rw [h.shown,Multiset.map_add,Multiset.map_map,Multiset.map_add]
  rfl
 rw [hseen,h.items]
 constructor
 · intro heq
   have hsums:∀ measure:Seen → ℕ,(∀ seen,seen.counts=false → measure seen=0) →
    ((ledger.gone.map Prod.snd).map measure).sum +
     (((ledger.kept.map Told.seen).map measure).sum + ((ledger.opened.map Told.seen).map measure).sum) =
     ((ledger.kept.map Told.held).map measure).sum:=by
    intro measure hmeasure
    have hsum:=congrArg (fun seen=>(Multiset.map measure seen).sum) heq
    rw [sum_filter measure hmeasure,sum_filter measure hmeasure] at hsum
    rwa [Multiset.map_add,Multiset.map_add,Multiset.sum_add,Multiset.sum_add] at hsum
   have hweights:=hsums weight fun seen hcounts=>(counts_iff seen).mp hcounts
   have hkept:((ledger.kept.map Told.seen).map weight).sum = ((ledger.kept.map Told.held).map weight).sum:=by
    rw [Multiset.map_map,Multiset.map_map]
    exact congrArg Multiset.sum (Multiset.map_congr rfl fun told hmem=>
     (h.trails told (Multiset.mem_add.mpr (Or.inl hmem))).weight)
   have hgone:∀ entry∈ledger.gone,entry.2.counts=false:=by
    intro entry hmem
    have hle:=Multiset.single_le_sum (fun _ _=>Nat.zero_le _) (weight entry.2)
     (Multiset.mem_map_of_mem weight (Multiset.mem_map_of_mem Prod.snd hmem))
    exact (counts_iff _).mpr (by omega)
   have hopened:∀ told∈ledger.opened,told.held.counts=false:=by
    intro told hmem
    have hle:=Multiset.single_le_sum (fun _ _=>Nat.zero_le _) (weight told.seen)
     (Multiset.mem_map_of_mem weight (Multiset.mem_map_of_mem Told.seen hmem))
    have hcounts:=(counts_iff told.seen).mpr (by omega)
    exact (h.trails told (Multiset.mem_add.mpr (Or.inr hmem))).counts.symm.trans hcounts
   have htrails:∀ told∈ledger.kept,size told.seen ≤ size told.held:=fun told hmem=>
    (h.trails told (Multiset.mem_add.mpr (Or.inl hmem))).size
   have hsizes:=hsums size fun seen hcounts=>size_of_not_counts hcounts
   rw [Multiset.map_map,Multiset.map_map,Multiset.map_map,Multiset.map_map] at hsizes
   have hgoneSize:(ledger.gone.map (size ∘ Prod.snd)).sum=0:=by
    refine Multiset.sum_eq_zero fun n hn=>?_
    obtain ⟨entry,hmem,rfl⟩:=Multiset.mem_map.mp hn
    exact size_of_not_counts (hgone entry hmem)
   have hopenedSame:∀ told∈ledger.opened,told.seen=told.held:=fun told hmem=>
    (h.trails told (Multiset.mem_add.mpr (Or.inr hmem))).eq_of_not_counts (hopened told hmem)
   have hopenedSize:(ledger.opened.map (size ∘ Told.seen)).sum=0:=by
    refine Multiset.sum_eq_zero fun n hn=>?_
    obtain ⟨told,hmem,rfl⟩:=Multiset.mem_map.mp hn
    exact size_of_not_counts ((congrArg _ (hopenedSame told hmem)).trans (hopened told hmem))
   have hkeptSize:=sum_eq_forall ledger.kept htrails (by
    change (ledger.kept.map (size ∘ Told.seen)).sum=(ledger.kept.map (size ∘ Told.held)).sum
    omega)
   exact ⟨⟨hgone,fun told hmem=>(h.trails told (Multiset.mem_add.mpr (Or.inl hmem))).eq_of_size
    (hkeptSize told hmem),hopenedSame⟩,hopened⟩
 · rintro ⟨hclean,hopened⟩
   have hgone:((ledger.gone.map Prod.snd).filter fun seen=>seen.counts=true)=0:=by
    refine Multiset.filter_eq_nil.mpr fun seen hmem=>?_
    obtain ⟨entry,hentry,rfl⟩:=Multiset.mem_map.mp hmem
    exact Bool.eq_false_iff.mp (hclean.gone entry hentry)
   have hopenedNone : ((ledger.opened.map Told.seen).filter fun seen=>seen.counts=true)=0:=by
    refine Multiset.filter_eq_nil.mpr fun seen hmem=>?_
    obtain ⟨told,htold,rfl⟩:=Multiset.mem_map.mp hmem
    rw [hclean.opened told htold]
    exact Bool.eq_false_iff.mp (hopened told htold)
   have hkept:ledger.kept.map Told.seen=ledger.kept.map Told.held :=
    Multiset.map_congr rfl hclean.kept
   rw [Multiset.filter_add,Multiset.filter_add,hgone,hopenedNone,hkept,zero_add,add_zero]

variable {key:ℕ} {block:BlockState}

theorem openBlocks_take {blocks:AList fun _ : ℕ=>BlockState}
 (h:blocks.lookup key=some block) :
 openBlocks blocks=heldOf block ::ₘ openBlocks (blocks.erase key) :=
 Multiset.coe_eq_coe.mpr ((KeyedEntries.entries_take h).map fun entry=>heldOf entry.2)

theorem openBlocks_insert (blocks:AList fun _ : ℕ=>BlockState) (key:ℕ)
 (block:BlockState) :
 openBlocks (blocks.insert key block)=heldOf block ::ₘ openBlocks (blocks.erase key) := rfl

theorem recorded_take {items:AList fun _ : ℕ=>ResponsesInputItem} {item:ResponsesInputItem}
 (h:items.lookup key=some item) :
 recorded items=(recordOf item).toList+recorded (items.erase key):=by
 have hperm:=(KeyedEntries.entries_take h).filterMap fun entry=>recordOf entry.2
 refine (Multiset.coe_eq_coe.mpr hperm).trans ?_
 cases hrecord:recordOf item <;> simp [recorded,hrecord]

theorem recorded_insert (items:AList fun _ : ℕ=>ResponsesInputItem) (key:ℕ)
 (item:ResponsesInputItem) :
 recorded (items.insert key item)=(recordOf item).toList+recorded (items.erase key):=by
 have htake:=recorded_take (AList.lookup_insert items (a := key) (b := item))
 rwa [KeyedEntries.erase_insert] at htake

/-- An event that neither starts a block nor adds to one. -/
def Mute (event:ReducerEvent) : Prop := ∀ index,Within index event

variable {event:ReducerEvent}

theorem shown_mute (out:List ReducerEvent) (h:Mute event) : shown (out++[event])=shown out:=by
 rw [shown_within out (h 0)]
 refine (List.map_congr_left fun entry _=>?_).trans (List.map_id _)
 exact hear_ne (h (entry.1+1)) (Nat.succ_ne_self entry.1).symm

theorem textOf_mute (out:List ReducerEvent) (h:Mute event) (index:ℕ) :
 textOf (out++[event]) index=textOf out index:=by
 rw [textOf_append,textOf_within (h (index+1)) (Nat.succ_ne_self index).symm]
 exact String.append_empty

theorem argsOf_mute (out:List ReducerEvent) (h:Mute event) (index:ℕ) :
 argsOf (out++[event]) index=argsOf out index:=by
 rw [argsOf_append,argsOf_within (h (index+1)) (Nat.succ_ne_self index).symm]
 exact String.append_empty

theorem carries_mute (events:List ReducerEvent) (hmute:∀ event∈events,Mute event) (hout:next.out=state.out++events)
 (hblocks:openBlocks next.blocksByOutputIndex=openBlocks state.blocksByOutputIndex)
 (hitems:recorded next.outputItemsByIndex=recorded state.outputItemsByIndex)
 (hindex:state.anthropicIndex ≤ next.anthropicIndex) : Carries state next True:=by
 have hsame:shown next.out=shown state.out ∧ ∀ index,
  textOf next.out index=textOf state.out index ∧ argsOf next.out index=argsOf state.out index:=by
  rw [hout]
  clear hout
  induction events using List.reverseRecOn with
  | nil=>
   rw [List.append_nil]
   exact ⟨rfl,fun _=>⟨rfl,rfl⟩⟩
  | append_singleton events event ih=>
   have hlast:=hmute event (List.mem_append_right _ List.mem_cons_self)
   obtain ⟨hshown,hpieces⟩:=ih fun other h=>hmute other (List.mem_append_left _ h)
   rw [← List.append_assoc]
   exact ⟨(shown_mute _ hlast).trans hshown,fun index=>
    ⟨(textOf_mute _ hlast index).trans (hpieces index).1,(argsOf_mute _ hlast index).trans (hpieces index).2⟩⟩
 obtain ⟨hshown,hpieces⟩:=hsame
 intro ledger h
 refine ⟨ledger,⟨?_,?_,?_,h.trails,?_,?_,?_⟩,by rw [and_true]⟩
 · rw [hshown]
   exact h.shown
 · exact hblocks.trans h.blocks
 · exact hitems.trans h.items
 · rw [hshown]
   exact h.distinct
 · rw [hshown]
   exact fun entry hentry=>(h.past entry hentry).trans_le hindex
 · intro index hle
   rw [(hpieces index).1,(hpieces index).2]
   exact h.quiet index (hindex.trans hle)

theorem carries_same (hout:next.out=state.out)
 (hblocks:openBlocks next.blocksByOutputIndex=openBlocks state.blocksByOutputIndex)
 (hitems:recorded next.outputItemsByIndex=recorded state.outputItemsByIndex)
 (hindex:state.anthropicIndex ≤ next.anthropicIndex) : Carries state next True :=
 carries_mute [] (fun _ h=>absurd h List.not_mem_nil) (hout.trans (List.append_nil _).symm)
  hblocks hitems hindex

theorem map_take {α β:Type} {f:α → β} {many:Multiset α} {one:β} {others:Multiset β} (h:many.map f=one ::ₘ others) :
 ∃ first rest,many=first ::ₘ rest ∧ f first=one ∧ rest.map f=others:=by
 have hmem:one∈many.map f:=h ▸ Multiset.mem_cons_self one others
 obtain ⟨first,hfirst,rfl⟩:=Multiset.mem_map.mp hmem
 obtain ⟨rest,rfl⟩:=Multiset.exists_cons_of_mem hfirst
 rw [Multiset.map_cons] at h
 exact ⟨first,rest,rfl,rfl,(Multiset.cons_inj_right _).mp h⟩

theorem Account.taken {ledger:Ledger} (h:Account state ledger)
 (hblock:state.blocksByOutputIndex.lookup key=some block) :
 ∃ told rest,ledger.opened=told ::ₘ rest ∧ told.block=heldOf block ∧
  rest.map Told.block=openBlocks (state.blocksByOutputIndex.erase key) :=
 map_take (h.blocks.symm.trans (openBlocks_take hblock))

theorem carries_drop (state:ReducerState) (key:ℕ) :
 Carries state { state with blocksByOutputIndex := state.blocksByOutputIndex.erase key }
  (∀ block,state.blocksByOutputIndex.lookup key=some block →
   (heldOf block).2.counts=false):=by
 cases hblock:state.blocksByOutputIndex.lookup key with
 | none=>
  have hsame:=congrArg openBlocks (KeyedEntries.erase_of_lookup_none hblock)
  refine Carries.of_iff (carries_same rfl hsame rfl le_rfl) (iff_of_true trivial ?_)
  exact fun _ hsome=>absurd hsome (Option.some_ne_none _).symm
 | some block=>
  intro ledger h
  obtain ⟨told,rest,hopened,htold,hrest⟩:=h.taken hblock
  have hheld:told.held=(heldOf block).2:=congrArg Prod.snd htold
  have htrails:=h.trails
  rw [hopened] at htrails
  refine ⟨⟨told.view ::ₘ ledger.gone,ledger.kept,rest⟩,
   ⟨?_,hrest.symm,h.items,fun one hone=>htrails one ?_,h.distinct,h.past,h.quiet⟩,?_⟩
  · change (CodexSeen.shown state.out : Multiset (ℕ×Seen))=_
    rw [h.shown,hopened,Multiset.add_cons,Multiset.map_cons,Multiset.add_cons,Multiset.cons_add]
  · rw [Multiset.add_cons]
    exact Multiset.mem_cons_of_mem hone
  · have hown:Trails told.seen told.held :=
     htrails told (Multiset.mem_add.mpr (Or.inr (Multiset.mem_cons_self told rest)))
    constructor
    · intro hclean
      have hcounts:(heldOf block).2.counts=false:=by
       rw [← hheld,← hown.counts]
       exact hclean.gone told.view (Multiset.mem_cons_self _ _)
      refine ⟨⟨fun entry hentry=>hclean.gone entry (Multiset.mem_cons_of_mem hentry),
       hclean.kept,fun one hone=>?_⟩,fun other hother=>?_⟩
      · rw [hopened] at hone
        rcases Multiset.mem_cons.mp hone with rfl | hmem
        · exact hown.eq_of_not_counts ((congrArg _ hheld).trans hcounts)
        · exact hclean.opened one hmem
      · rw [← Option.some.inj hother]
        exact hcounts
    · rintro ⟨hclean,hcounts⟩
      refine ⟨fun entry hentry=>?_,hclean.kept,fun one hone=>hclean.opened one ?_⟩
      · rcases Multiset.mem_cons.mp hentry with rfl | hmem
        · exact hown.counts.trans ((congrArg _ hheld).trans (hcounts block rfl))
        · exact hclean.gone entry hmem
      · rw [hopened]
        exact Multiset.mem_cons_of_mem hone

def Answered (state:ReducerState) (key:ℕ) : Prop :=
 ∃ item,state.outputItemsByIndex.lookup key=some item ∧ (recordOf item).isSome

theorem carries_unrecord (state:ReducerState) (key:ℕ) :
 Carries state { state with outputItemsByIndex := state.outputItemsByIndex.erase key }
  (¬Answered state key):=by
 by_cases hanswered:Answered state key
 · obtain ⟨item,hitem,hsome⟩:=hanswered
   obtain ⟨held,hheld⟩:=Option.isSome_iff_exists.mp hsome
   intro ledger h
   have hrecorded:=h.items.symm.trans (recorded_take hitem)
   rw [hheld] at hrecorded
   change _=({held} : Multiset Seen)+_ at hrecorded
   rw [Multiset.singleton_add] at hrecorded
   have hmem:held∈(ledger.kept.map Told.held).filter fun seen=>seen.counts=true :=
    hrecorded ▸ Multiset.mem_cons_self _ _
   obtain ⟨hmem,hcounts⟩:=Multiset.mem_filter.mp hmem
   obtain ⟨told,htold,rfl⟩:=Multiset.mem_map.mp hmem
   obtain ⟨rest,hkept⟩:=Multiset.exists_cons_of_mem htold
   have htrails:=h.trails
   rw [hkept] at htrails hrecorded
   rw [Multiset.map_cons,Multiset.filter_cons_of_pos (p := fun seen : Seen=>seen.counts=true)
    _ hcounts] at hrecorded
   refine ⟨⟨told.view ::ₘ ledger.gone,rest,ledger.opened⟩,⟨?_,h.blocks,
    ((Multiset.cons_inj_right _).mp hrecorded).symm,fun one hone=>htrails one ?_,h.distinct,
    h.past,h.quiet⟩,?_⟩
   · change (CodexSeen.shown state.out : Multiset (ℕ×Seen))=_
     rw [h.shown,hkept,Multiset.cons_add,Multiset.map_cons,Multiset.add_cons,Multiset.cons_add]
   · rw [Multiset.cons_add]
     exact Multiset.mem_cons_of_mem hone
   · have hown:Trails told.seen told.held :=
      htrails told (Multiset.mem_add.mpr (Or.inl (Multiset.mem_cons_self told rest)))
     refine iff_of_false (fun hclean=>?_) fun hboth=>hboth.2 ⟨item,hitem,hsome⟩
     have hlost:=hclean.gone told.view (Multiset.mem_cons_self _ _)
     exact absurd (hown.counts.symm.trans hlost) (by simp [hcounts])
 · refine Carries.of_iff (carries_same rfl rfl ?_ le_rfl) (iff_of_true trivial hanswered)
   cases hitem:state.outputItemsByIndex.lookup key with
   | none=>exact congrArg recorded (KeyedEntries.erase_of_lookup_none hitem)
   | some item=>
    have hnone:recordOf item=none :=
     Option.not_isSome_iff_eq_none.mp fun hsome=>hanswered ⟨item,hitem,hsome⟩
    rw [recorded_take hitem,hnone]
    exact (zero_add _).symm

inductive Starts (index:ℕ) : ReducerEvent → Seen → Prop where
 | text : Starts index (.textStart index) (.text "")
 | tool (id name:String) : Starts index (.toolStart index id name) (.tool id name "")

variable {index:ℕ} {out:List ReducerEvent}

theorem Starts.shown (h:Starts index event seen) (hquiet:textOf out index = "" ∧ argsOf out index = "") :
 CodexSeen.shown (out++[event])=CodexSeen.shown out++[(index,seen)]:=by
 have hsame:(CodexSeen.shown out).map (hear event)=CodexSeen.shown out:=by
  refine (List.map_congr_left fun entry _=>?_).trans (List.map_id _)
  cases h <;> rfl
 rw [shown_append,hsame]
 cases h with
 | text=>
  unfold blockOf
  dsimp only
  rw [textOf_append,hquiet.1]
  rfl
 | tool id name=>
  unfold blockOf
  dsimp only
  rw [argsOf_append,hquiet.2]
  rfl

theorem Starts.pieces (h:Starts index event seen) (out:List ReducerEvent) (other:ℕ) :
 textOf (out++[event]) other=textOf out other ∧ argsOf (out++[event]) other=argsOf out other:=by
 rw [textOf_append,argsOf_append]
 cases h <;> exact ⟨String.append_empty,String.append_empty⟩

theorem carries_open (h:Starts state.anthropicIndex event seen) (hout:next.out=state.out++[event])
 (hblocks:openBlocks next.blocksByOutputIndex=(state.anthropicIndex,seen) ::ₘ openBlocks state.blocksByOutputIndex)
 (hitems:next.outputItemsByIndex=state.outputItemsByIndex)
 (hindex:next.anthropicIndex=state.anthropicIndex+1) : Carries state next True:=by
 intro ledger haccount
 have hshown:=h.shown (haccount.quiet _ le_rfl)
 let fresh : Told:=⟨state.anthropicIndex,seen,seen⟩
 refine ⟨⟨ledger.gone,ledger.kept,fresh ::ₘ ledger.opened⟩,⟨?_,?_,?_,?_,?_,?_,?_⟩,?_⟩
 · rw [hout,hshown,← Multiset.coe_add,haccount.shown,Multiset.add_cons,Multiset.map_cons,Multiset.add_cons]
   exact Multiset.add_comm _ _
 · rw [hblocks,haccount.blocks,Multiset.map_cons]
   rfl
 · rw [hitems]
   exact haccount.items
 · intro told hmem
   rw [Multiset.add_cons] at hmem
   rcases Multiset.mem_cons.mp hmem with rfl | hold
   · exact .refl seen
   · exact haccount.trails told hold
 · rw [hout,hshown,List.map_append]
   refine List.nodup_append.mpr ⟨haccount.distinct,List.nodup_singleton _,?_⟩
   rintro index hindex' other hother rfl
   obtain ⟨entry,hentry,hfst⟩:=List.mem_map.mp hindex'
   have hpast:=haccount.past entry hentry
   rw [hfst,List.mem_singleton.mp hother] at hpast
   exact absurd hpast (lt_irrefl _)
 · rw [hout,hshown,hindex]
   intro entry hentry
   rcases List.mem_append.mp hentry with hold | hnew
   · exact (haccount.past entry hold).trans (Nat.lt_succ_self _)
   · rw [List.mem_singleton.mp hnew]
     exact Nat.lt_succ_self _
 · intro index hle
   rw [hindex] at hle
   rw [hout,(h.pieces _ index).1,(h.pieces _ index).2]
   exact haccount.quiet index (Nat.le_of_succ_le hle)
 · rw [and_true]
   constructor
   · exact fun hclean=>⟨hclean.gone,hclean.kept,fun told hmem=>
      hclean.opened told (Multiset.mem_cons_of_mem hmem)⟩
   · refine fun hclean=>⟨hclean.gone,hclean.kept,fun told hmem=>?_⟩
     rcases Multiset.mem_cons.mp hmem with rfl | hold
     · rfl
     · exact hclean.opened told hold

/-- What a block gets to hold beside what the event says of it. -/
structure Changes (block changed:BlockState) (event:Option ReducerEvent) (keeps:Prop) :
 Prop where
 index : (heldOf changed).1=(heldOf block).1
 within : ∀ one∈event,Within (heldOf block).1 one
 trails : ∀ seen,Trails seen (heldOf block).2 →
  Trails (event.elim seen fun one=>(hear one ((heldOf block).1,seen)).2) (heldOf changed).2
 clean : ∀ seen,Trails seen (heldOf block).2 →
  ((event.elim seen fun one=>(hear one ((heldOf block).1,seen)).2)=(heldOf changed).2 ↔
   seen=(heldOf block).2 ∧ keeps)

theorem hear_views {told:Told} {others:Multiset (ℕ×Seen)} (hwithin:Within told.index event)
 (hshown:(shown out:Multiset (ℕ×Seen))=told.view ::ₘ others) (hdistinct:((shown out).map Prod.fst).Nodup) :
 (shown (out++[event]) : Multiset (ℕ×Seen)) = (told.index,(hear event told.view).2) ::ₘ others:=by
 have hmap:(shown (out++[event]) : Multiset (ℕ×Seen)) = (shown out:Multiset (ℕ×Seen)).map (hear event):=by
  rw [shown_within out hwithin]
  rfl
 have hnodup:(told.index ::ₘ others.map Prod.fst).Nodup:=by
  have hcoe:((shown out:Multiset (ℕ×Seen)).map Prod.fst).Nodup:=hdistinct
  rwa [hshown,Multiset.map_cons] at hcoe
 have hothers:others.map (hear event)=others:=by
  refine (Multiset.map_congr rfl fun entry hentry=>?_).trans (Multiset.map_id _)
  refine hear_ne hwithin fun hsame=>(Multiset.nodup_cons.mp hnodup).1 ?_
  exact hsame ▸ Multiset.mem_map_of_mem Prod.fst hentry
 rw [hmap,hshown,Multiset.map_cons,hothers]
 exact congrArg (· ::ₘ others) (Prod.ext (hear_fst event told.view) rfl)

theorem hear_distinct (hwithin:Within index event) : (shown (out++[event])).map Prod.fst=(shown out).map Prod.fst:=by
 rw [shown_within out hwithin,List.map_map]
 exact List.map_congr_left fun entry _=>hear_fst event entry

theorem carries_change {changed:BlockState} {event:Option ReducerEvent}
 (hblock:state.blocksByOutputIndex.lookup key=some block)
 (h:Changes block changed event keeps) (hout:next.out=state.out++event.toList)
 (hblocks:next.blocksByOutputIndex=state.blocksByOutputIndex.insert key changed)
 (hitems:next.outputItemsByIndex=state.outputItemsByIndex)
 (hindex:next.anthropicIndex=state.anthropicIndex) : Carries state next keeps:=by
 intro ledger haccount
 obtain ⟨told,rest,hopened,htold,hrest⟩:=haccount.taken hblock
 have htoldIndex:told.index=(heldOf block).1:=congrArg Prod.fst htold
 have htoldHeld:told.held=(heldOf block).2:=congrArg Prod.snd htold
 let said : Seen:=event.elim told.seen fun one=>(hear one ((heldOf block).1,told.seen)).2
 let later : Told:=⟨(heldOf block).1,said,(heldOf changed).2⟩
 have htrails:=haccount.trails
 rw [hopened] at htrails
 have hown:Trails told.seen (heldOf block).2:=htoldHeld ▸
  htrails told (Multiset.mem_add.mpr (Or.inr (Multiset.mem_cons_self told rest)))
 have hviews:(shown state.out : Multiset (ℕ×Seen)) = told.view ::ₘ (ledger.gone+(ledger.kept+rest).map Told.view):=by
  rw [haccount.shown,hopened,Multiset.add_cons,Multiset.map_cons,Multiset.add_cons]
 have hmember:told.view∈shown state.out :=
  Multiset.mem_coe.mp (hviews ▸ Multiset.mem_cons_self _ _)
 have hshown:(shown next.out : Multiset (ℕ×Seen)) = later.view ::ₘ (ledger.gone+(ledger.kept+rest).map Told.view) ∧
  (shown next.out).map Prod.fst=(shown state.out).map Prod.fst ∧
  ∀ index,state.anthropicIndex ≤ index → textOf next.out index=textOf state.out index ∧
   argsOf next.out index=argsOf state.out index:=by
  cases event with
  | none=>
   rw [hout,Option.toList_none,List.append_nil]
   refine ⟨hviews.trans ?_,rfl,fun _ _=>⟨rfl,rfl⟩⟩
   exact congrArg (· ::ₘ _) (Prod.ext htoldIndex rfl)
  | some one=>
   have hwithin:=h.within one rfl
   rw [hout,Option.toList_some]
   refine ⟨?_,hear_distinct hwithin,fun index hle=>?_⟩
   · rw [hear_views (htoldIndex ▸ hwithin) hviews haccount.distinct]
     exact congrArg (· ::ₘ _) (Prod.ext htoldIndex (congrArg (fun index=>
      (hear one (index,told.seen)).2) htoldIndex))
   · have hpast:=haccount.past _ hmember
     have hne:index≠(heldOf block).1:=by
      change told.index<_ at hpast
      omega
     rw [textOf_append,argsOf_append,textOf_within hwithin hne,argsOf_within hwithin hne]
     exact ⟨String.append_empty,String.append_empty⟩
 obtain ⟨hnow,hkeys,hpieces⟩:=hshown
 refine ⟨⟨ledger.gone,ledger.kept,later ::ₘ rest⟩,⟨?_,?_,?_,?_,?_,?_,?_⟩,?_⟩
 · rw [hnow,Multiset.add_cons,Multiset.map_cons,Multiset.add_cons]
 · rw [hblocks,openBlocks_insert,← hrest,Multiset.map_cons]
   exact congrArg (· ::ₘ _) (Prod.ext h.index rfl)
 · rw [hitems]
   exact haccount.items
 · intro one hone
   rw [Multiset.add_cons] at hone
   rcases Multiset.mem_cons.mp hone with rfl | hold
   · exact h.trails told.seen hown
   · refine htrails one ?_
     rw [Multiset.add_cons]
     exact Multiset.mem_cons_of_mem hold
 · rw [hkeys]
   exact haccount.distinct
 · intro entry hentry
   have hkey:entry.1∈(shown state.out).map Prod.fst:=hkeys ▸ List.mem_map_of_mem hentry
   obtain ⟨other,hother,hsame⟩:=List.mem_map.mp hkey
   rw [hindex,← hsame]
   exact haccount.past other hother
 · intro index hle
   rw [hindex] at hle
   rw [(hpieces index hle).1,(hpieces index hle).2]
   exact haccount.quiet index hle
 · have hclean:=h.clean told.seen hown
   rw [← htoldHeld] at hclean
   constructor
   · intro hlater
     obtain ⟨hsame,hkeeps⟩:=hclean.mp (hlater.opened later (Multiset.mem_cons_self _ _))
     refine ⟨⟨hlater.gone,hlater.kept,fun one hone=>?_⟩,hkeeps⟩
     rw [hopened] at hone
     rcases Multiset.mem_cons.mp hone with rfl | hold
     · exact hsame
     · exact hlater.opened one (Multiset.mem_cons_of_mem hold)
   · rintro ⟨hbefore,hkeeps⟩
     refine ⟨hbefore.gone,hbefore.kept,fun one hone=>?_⟩
     rcases Multiset.mem_cons.mp hone with rfl | hold
     · refine hclean.mpr ⟨hbefore.opened told ?_,hkeeps⟩
       rw [hopened]
       exact Multiset.mem_cons_self _ _
     · refine hbefore.opened one ?_
       rw [hopened]
       exact Multiset.mem_cons_of_mem hold

theorem carries_close (hblock:state.blocksByOutputIndex.lookup key=some block)
 (hmute:Mute event) (hout:next.out=state.out++[event])
 (hblocks:next.blocksByOutputIndex=state.blocksByOutputIndex.erase key)
 (hitems:recorded next.outputItemsByIndex=(if (heldOf block).2.counts=true then {(heldOf block).2} else 0)+recorded state.outputItemsByIndex)
 (hindex:next.anthropicIndex=state.anthropicIndex) : Carries state next True:=by
 intro ledger haccount
 obtain ⟨told,rest,hopened,htold,hrest⟩:=haccount.taken hblock
 have htoldHeld:told.held=(heldOf block).2:=congrArg Prod.snd htold
 have hsame:(told ::ₘ ledger.kept)+rest=ledger.kept+ledger.opened:=by
  rw [hopened,Multiset.cons_add,Multiset.add_cons]
 refine ⟨⟨ledger.gone,told ::ₘ ledger.kept,rest⟩,⟨?_,?_,?_,?_,?_,?_,?_⟩,?_⟩
 · rw [hout,shown_mute _ hmute,haccount.shown,hsame]
 · rw [hblocks,hrest]
 · rw [hitems,haccount.items,Multiset.map_cons,← htoldHeld]
   by_cases hcounts:told.held.counts=true
   · rw [if_pos hcounts,Multiset.filter_cons_of_pos (p := fun seen : Seen=>seen.counts=true)
      _ hcounts,Multiset.singleton_add]
   · rw [if_neg hcounts,Multiset.filter_cons_of_neg (p := fun seen : Seen=>seen.counts=true)
      _ hcounts,zero_add]
 · rw [hsame]
   exact haccount.trails
 · rw [hout,shown_mute _ hmute]
   exact haccount.distinct
 · rw [hout,shown_mute _ hmute,hindex]
   exact haccount.past
 · intro index hle
   rw [hindex] at hle
   rw [hout,textOf_mute _ hmute,argsOf_mute _ hmute]
   exact haccount.quiet index hle
 · rw [and_true]
   constructor
   · intro hlater
     refine ⟨hlater.gone,fun one hone=>hlater.kept one (Multiset.mem_cons_of_mem hone),?_⟩
     intro one hone
     rw [hopened] at hone
     rcases Multiset.mem_cons.mp hone with rfl | hold
     · exact hlater.kept one (Multiset.mem_cons_self _ _)
     · exact hlater.opened one hold
   · intro hbefore
     refine ⟨hbefore.gone,fun one hone=>?_,fun one hone=>hbefore.opened one ?_⟩
     · rcases Multiset.mem_cons.mp hone with rfl | hold
       · refine hbefore.opened one ?_
         rw [hopened]
         exact Multiset.mem_cons_self _ _
       · exact hbefore.kept one hold
     · rw [hopened]
       exact Multiset.mem_cons_of_mem hone

end CursorProxy.CodexAccounts
