import CursorProxy.KeyedEntries
import CursorProxy.XmlScanning

namespace CursorProxy.PartialArgs
open CursorProxy.JsonValues XmlElements XmlScanning

def len (text:Text) : ℕ := (text.map Char.utf8Size).sum

/-- After its leading whitespace the text begins with a brace or a bracket. -/
def beginsValue (incoming:Text) : Bool :=
 (trimStart incoming).head?=some '{' || (trimStart incoming).head?=some '['

section
variable (fromStr:Text → Option JsonValue)

def accumulatePartialArgsText (dst incoming:Text) : Text :=
 if incoming=[] then dst
 else if beginsValue incoming then
  if len dst ≤ len incoming ∨ fromStr dst=none then incoming else dst
 else dst++incoming

def accumulateAll (dst:Text) (parts:List Text) : Text :=
 parts.foldl (accumulatePartialArgsText fromStr) dst

abbrev Buffers := AList fun _ : String=>Text

def bufferKey (callId modelCallId:String) : Option String :=
 if callId ≠ "" then some callId
 else if modelCallId ≠ "" then some modelCallId
 else none

def rememberPartialArgs (buffers:Buffers) (callId modelCallId:String) (delta:Text) : Buffers :=
 if delta=[] then buffers
 else
  match bufferKey callId modelCallId with
  | none=>buffers
  | some key=>
   buffers.insert key (accumulatePartialArgsText fromStr ((buffers.lookup key).getD []) delta)

def partialArgsFor (buffers:Buffers) (callId modelCallId:String) : Option Text :=
 match if callId ≠ "" then buffers.lookup callId else none with
 | some text=>some text
 | none=>if modelCallId ≠ "" then buffers.lookup modelCallId else none

end

def deltasFor (key:String) (deltas:List (String×String×Text)) : List Text :=
 (deltas.filter fun delta=>bufferKey delta.1 delta.2.1=some key).map fun delta=>delta.2.2

/-- Some part behind a text that is not empty begins a value. -/
def Restarts (parts:List Text) : Prop :=
 ∃ before part after,parts=before++part::after ∧ before.flatten≠[] ∧ beginsValue part=true

section fragments
variable {fromStr:Text → Option JsonValue}

theorem len_append (text more:Text) : len (text++more)=len text+len more:=by
 unfold len
 rw [List.map_append,List.sum_append]

theorem len_pos {text:Text} (h:text≠[]) : 0<len text:=by
 obtain ⟨char,rest,rfl⟩:=List.exists_cons_of_ne_nil h
 unfold len
 rw [List.map_cons,List.sum_cons]
 exact Nat.add_pos_left char.utf8Size_pos _

theorem beginsValue_ne {part:Text} (h:beginsValue part=true) : part≠[]:=by
 rintro rfl
 exact absurd h (by decide)

theorem accumulate_append {part:Text} (dst:Text) (h:beginsValue part=false) :
  accumulatePartialArgsText fromStr dst part=dst++part:=by
 unfold accumulatePartialArgsText
 split_ifs with hpart hvalue
 · rw [hpart,List.append_nil]
 · rw [h] at hvalue
   exact (nomatch hvalue)
 · rw [h] at hvalue
   exact (nomatch hvalue)
 · rfl

variable (fromStr) in
theorem accumulate_value {part:Text} (dst:Text) (h:beginsValue part=true) :
  accumulatePartialArgsText fromStr dst part=part ∨ accumulatePartialArgsText fromStr dst part=dst:=by
 unfold accumulatePartialArgsText
 rw [if_neg (beginsValue_ne h),if_pos h]
 split_ifs
 · exact .inl rfl
 · exact .inr rfl

theorem accumulate_empty (part:Text) : accumulatePartialArgsText fromStr [] part=part:=by
 unfold accumulatePartialArgsText
 split_ifs with hpart _ hlonger
 · exact hpart.symm
 · rfl
 · exact absurd (.inl (Nat.zero_le _)) hlonger
 · rfl

theorem lost_step {dst read:Text} (part:Text) (h:len dst<len read) :
  len (accumulatePartialArgsText fromStr dst part)<len (read++part):=by
 rw [len_append]
 cases hvalue:beginsValue part with
 | false=>
  rw [accumulate_append dst hvalue,len_append]
  omega
 | true=>
  rcases accumulate_value fromStr dst hvalue with hpart | hdst
  · rw [hpart]
    omega
  · rw [hdst]
    omega

theorem restart_loses {read part:Text} (hread:read≠[]) (h:beginsValue part=true) :
  len (accumulatePartialArgsText fromStr read part)<len (read++part):=by
 have hpart:=len_pos (beginsValue_ne h)
 have hpos:=len_pos hread
 rw [len_append]
 rcases accumulate_value fromStr read h with hcase | hcase
 · rw [hcase]
   omega
 · rw [hcase]
   omega

theorem accumulateAll_snoc (dst:Text) (parts:List Text) (part:Text) :
  accumulateAll fromStr dst (parts++[part]) =
   accumulatePartialArgsText fromStr (accumulateAll fromStr dst parts) part:=by
 unfold accumulateAll
 rw [List.foldl_append,List.foldl_cons,List.foldl_nil]

theorem restarts_snoc {parts:List Text} {part:Text} :
  Restarts (parts++[part]) ↔ Restarts parts ∨ parts.flatten≠[] ∧ beginsValue part=true:=by
 constructor
 · rintro ⟨before,other,after,hparts,hne,hvalue⟩
   cases after using List.reverseRecOn with
   | nil=>
    obtain ⟨rfl,hpart⟩:=List.append_inj' hparts rfl
    obtain rfl:=List.singleton_inj.mp hpart
    exact .inr ⟨hne,hvalue⟩
   | append_singleton after last _=>
    rw [← List.cons_append,← List.append_assoc] at hparts
    obtain ⟨rfl,-⟩:=List.append_inj' hparts rfl
    exact .inl ⟨before,other,after,rfl,hne,hvalue⟩
 · rintro (⟨before,other,after,rfl,hne,hvalue⟩ | ⟨hne,hvalue⟩)
   · exact ⟨before,other,after++[part],by rw [List.append_assoc]; rfl,hne,hvalue⟩
   · exact ⟨parts,part,[],rfl,hne,hvalue⟩

variable (fromStr) in
theorem accumulateAll_cases (parts:List Text) :
  ¬Restarts parts ∧ accumulateAll fromStr [] parts=parts.flatten ∨
   Restarts parts ∧ len (accumulateAll fromStr [] parts)<len parts.flatten:=by
 induction parts using List.reverseRecOn with
 | nil=>
  refine .inl ⟨?_,rfl⟩
  rintro ⟨before,part,after,hparts,-,-⟩
  exact absurd (congrArg List.length hparts) (by simp)
 | append_singleton parts part ih=>
  rw [accumulateAll_snoc,List.flatten_append,List.flatten_singleton,restarts_snoc]
  rcases ih with ⟨hkeeps,hbuffer⟩ | ⟨hlost,hshort⟩
  · rw [hbuffer]
    by_cases hrestart:parts.flatten≠[] ∧ beginsValue part=true
    · exact .inr ⟨.inr hrestart,restart_loses hrestart.1 hrestart.2⟩
    · refine .inl ⟨not_or.mpr ⟨hkeeps,hrestart⟩,?_⟩
      by_cases hempty:parts.flatten=[]
      · rw [hempty,accumulate_empty,List.nil_append]
      · exact accumulate_append _ (Bool.eq_false_iff.mpr fun hvalue=>hrestart ⟨hempty,hvalue⟩)
  · exact .inr ⟨.inl hlost,lost_step part hshort⟩

theorem fragments_iff (parts:List Text) : accumulateAll fromStr [] parts=parts.flatten ↔ ¬Restarts parts:=by
 rcases accumulateAll_cases fromStr parts with ⟨hkeeps,hbuffer⟩ | ⟨hlost,hshort⟩
 · exact ⟨fun _=>hkeeps,fun _=>hbuffer⟩
 · refine ⟨fun hwhole=>?_,fun hkeeps=>absurd hlost hkeeps⟩
   rw [hwhole] at hshort
   exact absurd hshort (Nat.lt_irrefl _)

end fragments

/-- What is known of the reader: a blank text is refused, and a text that is read as an object
begins with a brace. -/
structure Reads (fromStr:Text → Option JsonValue) : Prop where
 blank : ∀ text,trimStart text=[] → fromStr text=none
 brace : ∀ text members,fromStr text=some (.object members) → (trimStart text).head?=some '{'

section snapshots
variable {fromStr:Text → Option JsonValue}

theorem accumulate_blank {part:Text} (dst:Text) (h:trimStart part=[]) :
  accumulatePartialArgsText fromStr dst part=dst++part:=by
 refine accumulate_append dst ?_
 unfold beginsValue
 rw [h]
 decide

theorem accumulate_snapshot {dst part:Text} (hreads:Reads fromStr)
  (hpart:(trimStart part).head?=some '{') (hdst:trimStart dst=[] ∨ dst <+: part) :
  accumulatePartialArgsText fromStr dst part=part:=by
 have hvalue:beginsValue part=true:=by
  unfold beginsValue
  rw [hpart]
  decide
 unfold accumulatePartialArgsText
 rw [if_neg (beginsValue_ne hvalue),if_pos hvalue,if_pos]
 rcases hdst with hblank | ⟨more,rfl⟩
 · exact .inr (hreads.blank dst hblank)
 · rw [len_append]
   exact .inl (Nat.le_add_right _ _)

theorem trimStart_prefix {part text:Text} (h:part <+: text) (hpart:trimStart part≠[]) :
  (trimStart part).head?=(trimStart text).head? := by
 obtain ⟨more,rfl⟩:=h
 rw [(trimStart_append more hpart).1,List.head?_append_of_ne_nil _ hpart]

theorem blank_append {text more:Text} (h:trimStart text=[]) (h':trimStart more=[]) : trimStart (text++more)=[]:=by
 unfold trimStart at h h' ⊢
 rw [List.dropWhile_eq_nil_iff] at h h' ⊢
 exact fun char hchar=>(List.mem_append.mp hchar).elim (h char) (h' char)

theorem blank_prefix {text more:Text} (h:text <+: more) (hmore:trimStart more=[]) : trimStart text=[]:=by
 unfold trimStart at hmore ⊢
 rw [List.dropWhile_eq_nil_iff] at hmore ⊢
 exact fun char hchar=>hmore char (h.subset hchar)

theorem snapshots_run {text:Text} (hreads:Reads fromStr)
  (hbrace:(trimStart text).head?=some '{') (snapshots:List Text) {dst:Text}
  (hdst:trimStart dst=[] ∨ ∀ part∈snapshots++[text],dst <+: part) (hsorted:(snapshots++[text]).Pairwise (· <+: ·)) :
  accumulateAll fromStr dst (snapshots++[text])=text:=by
 induction snapshots generalizing dst with
 | nil=>
  exact accumulate_snapshot hreads hbrace (hdst.imp_right fun h=>h text List.mem_cons_self)
 | cons part snapshots ih=>
  obtain ⟨hpart,hrest⟩:=List.pairwise_cons.mp hsorted
  refine ih ?_ hrest
  by_cases hblank:trimStart part=[]
  · rw [accumulate_blank dst hblank]
    refine .inl (blank_append ?_ hblank)
    exact hdst.elim id fun h=> blank_prefix (h part List.mem_cons_self) hblank
  · have hhead := trimStart_prefix (hpart text (by simp)) hblank
    rw [accumulate_snapshot hreads (hhead.trans hbrace) (hdst.imp_right fun h=>h part List.mem_cons_self)]
    exact .inr hpart

end snapshots

/-- The parts of an object text come together exactly if none behind another begins a value;
growing snapshots of it always do. -/
theorem partial_args_reassemble {fromStr:Text → Option JsonValue} (hreads:Reads fromStr)
    {text:Text} {members:List (String×JsonValue)} (htext:fromStr text=some (.object members)) :
    (∀ parts:List Text,parts.flatten=text → (accumulateAll fromStr [] parts=text ↔ ¬Restarts parts)) ∧
    ∀ snapshots:List Text,(snapshots++[text]).Pairwise (· <+: ·) →
      accumulateAll fromStr [] (snapshots++[text])=text:=by
  refine ⟨fun parts hparts=>?_,fun snapshots hsorted=>?_⟩
  · rw [← hparts]
    exact fragments_iff parts
  · exact snapshots_run hreads (hreads.brace text members htext) snapshots (.inl rfl) hsorted

def nestedText : Text := "\x7b\"a\":\x7b\"b\":1\x7d\x7d".toList

def nestedMembers : List (String×JsonValue) := [("a",.object [("b",.number "1")])]

def nestedReader (text:Text) : Option JsonValue :=
 if text=nestedText then some (.object nestedMembers) else none

theorem nestedReader_reads : Reads nestedReader:=by
 constructor
 · intro text hblank
   refine if_neg fun htext=>?_
   rw [htext] at hblank
   exact absurd hblank (by decide)
 · intro text members hread
   unfold nestedReader at hread
   split_ifs at hread with htext
   rw [htext]
   decide

/-- The second part begins with the brace of the inner object. -/
theorem nested_object_discards :
    nestedReader nestedText=some (.object nestedMembers) ∧
      ["\x7b\"a\":".toList,"\x7b\"b\":1\x7d\x7d".toList].flatten=nestedText ∧
      accumulateAll nestedReader [] ["\x7b\"a\":".toList,"\x7b\"b\":1\x7d\x7d".toList] =
        "\x7b\"b\":1\x7d\x7d".toList ∧ "\x7b\"b\":1\x7d\x7d".toList≠nestedText:=by
  refine ⟨rfl,by decide,by decide,by decide⟩

theorem not_restarts {first:Text} {parts:List Text}
  (h:∀ part∈parts,beginsValue part=false) : ¬Restarts (first::parts):=by
 rintro ⟨before,part,after,hparts,hne,hvalue⟩
 cases before with
 | nil=>exact hne rfl
 | cons _ before=>
  obtain ⟨-,rfl⟩:=List.cons.inj (hparts.trans (List.cons_append ..))
  rw [h part (List.mem_append_right _ List.mem_cons_self)] at hvalue
  exact (nomatch hvalue)

theorem partial_args_reassemble_nested :
    nestedReader nestedText=some (.object nestedMembers) ∧
      accumulateAll nestedReader [] ["\x7b\"a\"".toList,":\x7b\"b\"".toList,":1\x7d\x7d".toList]=nestedText ∧
      accumulateAll nestedReader [] ["\x7b\"a\":\x7b".toList,nestedText]=nestedText:=by
  have hread:nestedReader nestedText=some (.object nestedMembers):=if_pos rfl
  obtain ⟨hparts,hsnapshots⟩:=partial_args_reassemble nestedReader_reads hread
  exact ⟨hread,(hparts _ (by decide)).mpr (not_restarts (by decide)),
    hsnapshots ["\x7b\"a\":\x7b".toList] (by decide)⟩

end CursorProxy.PartialArgs
