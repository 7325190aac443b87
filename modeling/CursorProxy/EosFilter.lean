import CursorProxy.XmlElements

/-! Some models decode an end-of-sequence token as ordinary text. The filter takes such markers
off the end of the text and holds back what may yet become one. -/
namespace CursorProxy.EosFilter
open CautiousScan XmlElements

def cursorEosSentinels : List Text :=
 ["◁eos▷".toList,"<|eos|>".toList,"<|endoftext|>".toList,"<|end_of_text|>".toList,
  "<|end_of_sequence|>".toList,"<|eot_id|>".toList,"<|end|>".toList,"</s>".toList]

structure FilteredCursorText where
 text : Option Text
 eos : Bool

structure CursorEosFilter where
 pending : Text
 finished : Bool

def trimEnd (text:Text) : Text := text.rdropWhile isWhitespace

/-- Whitespace and markers, the last of which may be incomplete. -/
def controlTail : ℕ → Text → Bool
 | _,[]=>true
 | skip+1,_::tail=>controlTail skip tail
 | 0,char::tail=>
  if isWhitespace char then controlTail 0 tail
  else
   match cursorEosSentinels.find? fun marker=>marker.isPrefixOf (char::tail) with
   | some marker=>controlTail (marker.length-1) tail
   | none=>cursorEosSentinels.any fun marker=>(char::tail).isPrefixOf marker

def controlTailOnly (tail:Text) : Bool := controlTail 0 tail

/-- The first place of the marker with only control text behind it. -/
def markerSpan (marker:Text) : ℕ → Text → Option (ℕ×ℕ)
 | _,[]=>none
 | skip+1,_::value=>(markerSpan marker skip value).map fun span=>(span.1+1,span.2+1)
 | 0,char::value=>
  if marker.isPrefixOf (char::value) then
   if controlTailOnly ((char::value).drop marker.length) then some (0,marker.length)
   else (markerSpan marker (marker.length-1) value).map fun span=>(span.1+1,span.2+1)
  else (markerSpan marker 0 value).map fun span=>(span.1+1,span.2+1)

def terminalMarkerSpan (value:Text) : Option (ℕ×ℕ) :=
 cursorEosSentinels.findSome? fun marker=>markerSpan marker 0 value

def longestMarkerPrefixSuffix (value:Text) : ℕ :=
 (cursorEosSentinels.map (prefixSuffixLength value)).foldr max 0

def trailingWhitespaceStart (value:Text) : ℕ := (trimEnd value).length

/-- Where the part begins that is kept for the next delta. -/
def keepStart (pending:Text) : ℕ :=
 let trimmedLen:=(trimEnd pending).length
 let markerPrefix:=longestMarkerPrefixSuffix (pending.take trimmedLen)
 if 0 < markerPrefix then trailingWhitespaceStart (pending.take (trimmedLen - markerPrefix))
 else trailingWhitespaceStart pending

namespace CursorEosFilter

def default : CursorEosFilter := ⟨[],false⟩

def drain (flush:Bool) (filter:CursorEosFilter) : CursorEosFilter×FilteredCursorText :=
 match terminalMarkerSpan filter.pending with
 | some (start,_)=>
  let text:=trimEnd (filter.pending.take start)
  (⟨[],true⟩,⟨if (trim text).isEmpty then none else some text,true⟩)
 | none=>
  let keep:=if flush then filter.pending.length else keepStart filter.pending
  let visible:=filter.pending.take keep
  ({ filter with pending := filter.pending.drop keep },
   ⟨if visible.isEmpty then none else some visible,false⟩)

def push (filter:CursorEosFilter) (raw:Text) : CursorEosFilter×FilteredCursorText :=
 if filter.finished||raw.isEmpty then (filter,⟨none,false⟩)
 else drain false { filter with pending := filter.pending++raw }

def finish (filter:CursorEosFilter) : CursorEosFilter×FilteredCursorText :=
 if filter.finished then (filter,⟨none,false⟩) else drain true filter

/-- Push the deltas one after the other, then finish. -/
def filterAll : CursorEosFilter → List Text → List FilteredCursorText
 | filter,[]=>[filter.finish.2]
 | filter,delta::deltas=>(filter.push delta).2::filterAll (filter.push delta).1 deltas

end CursorEosFilter

def visible (filtered:List FilteredCursorText) : Text :=
 filtered.flatMap fun piece=>piece.text.getD []

def eos (filtered:List FilteredCursorText) : Bool := filtered.any (·.eos)

def isMarkerHead (char:Char) : Bool := char == '<' || char == '◁'

theorem marker_shape : ∀ marker∈cursorEosSentinels,
 (marker.head?.any isMarkerHead&&marker.tail.all fun char=>!isMarkerHead char)=true:=by
 decide

theorem marker_ink : ∀ marker∈cursorEosSentinels,∀ char∈marker,isWhitespace char=false:=by
 have hall:(cursorEosSentinels.all fun marker=>marker.all fun char=>!isWhitespace char) =
  true:=by
  decide +kernel
 intro marker hmarker char hchar
 have hink:=List.all_eq_true.mp (List.all_eq_true.mp hall marker hmarker) char hchar
 exact (Bool.not_eq_true' _).mp hink

theorem marker_prefix_free : ∀ marker∈cursorEosSentinels,∀ other∈cursorEosSentinels,
 marker <+: other → marker=other:=by
 have hall:(cursorEosSentinels.all fun marker=>cursorEosSentinels.all fun other=>
  !marker.isPrefixOf other||marker==other)=true:=by
  decide +kernel
 intro marker hmarker other hother hfront
 have hpair:=List.all_eq_true.mp (List.all_eq_true.mp hall marker hmarker) other hother
 rw [List.isPrefixOf_iff_prefix.mpr hfront] at hpair
 exact eq_of_beq hpair

variable {char:Char}

theorem head_ink (h:isMarkerHead char=true) : isWhitespace char=false:=by
 unfold isMarkerHead at h
 rcases Bool.or_eq_true_iff.mp h with heq | heq
 · rw [beq_iff_eq.mp heq]
   decide
 · rw [beq_iff_eq.mp heq]
   decide

variable {marker:Text}

theorem marker_cons (h:marker∈cursorEosSentinels) :
 ∃ head tail,marker=head::tail ∧ isMarkerHead head=true ∧ ∀ char∈tail,isMarkerHead char=false:=by
 have hshape:=marker_shape marker h
 cases marker with
 | nil=>exact absurd hshape (by decide)
 | cons head tail=>
  rw [Bool.and_eq_true_iff] at hshape
  refine ⟨head,tail,rfl,by simpa using hshape.1,fun char hmem=>?_⟩
  have hall:=List.all_eq_true.mp hshape.2 char hmem
  simpa using hall

variable {text:Text}

theorem same_marker {other:Text} (hmarker:marker∈cursorEosSentinels)
 (hother:other∈cursorEosSentinels) (hfront:marker <+: text) (hfront':other <+: text) : marker=other:=by
 rcases List.prefix_or_prefix_of_prefix hfront hfront' with hle | hle
 · exact marker_prefix_free marker hmarker other hother hle
 · exact (marker_prefix_free other hother marker hmarker hle).symm

theorem find_marker (hmarker:marker∈cursorEosSentinels) (hfront:marker <+: text) :
 (cursorEosSentinels.find? fun marker=>marker.isPrefixOf text)=some marker:=by
 cases hfind:cursorEosSentinels.find? fun marker=>marker.isPrefixOf text with
 | none=>
  have hnone:=List.find?_eq_none.mp hfind marker hmarker
  exact absurd (List.isPrefixOf_iff_prefix.mpr hfront) hnone
 | some found=>
  have hfound:=List.find?_some hfind
  rw [List.isPrefixOf_iff_prefix] at hfound
  rw [same_marker (List.mem_of_find?_eq_some hfind) hmarker hfound hfront]

theorem no_marker (h:(cursorEosSentinels.find? fun marker=>marker.isPrefixOf text)=none)
 (hmarker:marker∈cursorEosSentinels) : ¬marker <+: text:=by
 intro hfront
 rw [find_marker hmarker hfront] at h
 exact absurd h (by simp)

variable {skip:ℕ}

theorem controlTail_front {front more:Text} (h:controlTail skip (front++more)=true) : controlTail skip front=true:=by
 induction front generalizing skip with
 | nil=>cases skip <;> rfl
 | cons char front ih=>
  cases skip with
  | succ skip=>exact ih h
  | zero=>
   rw [List.cons_append] at h
   unfold controlTail at h ⊢
   split_ifs at h ⊢ with hspace
   · exact ih h
   · have hshort:∀ marker∈cursorEosSentinels,char::front <+: marker →
      marker≠char::front → (cursorEosSentinels.find? fun marker=>
       marker.isPrefixOf (char::front))=none:=by
      intro marker hmarker hfront hne
      refine List.find?_eq_none.mpr fun other hother hlong=>?_
      rw [List.isPrefixOf_iff_prefix] at hlong
      have heq:=marker_prefix_free other hother marker hmarker (hlong.trans hfront)
      rw [heq] at hlong
      exact hne (hlong.eq_of_length_le hfront.length_le)
     have hpiece:∀ marker∈cursorEosSentinels,char::front <+: marker →
      marker≠char::front → (match cursorEosSentinels.find? fun marker=>
       marker.isPrefixOf (char::front) with
       | some marker=>controlTail (marker.length-1) front
       | none=>cursorEosSentinels.any fun marker=>
        (char::front).isPrefixOf marker)=true:=by
      intro marker hmarker hfront hne
      rw [hshort marker hmarker hfront hne]
      exact List.any_eq_true.mpr ⟨marker,hmarker,List.isPrefixOf_iff_prefix.mpr hfront⟩
     cases hfind:cursorEosSentinels.find? fun marker=>
      marker.isPrefixOf (char::(front++more)) with
     | some marker=>
      rw [hfind] at h
      have hmarker:=List.mem_of_find?_eq_some hfind
      have hlong:=List.find?_some hfind
      rw [List.isPrefixOf_iff_prefix] at hlong
      rcases List.prefix_or_prefix_of_prefix hlong (List.prefix_append (char::front) more) with hinside | hshorter
      · rw [find_marker hmarker hinside]
        exact ih h
      · by_cases heq:marker=char::front
        · rw [find_marker hmarker (heq ▸ List.prefix_refl _)]
          exact ih h
        · exact hpiece marker hmarker hshorter heq
     | none=>
      rw [hfind] at h
      obtain ⟨marker,hmarker,hlong⟩:=List.any_eq_true.mp h
      have hshorter:char::front <+: marker :=
       (List.prefix_append (char::front) more).trans (List.isPrefixOf_iff_prefix.mp hlong)
      by_cases heq:marker=char::front
      · have hnone:=no_marker hfind hmarker
        rw [heq] at hnone
        exact absurd (List.prefix_append (char::front) more) hnone
      · exact hpiece marker hmarker hshorter heq

/-- A marker at this place, and only control text behind it. -/
def Terminal (marker value:Text) (place:ℕ) : Prop :=
 marker <+: value.drop place ∧ controlTailOnly (value.drop (place+marker.length))=true

variable {value:Text} {place:ℕ}

theorem Terminal.length (h:Terminal marker value place) (hmarker:marker∈cursorEosSentinels)
 : place+marker.length ≤ value.length:=by
 have hinside:=h.1.length_le
 obtain ⟨head,tail,rfl,_⟩:=marker_cons hmarker
 rw [List.length_drop] at hinside
 rw [List.length_cons] at hinside ⊢
 omega

theorem Terminal.front {more:Text} (h:Terminal marker (value++more) place)
 (hinside:place+marker.length ≤ value.length) : Terminal marker value place:=by
 obtain ⟨hfront,htail⟩:=h
 rw [List.drop_append_of_le_length (by omega)] at hfront htail
 refine ⟨?_,controlTail_front htail⟩
 refine List.prefix_of_prefix_length_le hfront (List.prefix_append _ _) ?_
 rw [List.length_drop]
 omega

variable {start stop:ℕ}

theorem span_shift {span:Option (ℕ×ℕ)} (h:(span.map fun span=>(span.1+1,span.2+1))=some (start,stop)) :
 ∃ start' stop',span=some (start',stop') ∧ start=start'+1 ∧ stop=stop'+1:=by
 obtain ⟨⟨start',stop'⟩,hspan,heq⟩:=Option.map_eq_some_iff.mp h
 obtain ⟨rfl,rfl⟩:=Prod.mk.inj heq
 exact ⟨start',stop',hspan,rfl,rfl⟩

theorem terminal_cons : Terminal marker (char::value) (place+1) ↔ Terminal marker value place:=by
 unfold Terminal
 rw [List.drop_succ_cons,Nat.add_right_comm,List.drop_succ_cons]

theorem markerSpan_some (h:markerSpan marker skip value=some (start,stop)) :
 skip ≤ start ∧ Terminal marker value start ∧ stop=start+marker.length:=by
 induction value generalizing skip start stop with
 | nil=>cases skip <;> exact absurd h (by simp [markerSpan])
 | cons char value ih=>
  cases skip with
  | succ skip=>
   obtain ⟨start,stop,hspan,rfl,rfl⟩:=span_shift h
   obtain ⟨hskip,hterminal,rfl⟩:=ih hspan
   exact ⟨by omega,terminal_cons.mpr hterminal,by omega⟩
  | zero=>
   unfold markerSpan at h
   split_ifs at h with hfront htail
   · obtain ⟨rfl,rfl⟩:=Prod.mk.inj (Option.some.inj h)
     refine ⟨Nat.le_refl 0,⟨List.isPrefixOf_iff_prefix.mp hfront,?_⟩,(Nat.zero_add _).symm⟩
     rwa [Nat.zero_add]
   all_goals
    obtain ⟨start,stop,hspan,rfl,rfl⟩:=span_shift h
    obtain ⟨_,hterminal,rfl⟩:=ih hspan
    exact ⟨Nat.zero_le _,terminal_cons.mpr hterminal,by omega⟩

theorem no_overlap {other:Text} (hmarker:marker∈cursorEosSentinels)
 (hother:other∈cursorEosSentinels) (hfront:marker <+: char::value)
 (hother':other <+: value.drop place) : marker.length-1 ≤ place:=by
 obtain ⟨head,tail,rfl,_,htail⟩:=marker_cons hmarker
 obtain ⟨head',tail',rfl,hhead',_⟩:=marker_cons hother
 by_contra hinside
 rw [List.length_cons,Nat.add_sub_cancel] at hinside
 obtain ⟨_,hrest⟩:=List.cons_prefix_cons.mp hfront
 obtain ⟨after,rfl⟩:=hrest
 obtain ⟨more,hmore⟩:=hother'
 rw [List.drop_append_of_le_length (by omega)] at hmore
 cases hdrop:tail.drop place with
 | nil=>exact absurd (List.drop_eq_nil_iff.mp hdrop) (by omega)
 | cons char' rest=>
  rw [hdrop] at hmore
  have hmem:head'∈tail:=by
   rw [(List.cons.inj hmore).1]
   refine List.mem_of_mem_drop (i := place) ?_
   rw [hdrop]
   exact List.mem_cons_self
  rw [htail head' hmem] at hhead'
  exact absurd hhead' (by simp)

theorem markerSpan_first (hmarker:marker∈cursorEosSentinels) (hskip:skip ≤ place) (h:Terminal marker value place) :
 ∃ start ≤ place,markerSpan marker skip value=some (start,start+marker.length):=by
 induction value generalizing skip place with
 | nil=>
  have hinside:=h.length hmarker
  obtain ⟨head,tail,rfl,_⟩:=marker_cons hmarker
  rw [List.length_cons,List.length_nil] at hinside
  omega
 | cons char value ih=>
  have hlater:∀ skip',place≠0 → skip' ≤ place-1 → ∃ start ≤ place,
   ((markerSpan marker skip' value).map fun span=>(span.1+1,span.2+1)) =
    some (start,start+marker.length):=by
   intro skip' hplace hskip'
   obtain ⟨place,rfl⟩:=Nat.exists_eq_succ_of_ne_zero hplace
   obtain ⟨start,hstart,hspan⟩:=ih (by simpa using hskip') (terminal_cons.mp h)
   refine ⟨start+1,by omega,?_⟩
   rw [hspan,Option.map_some]
   exact congrArg some (Prod.ext rfl (by omega))
  cases skip with
  | succ skip=>exact hlater skip (by omega) (by omega)
  | zero=>
   unfold markerSpan
   split_ifs with hfront htail
   · exact ⟨0,Nat.zero_le _,by rw [Nat.zero_add]⟩
   · rw [List.isPrefixOf_iff_prefix] at hfront
     have hplace:place≠0:=by
      rintro rfl
      have hclosed:=h.2
      rw [Nat.zero_add] at hclosed
      exact htail hclosed
     obtain ⟨place,rfl⟩:=Nat.exists_eq_succ_of_ne_zero hplace
     exact hlater _ hplace (no_overlap hmarker hmarker hfront (terminal_cons.mp h).1)
   · have hplace:place≠0:=by
      rintro rfl
      exact hfront (List.isPrefixOf_iff_prefix.mpr h.1)
     exact hlater 0 hplace (Nat.zero_le _)

theorem terminalMarkerSpan_some (h:terminalMarkerSpan value=some (start,stop)) :
 ∃ marker∈cursorEosSentinels,Terminal marker value start ∧ stop=start+marker.length:=by
 obtain ⟨marker,hmarker,hspan⟩:=List.exists_of_findSome?_eq_some h
 obtain ⟨_,hterminal,hstop⟩:=markerSpan_some hspan
 exact ⟨marker,hmarker,hterminal,hstop⟩

theorem terminalMarkerSpan_none : terminalMarkerSpan value=none ↔
 ∀ marker∈cursorEosSentinels,∀ place,¬Terminal marker value place:=by
 unfold terminalMarkerSpan
 rw [List.findSome?_eq_none_iff]
 constructor
 · intro h marker hmarker place hterminal
   obtain ⟨start,_,hspan⟩:=markerSpan_first hmarker (Nat.zero_le place) hterminal
   rw [h marker hmarker] at hspan
   exact absurd hspan (by simp)
 · intro h marker hmarker
   cases hspan:markerSpan marker 0 value with
   | none=>rfl
   | some span=>exact absurd (markerSpan_some hspan).2.1 (h marker hmarker span.1)

end CursorProxy.EosFilter
