import CursorProxy.EosFilter

namespace CursorProxy.EosCuts
open CautiousScan XmlElements EosFilter CursorEosFilter

theorem trimEnd_append (front text:Text) : trimEnd (front++text) =
  if trimEnd text=[] then trimEnd front else front++trimEnd text:=by
 unfold trimEnd
 simp only [List.rdropWhile,List.reverse_append,List.dropWhile_append,List.isEmpty_iff,List.reverse_eq_nil_iff]
 split_ifs
 · rfl
 · rw [List.reverse_append,List.reverse_reverse]

theorem trimEnd_trimEnd (text:Text) : trimEnd (trimEnd text)=trimEnd text :=
 List.rdropWhile_idempotent isWhitespace text

theorem trimEnd_front (text:Text) : trimEnd text <+: text :=
 List.rdropWhile_prefix isWhitespace text

theorem trimEnd_after {front:Text} (h:trimEnd front=front) (text:Text) : trimEnd (front++text)=front++trimEnd text:=by
 rw [trimEnd_append]
 split_ifs with hblank
 · rw [hblank,h,List.append_nil]
 · rfl

theorem lt_trimEnd {text:Text} {place:ℕ} {char:Char} {more:Text}
  (h:text.drop place=char::more) (hink:isWhitespace char=false) : place<(trimEnd text).length:=by
 have hplace:place<text.length:=by
  by_contra hend
  rw [List.drop_eq_nil_of_le (by omega)] at h
  exact absurd h (by simp)
 have hsplit:trimEnd text=trimEnd (text.take place++char::more):=by
  rw [← h,List.take_append_drop]
 have hkept:trimEnd (char::more)≠[]:=by
  intro hnil
  have hblank:=List.rdropWhile_eq_nil_iff.mp hnil char List.mem_cons_self
  rw [hink] at hblank
  exact absurd hblank (by simp)
 have hpositive:=List.length_pos_of_ne_nil hkept
 rw [hsplit,trimEnd_append,if_neg hkept,List.length_append,List.length_take]
 omega

/-- The text so far, of which a part is shown and the rest is pending. -/
structure Held (shown pending:Text) : Prop where
 inked : trimEnd shown=shown
 open_ : terminalMarkerSpan (shown++pending)=none
 /-- A marker that is not complete yet begins in what is pending. -/
 kept : ∀ marker∈cursorEosSentinels,∀ (more:Text) (place:ℕ),
  marker <+: (shown++pending++more).drop place → (shown++pending).length<place+marker.length → shown.length ≤ place

theorem held_start : Held [] []:=by
 refine ⟨rfl,by decide,fun marker _ more place _ _=>Nat.zero_le place⟩

variable {shown pending:Text}

theorem Held.terminal (h:Held shown pending) {marker delta:Text} (hmarker:marker∈cursorEosSentinels) {place:ℕ}
  (hterminal:Terminal marker (shown++pending++delta) place) : shown.length ≤ place:=by
 by_cases hinside:place+marker.length ≤ (shown++pending).length
 · have hbefore:=terminalMarkerSpan_none.mp h.open_ marker hmarker place
   exact absurd (hterminal.front hinside) hbefore
 · exact h.kept marker hmarker delta place hterminal.1 (by omega)

theorem terminal_behind {marker buffer:Text} {place:ℕ} :
  Terminal marker (shown++buffer) (shown.length+place) ↔ Terminal marker buffer place:=by
 unfold Terminal
 rw [Nat.add_assoc,List.drop_length_add_append,List.drop_length_add_append]

theorem markerSpan_behind {marker buffer:Text} (hmarker:marker∈cursorEosSentinels)
  (h:∀ place,Terminal marker (shown++buffer) place → shown.length ≤ place) :
  markerSpan marker 0 (shown++buffer)=(markerSpan marker 0 buffer).map fun span=>
   (shown.length+span.1,shown.length+span.2):=by
 cases hlong:markerSpan marker 0 (shown++buffer) with
 | none=>
  cases hshort:markerSpan marker 0 buffer with
  | none=>rfl
  | some span=>
   have hterminal:Terminal marker (shown++buffer) (shown.length+span.1) :=
    terminal_behind.mpr (markerSpan_some hshort).2.1
   obtain ⟨start,_,hspan⟩:=markerSpan_first hmarker (Nat.zero_le _) hterminal
   rw [hlong] at hspan
   exact absurd hspan (by simp)
 | some span=>
  obtain ⟨start,stop⟩:=span
  obtain ⟨_,hterminal,rfl⟩:=markerSpan_some hlong
  obtain ⟨place,rfl⟩:=Nat.exists_eq_add_of_le (h start hterminal)
  obtain ⟨first,hfirst,hspan⟩ :=
   markerSpan_first hmarker (Nat.zero_le _) (terminal_behind.mp hterminal)
  -- Both searches find the first place.
  have hback:Terminal marker (shown++buffer) (shown.length+first) :=
   terminal_behind.mpr (markerSpan_some hspan).2.1
  obtain ⟨start,hstart,hagain⟩:=markerSpan_first hmarker (Nat.zero_le _) hback
  rw [hlong] at hagain
  obtain ⟨rfl,_⟩:=Prod.mk.inj (Option.some.inj hagain)
  obtain rfl : first=place:=by omega
  rw [hspan,Option.map_some,Nat.add_assoc]

theorem terminalMarkerSpan_behind {buffer:Text} (h:∀ marker∈cursorEosSentinels,
  ∀ place,Terminal marker (shown++buffer) place → shown.length ≤ place) :
  terminalMarkerSpan (shown++buffer)=(terminalMarkerSpan buffer).map fun span=>
   (shown.length+span.1,shown.length+span.2):=by
 unfold terminalMarkerSpan
 have hall:∀ markers:List Text,(∀ marker∈markers,marker∈cursorEosSentinels) →
   (markers.findSome? fun marker=>markerSpan marker 0 (shown++buffer)) =
    (markers.findSome? fun marker=>markerSpan marker 0 buffer).map fun span=>
     (shown.length+span.1,shown.length+span.2):=by
  intro markers hmarkers
  induction markers with
  | nil=>rfl
  | cons marker markers ih=>
   have hmarker:=hmarkers marker List.mem_cons_self
   have hspan:=markerSpan_behind hmarker (h marker hmarker)
   rw [List.findSome?_cons,List.findSome?_cons,hspan,ih fun other hmem=>hmarkers other (List.mem_cons_of_mem _ hmem)]
   cases markerSpan marker 0 buffer <;> rfl
 exact hall _ fun marker hmem=>hmem

theorem Held.span (h:Held shown pending) (delta:Text) :
  terminalMarkerSpan (shown++pending++delta)=(terminalMarkerSpan (pending++delta)).map
   fun span=>(shown.length+span.1,shown.length+span.2):=by
 rw [List.append_assoc]
 refine terminalMarkerSpan_behind fun marker hmarker place hterminal=>?_
 rw [← List.append_assoc] at hterminal
 exact h.terminal hmarker hterminal

theorem keepStart_le (pending:Text) : keepStart pending ≤ pending.length ∧
  pending.take (keepStart pending)=trimEnd (pending.take (keepStart pending)):=by
 have hshown:∀ front,front <+: pending →
   trailingWhitespaceStart front ≤ pending.length ∧
    pending.take (trailingWhitespaceStart front) = trimEnd (pending.take (trailingWhitespaceStart front)):=by
  intro front hfront
  have htrimmed:=(trimEnd_front front).trans hfront
  have htake:pending.take (trimEnd front).length=trimEnd front :=
   (List.prefix_iff_eq_take.mp htrimmed).symm
  refine ⟨htrimmed.length_le,?_⟩
  unfold trailingWhitespaceStart
  rw [htake,trimEnd_trimEnd]
 unfold keepStart
 dsimp only
 split_ifs
 · exact hshown _ (List.take_prefix _ _)
 · exact hshown _ (List.prefix_refl _)

theorem keepStart_begins {marker tail:Text} (hmarker:marker∈cursorEosSentinels)
  (hbegins:Begins marker tail) (hsuffix:tail <:+ pending) : keepStart pending+tail.length ≤ pending.length:=by
 have hinked:trimEnd pending=pending:=by
  obtain ⟨hne,hfront,_⟩:=hbegins
  refine List.rdropWhile_eq_self_iff.mpr fun hpending=>?_
  have hlast:pending.getLast hpending=tail.getLast hne:=by
   obtain ⟨front,rfl⟩:=hsuffix
   exact List.getLast_append_of_right_ne_nil front tail hne
  rw [hlast,marker_ink marker hmarker _ (hfront.subset (List.getLast_mem hne))]
  exact Bool.false_ne_true
 have hle:=le_prefixSuffixLength hsuffix hbegins
 have hmax:prefixSuffixLength pending marker ≤ longestMarkerPrefixSuffix pending :=
  le_foldr_max (List.mem_map_of_mem hmarker)
 have hpositive:=List.length_pos_of_ne_nil hbegins.1
 have hinside:=hsuffix.length_le
 unfold keepStart
 dsimp only
 rw [hinked,List.take_length,if_pos (by omega)]
 have htrim:=(trimEnd_front (pending.take (pending.length-longestMarkerPrefixSuffix pending))).length_le
 unfold trailingWhitespaceStart
 rw [List.length_take] at htrim
 omega

theorem Held.push (h:Held shown pending) {delta:Text} (hspan:terminalMarkerSpan (pending++delta)=none) :
  Held (shown++(pending++delta).take (keepStart (pending++delta)))
   ((pending++delta).drop (keepStart (pending++delta))):=by
 have hlong:=h.span delta
 rw [hspan,Option.map_none] at hlong
 obtain ⟨hkeep,htake⟩:=keepStart_le (pending++delta)
 have hsplit:shown++(pending++delta).take (keepStart (pending++delta)) ++
   (pending++delta).drop (keepStart (pending++delta))=shown++pending++delta:=by
  rw [List.append_assoc,List.take_append_drop,List.append_assoc]
 refine ⟨?_,hsplit ▸ hlong,?_⟩
 · rw [htake,trimEnd_after h.inked,trimEnd_trimEnd]
 · rw [hsplit]
   intro marker hmarker more place hfront hcross
   have hplace:shown.length ≤ place:=by
    refine h.kept marker hmarker (delta++more) place ?_ ?_
    · rwa [← List.append_assoc]
    · rw [List.length_append] at hcross
      omega
   obtain ⟨offset,rfl⟩:=Nat.exists_eq_add_of_le hplace
   rw [List.length_append,List.length_take,Nat.min_eq_left hkeep]
   by_cases hend:(shown++pending++delta).length ≤ shown.length+offset
   · rw [List.append_assoc,List.length_append] at hend
     omega
   · -- The marker begins in the pending part and goes on behind it.
     have htail:(shown++pending++delta).drop (shown.length+offset) = (pending++delta).drop offset:=by
      rw [List.append_assoc,List.drop_length_add_append]
     rw [List.drop_append_of_le_length (by omega),htail] at hfront
     have hlength:((pending++delta).drop offset).length = (shown++pending++delta).length-(shown.length+offset):=by
      rw [← htail,List.length_drop]
     have hbegins:Begins marker ((pending++delta).drop offset):=by
      refine ⟨List.ne_nil_of_length_pos (by omega),?_,by omega⟩
      exact List.prefix_of_prefix_length_le (List.prefix_append _ more) hfront (by omega)
     have hkept:=keepStart_begins hmarker hbegins (List.drop_suffix offset (pending++delta))
     rw [List.length_drop] at hkept
     rw [List.append_assoc,List.length_append] at hend
     omega

/-- What is visible of a text that arrives in pieces: it ends at the marker that is
terminal at the end of some piece. -/
def outcome : Text → List Text → Text×Bool
 | before,[]=>(before,false)
 | before,delta::deltas=>
  match terminalMarkerSpan (before++delta) with
  | some (start,_)=>(trimEnd ((before++delta).take start),true)
  | none=>outcome (before++delta) deltas

theorem finished_silent (deltas:List Text) :
  visible (filterAll ⟨[],true⟩ deltas)=[] ∧ eos (filterAll ⟨[],true⟩ deltas)=false:=by
 induction deltas with
 | nil=>exact ⟨rfl,rfl⟩
 | cons delta deltas ih=>exact ih

theorem visible_cons (piece:FilteredCursorText) (filtered:List FilteredCursorText) :
  visible (piece::filtered)=piece.text.getD []++visible filtered := rfl

theorem eos_cons (piece:FilteredCursorText) (filtered:List FilteredCursorText) :
  eos (piece::filtered)=(piece.eos||eos filtered) := rfl

theorem shown_trimmed (text:Text) :
  (if (trim (trimEnd text)).isEmpty then none else some (trimEnd text)).getD [] =
   trimEnd text:=by
 split_ifs with hblank
 · have hall:trimEnd text=[]:=by
    have htrim:=List.isEmpty_iff.mp hblank
    unfold trim trimStart at htrim
    change trimEnd _=[] at htrim
    have hsplit:(trimEnd text).takeWhile isWhitespace ++
      (trimEnd text).dropWhile isWhitespace=trimEnd text := List.takeWhile_append_dropWhile
    have hspace:trimEnd ((trimEnd text).takeWhile isWhitespace)=[] :=
     List.rdropWhile_eq_nil_iff.mpr fun _ hmem=>List.mem_takeWhile_imp hmem
    rw [← trimEnd_trimEnd,← hsplit,trimEnd_append,if_pos htrim,hspace]
   rw [hall]
   rfl
 · rfl

theorem shown_getD (text:Text) : (if text.isEmpty then none else some text).getD []=text:=by
 split_ifs with hempty
 · exact (List.isEmpty_iff.mp hempty).symm
 · rfl

theorem filterAll_outcome {shown pending:Text} (h:Held shown pending) (deltas:List Text) :
  (shown++visible (filterAll ⟨pending,false⟩ deltas),eos (filterAll ⟨pending,false⟩ deltas)) =
   outcome (shown++pending) deltas:=by
 induction deltas generalizing shown pending with
 | nil=>
  have hspan:=h.span []
  rw [List.append_nil,List.append_nil,h.open_] at hspan
  have hnone:terminalMarkerSpan pending=none:=Option.map_eq_none_iff.mp hspan.symm
  have hfinish:(CursorEosFilter.mk pending false).finish.2 =
    ⟨if pending.isEmpty then none else some pending,false⟩:=by
   unfold CursorEosFilter.finish CursorEosFilter.drain
   simp only [hnone,if_true,List.take_length]
   rfl
  unfold filterAll outcome
  rw [hfinish,visible_cons,eos_cons,shown_getD]
  exact Prod.ext (congrArg (shown ++ ·) (List.append_nil pending)) rfl
 | cons delta deltas ih=>
  have hlong:=h.span delta
  unfold filterAll outcome
  cases hspan:terminalMarkerSpan (pending++delta) with
  | some span=>
   obtain ⟨start,stop⟩:=span
   rw [hspan,Option.map_some] at hlong
   have hne:¬delta.isEmpty=true:=by
    intro hempty
    rw [List.isEmpty_iff.mp hempty,List.append_nil,h.open_] at hlong
    exact absurd hlong (by simp)
   have hpush:(CursorEosFilter.mk pending false).push delta=(⟨[],true⟩,
     ⟨if (trim (trimEnd ((pending++delta).take start))).isEmpty then none
      else some (trimEnd ((pending++delta).take start)),true⟩):=by
    unfold CursorEosFilter.push CursorEosFilter.drain
    rw [Bool.false_or,if_neg hne]
    simp only [hspan]
   obtain ⟨hsilent,hquiet⟩:=finished_silent deltas
   rw [hpush,visible_cons,eos_cons,hsilent,hquiet,hlong,shown_trimmed]
   dsimp only
   rw [List.append_nil,List.append_assoc,List.take_length_add_append,trimEnd_after h.inked]
   rfl
  | none=>
   rw [hspan,Option.map_none] at hlong
   rw [hlong]
   by_cases hempty:delta.isEmpty=true
   · have hpush:(CursorEosFilter.mk pending false).push delta = (⟨pending,false⟩,⟨none,false⟩):=by
      unfold CursorEosFilter.push
      rw [Bool.false_or,if_pos hempty]
     rw [hpush,visible_cons,eos_cons,List.isEmpty_iff.mp hempty,List.append_nil]
     exact ih h
   · have hpush:(CursorEosFilter.mk pending false).push delta =
       (⟨(pending++delta).drop (keepStart (pending++delta)),false⟩,
        ⟨if ((pending++delta).take (keepStart (pending++delta))).isEmpty then none
         else some ((pending++delta).take (keepStart (pending++delta))),false⟩):=by
      unfold CursorEosFilter.push CursorEosFilter.drain
      rw [Bool.false_or,if_neg hempty]
      simp only [hspan]
      rfl
     have hrest:=ih (h.push hspan)
     rw [List.append_assoc shown _ (visible _),List.append_assoc shown _ (List.drop _ _),
      List.take_append_drop,← List.append_assoc shown pending] at hrest
     rw [hpush,visible_cons,eos_cons,shown_getD]
     exact hrest

/-- Where the text so far ends in a terminal marker, the whole text ends in that one. -/
def HarmlessCuts : Text → List Text → Prop
 | _,[]=>True
 | before,delta::deltas=>
  match terminalMarkerSpan (before++delta) with
  | some span=>terminalMarkerSpan (before++delta++deltas.flatten)=some span
  | none=>HarmlessCuts (before++delta) deltas

theorem lt_trimEnd_marker {marker value:Text} (hmarker:marker∈cursorEosSentinels)
  {place:ℕ} (hfront:marker <+: value.drop place) {stop:ℕ} (hstop:place<stop) :
  place<(trimEnd (value.take stop)).length:=by
 obtain ⟨head,tail,rfl,hhead,_⟩:=marker_cons hmarker
 obtain ⟨after,hafter⟩:=hfront
 obtain ⟨more,hmore⟩ : ∃ more,stop-place=more+1:=⟨stop-place-1,by omega⟩
 have hdrop:(value.take stop).drop place=head::(tail++after).take more:=by
  rw [List.drop_take,← hafter,List.cons_append,hmore,List.take_succ_cons]
 exact lt_trimEnd hdrop (head_ink hhead)

theorem same_span {before more:Text} {start stop start' stop':ℕ} (h:terminalMarkerSpan before=some (start,stop))
  (h':terminalMarkerSpan (before++more)=some (start',stop'))
  (heq:trimEnd (before.take start)=trimEnd ((before++more).take start')) : start=start' ∧ stop=stop':=by
 obtain ⟨marker,hmarker,hterminal,rfl⟩:=terminalMarkerSpan_some h
 obtain ⟨marker',hmarker',hterminal',rfl⟩:=terminalMarkerSpan_some h'
 have hlength:=hterminal.length hmarker
 have hfront:marker <+: (before++more).drop start:=by
  rw [List.drop_append_of_le_length (by omega)]
  exact hterminal.1.trans (List.prefix_append _ _)
 have htake:before.take start=(before++more).take start :=
  (List.take_append_of_le_length (by omega)).symm
 have hshort:∀ stop,(trimEnd ((before++more).take stop)).length ≤ stop:=by
  intro stop
  have hle:=(trimEnd_front ((before++more).take stop)).length_le
  rw [List.length_take] at hle
  omega
 rw [htake] at heq
 have hsame:start=start':=by
  rcases Nat.lt_trichotomy start start' with hlt | heq' | hgt
  · have hink:=lt_trimEnd_marker hmarker hfront hlt
    have hle:=hshort start
    rw [← heq] at hink
    omega
  · exact heq'
  · have hink:=lt_trimEnd_marker hmarker' hterminal'.1 hgt
    have hle:=hshort start'
    rw [heq] at hink
    omega
 subst hsame
 exact ⟨rfl,by rw [same_marker hmarker hmarker' hfront hterminal'.1]⟩

theorem outcome_whole_iff {before:Text} (h:terminalMarkerSpan before=none) (deltas:List Text) :
  outcome before deltas=outcome before [deltas.flatten] ↔ HarmlessCuts before deltas:=by
 induction deltas generalizing before with
 | nil=>
  refine iff_of_true ?_ trivial
  unfold outcome
  rw [List.flatten_nil,List.append_nil,h]
  rfl
 | cons delta deltas ih=>
  have hwhole:outcome before [(delta::deltas).flatten] = outcome (before++delta) [deltas.flatten]:=by
   unfold outcome
   rw [List.flatten_cons,List.append_assoc]
  rw [hwhole]
  cases hspan:terminalMarkerSpan (before++delta) with
  | none=>
   rw [outcome,HarmlessCuts,hspan]
   exact ih hspan
  | some span=>
   obtain ⟨start,stop⟩:=span
   rw [outcome,HarmlessCuts,hspan]
   dsimp only
   cases hlater:terminalMarkerSpan (before++delta++deltas.flatten) with
   | none=>
    rw [outcome,hlater]
    refine iff_of_false (fun heq=>?_) (by simp)
    exact absurd (congrArg Prod.snd heq) (by simp [outcome])
   | some later=>
    obtain ⟨start',stop'⟩:=later
    rw [outcome,hlater]
    dsimp only
    constructor
    · intro heq
      obtain ⟨rfl,rfl⟩:=same_span hspan hlater (congrArg Prod.fst heq)
      rfl
    · intro hsame
      obtain ⟨rfl,rfl⟩:=Prod.mk.inj (Option.some.inj hsame)
      obtain ⟨marker,hmarker,hterminal,_⟩:=terminalMarkerSpan_some hspan
      have hlength:=hterminal.length hmarker
      have htake:(before++delta++deltas.flatten).take start' =
        (before++delta).take start' := List.take_append_of_le_length (by omega)
      rw [htake]

theorem outcome_markerFree (deltas:List Text) : ∀ before:Text,
  (∀ marker∈cursorEosSentinels,¬marker <:+: before++deltas.flatten) →
   outcome before deltas=(before++deltas.flatten,false):=by
 induction deltas with
 | nil=>
  intro before _
  rw [List.flatten_nil,List.append_nil]
  rfl
 | cons delta deltas ih=>
  intro before hfree
  rw [List.flatten_cons,← List.append_assoc] at hfree ⊢
  have hnone:terminalMarkerSpan (before++delta)=none:=by
   refine terminalMarkerSpan_none.mpr fun marker hmarker place hterminal=>?_
   have hinside:marker <:+: before++delta :=
    hterminal.1.isInfix.trans (List.drop_suffix place _).isInfix
   exact hfree marker hmarker (hinside.trans (List.prefix_append _ _).isInfix)
  unfold outcome
  rw [hnone]
  exact ih (before++delta) hfree

/-- A text in which no marker occurs passes as it is, however it is cut. -/
theorem filterAll_markerFree (deltas:List Text) (hfree:∀ marker∈cursorEosSentinels,¬marker <:+: deltas.flatten) :
    visible (default.filterAll deltas)=deltas.flatten ∧ eos (default.filterAll deltas)=false:=by
  have houtcome:=filterAll_outcome held_start deltas
  rw [List.nil_append,List.nil_append,outcome_markerFree deltas [] hfree] at houtcome
  exact ⟨congrArg Prod.fst houtcome,congrArg Prod.snd houtcome⟩

/-- Blanks and the beginning of a marker are held back, and given back. -/
theorem filterAll_markerFree_partial :
    visible (default.filterAll ["a <".toList,"|e".toList,"os b ◁".toList]) =
      "a <|eos b ◁".toList ∧ eos (default.filterAll ["a <".toList,"|e".toList,"os b ◁".toList])=false :=
  filterAll_markerFree ["a <".toList,"|e".toList,"os b ◁".toList] (by decide +kernel)

end CursorProxy.EosCuts
