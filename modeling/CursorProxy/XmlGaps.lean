import CursorProxy.XmlScanning

/-! A run of the parser begins by passing a gap: the text up to the next tool element, or up to
what may yet become markup. That is a cautious scan, so that where a gap ends does not depend on
the cuts. -/
namespace CursorProxy.XmlGaps
open CautiousScan StreamingLoop XmlElements XmlParser XmlScanning

variable {env:XmlEnv} {recovered:Bool} {kind:XmlToolKind} {buffer:Text}

/-- What is held back while incomplete; close tags are after a recovery only. -/
def heldMarkers (recovered:Bool) : List Text :=
 [XmlToolKind.toolUse.openTag,XmlToolKind.toolCall.openTag] ++
  if recovered then redundantCloseTags else []

def endsGap (recovered:Bool) (text:Text) : Bool :=
 (toolStartAt text).isSome ||
  (heldMarkers recovered).any fun marker=>
   text.isPrefixOf marker&&text.length < marker.length

abbrev gapOf (recovered:Bool) : Text → Text := gap (endsGap recovered)
abbrev restOf (recovered:Bool) : Text → Text := rest (endsGap recovered)

theorem openTag_held (recovered:Bool) (kind:XmlToolKind) : kind.openTag∈heldMarkers recovered:=by
 cases kind <;> simp [heldMarkers]

theorem held_recovered (recovered:Bool) {marker:Text} (h:marker∈heldMarkers recovered) : marker∈heldMarkers true:=by
 cases recovered with
 | true=>exact h
 | false=>
  unfold heldMarkers at h ⊢
  exact List.mem_append_left _ (by simpa using h)

theorem endsGap_iff {text:Text} : endsGap recovered text=true ↔
 (∃ kind:XmlToolKind,kind.openTag <+: text) ∨
  ∃ marker∈heldMarkers recovered,text <+: marker ∧ text.length < marker.length:=by
 unfold endsGap
 rw [Bool.or_eq_true,List.any_eq_true]
 refine or_congr ?_ ?_
 · constructor
   · intro h
     obtain ⟨kind,hkind⟩:=Option.isSome_iff_exists.mp h
     exact ⟨kind,toolStartAt_some hkind⟩
   · exact fun ⟨kind,hkind⟩=>toolStartAt_isSome hkind
 · simp [List.isPrefixOf_iff_prefix]

theorem endsGap_cautious (recovered:Bool) : Cautious (endsGap recovered):=by
 intro char text xs h
 rw [endsGap_iff] at h ⊢
 rcases h with ⟨kind,hkind⟩ | ⟨marker,hmarker,hfront,hlength⟩
 · rcases List.prefix_or_prefix_of_prefix hkind (List.prefix_append (char::text) xs)
    with hopen | hshort
   · exact .inl ⟨kind,hopen⟩
   · rcases Nat.lt_or_ge (char::text).length kind.openTag.length with hlt | hge
     · exact .inr ⟨kind.openTag,openTag_held recovered kind,hshort,hlt⟩
     · exact .inl ⟨kind,(hshort.eq_of_length_le hge) ▸ List.prefix_refl _⟩
 · have hle:(char::text).length ≤ (char::text++xs).length :=
    (List.prefix_append _ _).length_le
   exact .inr ⟨marker,hmarker,(List.prefix_append _ _).trans hfront,hle.trans_lt hlength⟩

theorem marker_head : ∀ marker∈heldMarkers true,marker.head?=some '<' := by decide

theorem endsGap_head {char:Char} {text:Text} (h:endsGap recovered (char::text)=true) : char = '<' := by
 have hhead:∀ marker∈heldMarkers true,(marker <+: char::text ∨ char::text <+: marker) → char = '<' := by
  intro marker hmarker hfront
  have hfirst:=marker_head marker hmarker
  cases marker with
  | nil=>exact absurd hfirst (by simp)
  | cons first marker=>
   obtain rfl : first = '<' := by simpa using hfirst
   rcases hfront with hfront | hfront
   · exact (List.cons_prefix_cons.mp hfront).1.symm
   · exact (List.cons_prefix_cons.mp hfront).1
 rcases endsGap_iff.mp h with ⟨kind,hkind⟩ | ⟨marker,hmarker,hfront,_⟩
 · exact hhead kind.openTag (openTag_held true kind) (.inl hkind)
 · exact hhead marker (held_recovered recovered hmarker) (.inr hfront)

theorem not_endsGap {char:Char} (h:char ≠ '<') (text:Text) : endsGap recovered (char::text)=false :=
 Bool.eq_false_iff.mpr fun hends=>h (endsGap_head hends)

theorem gap_passes (recovered:Bool) {passed:Text} (h : '<' ∉ passed) (after:Text) :
 gapOf recovered (passed++after)=passed++gapOf recovered after ∧
  restOf recovered (passed++after)=restOf recovered after:=by
 refine gap_rest_of_passed passed after fun char text hsuffix=>?_
 refine not_endsGap (fun heq=>?_) _
 exact h (heq ▸ hsuffix.subset List.mem_cons_self)

theorem closeTags_not_held : ∀ tag∈redundantCloseTags,∀ marker∈heldMarkers true,tag <+: marker → tag=marker := by decide

theorem closeTags_not_open : ∀ tag∈redundantCloseTags,
 ¬XmlToolKind.toolUse.openTag <+: tag ∧ ¬XmlToolKind.toolCall.openTag <+: tag ∧ 10 ≤ tag.length := by decide

theorem not_endsGap_closeTag (recovered:Bool) {tag:Text} (htag:tag∈redundantCloseTags)
 (after:Text) : endsGap recovered (tag++after)=false:=by
 refine Bool.eq_false_iff.mpr fun hends=>?_
 obtain ⟨huse,hcall,hlength⟩:=closeTags_not_open tag htag
 rcases endsGap_iff.mp hends with ⟨kind,hkind⟩ | ⟨marker,hmarker,hfront,hshort⟩
 · have hinside:=List.prefix_of_prefix_length_le hkind (List.prefix_append tag after)
    ((openTags_length kind).2.trans hlength)
   cases kind
   · exact huse hinside
   · exact hcall hinside
 · have hle:=(List.prefix_append tag after).length_le
   obtain rfl:=closeTags_not_held tag htag marker (held_recovered recovered hmarker)
    ((List.prefix_append tag after).trans hfront)
   omega

theorem closeTags_tail : ∀ tag∈redundantCloseTags, '<' ∉ tag.tail ∧ tag≠[] := by decide

theorem gap_passes_closeTag (recovered:Bool) {tag:Text} (htag:tag∈redundantCloseTags) (after:Text) :
 gapOf recovered (tag++after)=tag++gapOf recovered after ∧ restOf recovered (tag++after)=restOf recovered after:=by
 have hends:=not_endsGap_closeTag recovered htag after
 obtain ⟨htail,hne⟩:=closeTags_tail tag htag
 cases tag with
 | nil=>exact absurd rfl hne
 | cons first tag=>
  obtain ⟨hgap,hrest⟩:=gap_passes recovered htail after
  rw [List.cons_append] at hends ⊢
  rw [gapOf,restOf,gap_passed hends,rest_passed hends]
  exact ⟨congrArg (first :: ·) hgap,hrest⟩

theorem whitespace_passes {passed:Text} (h:∀ char∈passed,isWhitespace char=true) :
 '<' ∉ passed := fun hmem=>absurd (h '<' hmem) (by decide)

theorem marker_startless : ∀ marker∈heldMarkers true,∀ length < marker.length,
 nextXmlToolStart (marker.take length)=none := by decide +kernel

theorem gap_of_start (recovered:Bool) {start:ℕ} (h:nextXmlToolStart buffer=some (start,kind)) :
 gapOf recovered buffer=buffer.take start ∧ restOf recovered buffer=buffer.drop start:=by
 induction buffer generalizing start with
 | nil=>exact absurd h (by simp [nextXmlToolStart_nil])
 | cons char text ih=>
  have hstart:=h
  rw [nextXmlToolStart_cons] at hstart
  split at hstart
  · rename_i found hkind
    cases hstart
    have hends:endsGap recovered (char::text)=true :=
     endsGap_iff.mpr (.inl ⟨_,toolStartAt_some hkind⟩)
    exact ⟨gap_stopped hends,rest_stopped hends⟩
  · rename_i hnone
    obtain ⟨⟨later,found⟩,hlater,heq⟩:=Option.map_eq_some_iff.mp hstart
    cases heq
    have hpass:endsGap recovered (char::text)=false:=by
     refine Bool.eq_false_iff.mpr fun hends=>?_
     rcases endsGap_iff.mp hends with ⟨kind',hkind'⟩ | ⟨marker,hmarker,hfront,hlength⟩
     · have hsome:=toolStartAt_isSome hkind'
       rw [hnone] at hsome
       exact absurd hsome (by simp)
     · -- The beginning of a marker has no tool start in it.
       have hstartless:=marker_startless marker (held_recovered recovered hmarker) _ hlength
       rw [← List.prefix_iff_eq_take.mp hfront,h] at hstartless
       exact absurd hstartless (by simp)
    obtain ⟨hgap,hrest⟩:=ih hlater
    rw [gapOf,restOf,gap_passed hpass,rest_passed hpass]
    exact ⟨congrArg (char :: ·) hgap,hrest⟩

theorem no_start_suffix {text:Text} (h:nextXmlToolStart buffer=none) (hsuffix:text <:+ buffer) :
 nextXmlToolStart text=none:=by
 induction buffer with
 | nil=>
  rw [List.suffix_nil.mp hsuffix]
  exact h
 | cons char rest ih=>
  rcases List.suffix_cons_iff.mp hsuffix with rfl | htail
  · exact h
  · rw [nextXmlToolStart_cons] at h
    split at h
    · exact absurd h (by simp)
    · exact ih (Option.map_eq_none_iff.mp h) htail

theorem not_open_of_no_start (h:nextXmlToolStart buffer=none) (kind:XmlToolKind) : ¬kind.openTag <+: buffer:=by
 intro hfront
 cases buffer with
 | nil=>
  have hpositive:=(openTags_length kind).1
  have:=hfront.length_le
  rw [List.length_nil] at this
  omega
 | cons char text=>
  rw [nextXmlToolStart_cons] at h
  split at h
  · exact absurd h (by simp)
  · rename_i hnone
    have hsome:=toolStartAt_isSome hfront
    rw [hnone] at hsome
    exact absurd hsome (by simp)

theorem heldLength_eq (recovered:Bool) (buffer:Text) : heldLength recovered buffer =
 ((heldMarkers recovered).map (prefixSuffixLength buffer)).foldr max 0:=by
 unfold heldLength heldMarkers xmlToolPrefixSuffixLength xmlClosePrefixSuffixLength
 rw [List.map_append,List.foldr_append,List.map_cons,List.map_cons,List.map_nil,
  List.foldr_cons,List.foldr_cons,List.foldr_nil]
 cases recovered with
 | false=>exact congrArg (max _) (Nat.max_zero _).symm
 | true=>exact Nat.max_assoc _ _ _

theorem held_eq_rest (recovered:Bool) (h:nextXmlToolStart buffer=none) :
 heldLength recovered buffer=(restOf recovered buffer).length:=by
 rw [heldLength_eq]
 apply Nat.le_antisymm
 · rcases foldr_max_mem ((heldMarkers recovered).map (prefixSuffixLength buffer)) with hzero | hmem
   · omega
   · obtain ⟨marker,hmarker,hheld⟩:=List.mem_map.mp hmem
     rw [← hheld]
     by_cases hzero:prefixSuffixLength buffer marker=0
     · omega
     · obtain ⟨⟨hne,hfront,hshort⟩,hlength⟩:=begins_drop hzero
       have hends:endsGap recovered (buffer.drop (buffer.length-prefixSuffixLength buffer marker))=true :=
        endsGap_iff.mpr (.inr ⟨marker,hmarker,hfront,hshort⟩)
       have hdrop:=List.length_drop (l := buffer) (i := buffer.length-prefixSuffixLength buffer marker)
       cases htail:buffer.drop (buffer.length-prefixSuffixLength buffer marker) with
       | nil=>exact absurd htail hne
       | cons char text=>
        have hle:=length_le_rest (htail ▸ List.drop_suffix _ buffer) (htail ▸ hends)
        rw [← htail,hdrop] at hle
        change _ ≤ (restOf recovered buffer).length at hle
        omega
 · rcases rest_nil_or_stops (endsGap recovered) buffer with hnil | hends
   · rw [restOf,hnil]
     exact Nat.zero_le _
   · have hsuffix:=rest_suffix (endsGap recovered) buffer
     rcases endsGap_iff.mp hends with ⟨kind,hkind⟩ | ⟨marker,hmarker,hfront,hshort⟩
     · exact absurd hkind (not_open_of_no_start (no_start_suffix h hsuffix) kind)
     · by_cases hne:restOf recovered buffer=[]
       · rw [hne]
         exact Nat.zero_le _
       · exact (le_prefixSuffixLength hsuffix ⟨hne,hfront,hshort⟩).trans (le_foldr_max (List.mem_map_of_mem hmarker))

theorem gap_of_end (recovered:Bool) (h:nextXmlToolStart buffer=none) :
 gapOf recovered buffer=buffer.take (buffer.length-heldLength recovered buffer) ∧
  restOf recovered buffer=buffer.drop (buffer.length-heldLength recovered buffer):=by
 have hsplit:gapOf recovered buffer++restOf recovered buffer=buffer :=
  gap_append_rest _ buffer
 have hlength:(gapOf recovered buffer).length = buffer.length-heldLength recovered buffer:=by
  have hsum:=congrArg List.length hsplit
  rw [List.length_append] at hsum
  rw [held_eq_rest recovered h]
  omega
 constructor
 · calc
    gapOf recovered buffer =
     (gapOf recovered buffer++restOf recovered buffer).take
      (buffer.length-heldLength recovered buffer) := (List.take_left' hlength).symm
    _=buffer.take (buffer.length-heldLength recovered buffer) := by rw [hsplit]
 · calc
    restOf recovered buffer =
     (gapOf recovered buffer++restOf recovered buffer).drop
      (buffer.length-heldLength recovered buffer) := (List.drop_left' hlength).symm
    _=buffer.drop (buffer.length-heldLength recovered buffer) := by rw [hsplit]

end CursorProxy.XmlGaps
