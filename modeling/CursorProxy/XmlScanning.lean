import CursorProxy.XmlParser

namespace CursorProxy.XmlScanning
open CautiousScan StreamingLoop XmlElements XmlParser

variable {env:XmlEnv} {recovered:Bool} {kind:XmlToolKind}

theorem xmlTagOpenAt_append {rest openTag:Text} (xs:Text) (h:openTag.length<rest.length) :
 xmlTagOpenAt (rest++xs) openTag=xmlTagOpenAt rest openTag:=by
 have hfront:openTag.isPrefixOf (rest++xs)=openTag.isPrefixOf rest:=by
  rw [Bool.eq_iff_iff, List.isPrefixOf_iff_prefix, List.isPrefixOf_iff_prefix]
  exact ⟨fun hlong=>List.prefix_of_prefix_length_le hlong (List.prefix_append rest xs) h.le,
   fun hshort=>hshort.trans (List.prefix_append _ _)⟩
 unfold xmlTagOpenAt
 rw [hfront,List.drop_append_of_le_length h.le]
 cases hdrop:rest.drop openTag.length with
 | nil=>exact absurd (List.drop_eq_nil_iff.mp hdrop) (by omega)
 | cons char text=>rfl

theorem xmlTagOpenAt_length {rest openTag:Text} (h:xmlTagOpenAt rest openTag=true) : openTag.length<rest.length:=by
 unfold xmlTagOpenAt at h
 cases hdrop:rest.drop openTag.length with
 | nil=>
  rw [hdrop] at h
  exact absurd h (by simp)
 | cons char text=>
  have hlength:=congrArg List.length hdrop
  rw [List.length_drop,List.length_cons] at hlength
  omega

theorem scanClose_append {openTag closeTag:Text} (htags:openTag.length<closeTag.length)
 (xs:Text) {skip depth place:ℕ} {text:Text} (h:scanClose openTag closeTag skip depth text=some place) :
 place+closeTag.length ≤ text.length ∧ scanClose openTag closeTag skip depth (text++xs)=some place:=by
 induction text generalizing skip depth place with
 | nil=>
  unfold scanClose at h
  exact absurd h (by simp)
 | cons char text ih=>
  cases skip with
  | succ skip=>
   unfold scanClose at h
   obtain ⟨place,hplace,rfl⟩:=Option.map_eq_some_iff.mp h
   obtain ⟨hlength,hagain⟩:=ih hplace
   refine ⟨by rw [List.length_cons]; omega,?_⟩
   rw [List.cons_append,scanClose,hagain]
   rfl
  | zero=>
   unfold scanClose at h
   rw [List.cons_append,scanClose,← List.cons_append]
   split_ifs at h with hclose hdepth hopen
   · obtain rfl:=Option.some.inj h
     have hfront := List.isPrefixOf_iff_prefix.mp hclose
     have hlonger := List.isPrefixOf_iff_prefix.mpr (hfront.trans (List.prefix_append _ xs))
     rw [if_pos hlonger,if_pos hdepth,Nat.zero_add]
     exact ⟨hfront.length_le,rfl⟩
   · obtain ⟨place,hplace,rfl⟩:=Option.map_eq_some_iff.mp h
     obtain ⟨hlength,hagain⟩:=ih hplace
     have hfront := List.isPrefixOf_iff_prefix.mp hclose
     have hlonger := List.isPrefixOf_iff_prefix.mpr (hfront.trans (List.prefix_append _ xs))
     rw [if_pos hlonger,if_neg hdepth,hagain]
     exact ⟨by rw [List.length_cons]; omega,rfl⟩
   all_goals
    obtain ⟨place,hplace,rfl⟩:=Option.map_eq_some_iff.mp h
    obtain ⟨hlength,hagain⟩:=ih hplace
    have hroom:closeTag.length ≤ (char::text).length:=by
     rw [List.length_cons]
     omega
    rw [List.isPrefixOf_iff_prefix] at hclose
    have hlonger:¬closeTag.isPrefixOf (char::text++xs)=true:=by
     rw [List.isPrefixOf_iff_prefix]
     exact not_prefix_append hclose hroom
    rw [if_neg hlonger,xmlTagOpenAt_append xs (by omega)]
   · rw [if_pos hopen,hagain]
     exact ⟨by rw [List.length_cons]; omega,rfl⟩
   · rw [if_neg hopen,hagain]
     exact ⟨by rw [List.length_cons]; omega,rfl⟩

theorem findMatchingNamedClose_append {buffer openTag closeTag:Text}
 (htags:openTag.length<closeTag.length) (xs:Text) {place:ℕ}
 (h:findMatchingNamedClose buffer openTag closeTag=some place) :
 place+closeTag.length ≤ buffer.length ∧ findMatchingNamedClose (buffer++xs) openTag closeTag=some place:=by
 unfold findMatchingNamedClose at h ⊢
 split_ifs at h with hopen
 obtain ⟨openGt,hgt,hscan⟩:=Option.bind_eq_some_iff.mp h
 obtain ⟨inner,hinner,rfl⟩:=Option.map_eq_some_iff.mp hscan
 have hgtLength:=find_length hgt
 obtain ⟨hlength,hagain⟩:=scanClose_append htags xs hinner
 rw [List.length_drop] at hlength
 rw [List.length_singleton] at hgtLength
 rw [xmlTagOpenAt_append xs (xmlTagOpenAt_length hopen),if_pos hopen,find_append xs hgt]
 refine ⟨by omega,?_⟩
 rw [Option.bind_some,List.drop_append_of_le_length (by omega),hagain]
 rfl

theorem tags_length (kind:XmlToolKind) : kind.openTag.length<kind.closeTag.length:=by
 cases kind <;> decide

def toolStartAt (text:Text) : Option XmlToolKind :=
 if XmlToolKind.toolUse.openTag.isPrefixOf text then some .toolUse
 else if XmlToolKind.toolCall.openTag.isPrefixOf text then some .toolCall
 else none

theorem toolStartAt_some {text:Text} (h:toolStartAt text=some kind) : kind.openTag <+: text:=by
 unfold toolStartAt at h
 split_ifs at h with huse hcall
 · obtain rfl:=Option.some.inj h
   exact List.isPrefixOf_iff_prefix.mp huse
 · obtain rfl:=Option.some.inj h
   exact List.isPrefixOf_iff_prefix.mp hcall

theorem toolStartAt_isSome {text:Text} (h:kind.openTag <+: text) : (toolStartAt text).isSome=true:=by
 unfold toolStartAt
 rw [← List.isPrefixOf_iff_prefix] at h
 cases kind
 · rw [if_pos h]
   rfl
 · rw [if_pos h]
   split_ifs <;> rfl

theorem earlierStart_succ (useAt callAt:Option ℕ) :
 earlierStart (useAt.map (· + 1)) (callAt.map (· + 1)) =
  (earlierStart useAt callAt).map fun start=>(start.1+1,start.2):=by
 cases useAt with
 | none=>cases callAt <;> rfl
 | some useAt=>
  cases callAt with
  | none=>rfl
  | some callAt=>
   simp only [earlierStart,Option.map_some,Nat.add_le_add_iff_right]
   split_ifs <;> rfl

theorem nextXmlToolStart_cons (char:Char) (text:Text) :
 nextXmlToolStart (char::text) = match toolStartAt (char::text) with
  | some kind=>some (0,kind)
  | none=>(nextXmlToolStart text).map fun start=>(start.1+1,start.2):=by
 unfold nextXmlToolStart toolStartAt
 generalize XmlToolKind.toolUse.openTag=useTag
 generalize XmlToolKind.toolCall.openTag=callTag
 simp only [find]
 by_cases huse:useTag.isPrefixOf (char::text)=true
 · rw [if_pos huse,if_pos huse]
   split_ifs
   · rfl
   · cases find callTag text <;> rfl
 · rw [if_neg huse,if_neg huse]
   by_cases hcall:callTag.isPrefixOf (char::text)=true
   · rw [if_pos hcall,if_pos hcall]
     cases find useTag text <;> rfl
   · rw [if_neg hcall,if_neg hcall]
     exact earlierStart_succ _ _

theorem nextXmlToolStart_some {buffer:Text} {start:ℕ}
 (h:nextXmlToolStart buffer=some (start,kind)) : kind.openTag <+: buffer.drop start:=by
 induction buffer generalizing start with
 | nil=>exact absurd h (by simp [nextXmlToolStart_nil])
 | cons char text ih=>
  rw [nextXmlToolStart_cons] at h
  split at h
  · rename_i kind' hkind
    cases h
    exact toolStartAt_some hkind
  · obtain ⟨⟨start,kind'⟩,hstart,heq⟩:=Option.map_eq_some_iff.mp h
    cases heq
    exact ih hstart

theorem openTags_length (kind:XmlToolKind) : 9 ≤ kind.openTag.length ∧ kind.openTag.length ≤ 10:=by
 cases kind <;> decide

theorem toolStartAt_append {text:Text} (xs:Text) (h:10 ≤ text.length) : toolStartAt (text++xs)=toolStartAt text:=by
 have hfront:∀ kind:XmlToolKind,kind.openTag.isPrefixOf (text++xs)=kind.openTag.isPrefixOf text:=by
  intro kind
  rw [Bool.eq_iff_iff, List.isPrefixOf_iff_prefix, List.isPrefixOf_iff_prefix]
  exact ⟨fun hlong=>List.prefix_of_prefix_length_le hlong (List.prefix_append text xs)
   ((openTags_length kind).2.trans h),fun hshort=>hshort.trans (List.prefix_append _ _)⟩
 unfold toolStartAt
 rw [hfront,hfront]

theorem toolStartAt_extend {text:Text} (xs:Text) (h:toolStartAt text=some kind) : toolStartAt (text++xs)=some kind:=by
 have hfront:=toolStartAt_some h
 cases kind with
 | toolUse=>
  exact if_pos (List.isPrefixOf_iff_prefix.mpr (hfront.trans (List.prefix_append text xs)))
 | toolCall=>rw [toolStartAt_append xs hfront.length_le,h]

theorem nextXmlToolStart_append {buffer:Text} (xs:Text) {start:ℕ} (h:nextXmlToolStart buffer=some (start,kind)) :
 nextXmlToolStart (buffer++xs)=some (start,kind):=by
 induction buffer generalizing start with
 | nil=>exact absurd h (by simp [nextXmlToolStart_nil])
 | cons char text ih=>
  rw [nextXmlToolStart_cons] at h
  rw [List.cons_append,nextXmlToolStart_cons,← List.cons_append]
  split at h
  · rename_i found hkind
    cases h
    rw [toolStartAt_extend xs hkind]
  · rename_i hnone
    obtain ⟨⟨later,found⟩,hstart,heq⟩:=Option.map_eq_some_iff.mp h
    cases heq
    -- The tag that comes later makes the text long enough for both tags.
    have hlength:=(nextXmlToolStart_some hstart).length_le
    have hopen:=(openTags_length found).1
    rw [List.length_drop] at hlength
    rw [toolStartAt_append xs (by rw [List.length_cons]; omega),hnone,ih hstart]
    rfl

theorem closeTags_prefix_free : ∀ tag∈redundantCloseTags,∀ other∈redundantCloseTags,
 tag <+: other → tag=other := by decide

theorem dropRedundantCloseTag_eq {tag after:Text} (htag:tag∈redundantCloseTags)
 {buffer:Text} (hslice:trimStart buffer=tag++after) :
 dropRedundantCloseTag true buffer=some (buffer.takeWhile isWhitespace++after):=by
 unfold dropRedundantCloseTag
 rw [if_pos rfl]
 have hfind:(redundantCloseTags.find? fun tag=>tag.isPrefixOf (trimStart buffer)) =
  some tag:=by
  cases hfound:redundantCloseTags.find? fun tag=>tag.isPrefixOf (trimStart buffer) with
  | none=>
   have hnone:=List.find?_eq_none.mp hfound tag htag
   rw [List.isPrefixOf_iff_prefix,hslice] at hnone
   exact absurd (List.prefix_append tag after) hnone
  | some found=>
   have hmem:=List.mem_of_find?_eq_some hfound
   have hfront:=List.find?_some hfound
   rw [List.isPrefixOf_iff_prefix,hslice] at hfront
   rcases List.prefix_or_prefix_of_prefix hfront (List.prefix_append tag after) with hle | hle
   · rw [closeTags_prefix_free found hmem tag htag hle]
   · rw [closeTags_prefix_free tag htag found hmem hle]
 dsimp only
 rw [hfind,Option.map_some,hslice,List.drop_left]

theorem dropRedundantCloseTag_none {buffer:Text}
 (h:dropRedundantCloseTag true buffer=none) {tag:Text} (htag:tag∈redundantCloseTags) :
 ¬tag <+: trimStart buffer:=by
 rintro ⟨after,hslice⟩
 rw [dropRedundantCloseTag_eq htag hslice.symm] at h
 exact absurd h (by simp)

theorem trimStart_append {text:Text} (xs:Text) (h:trimStart text≠[]) :
 trimStart (text++xs)=trimStart text++xs ∧ (text++xs).takeWhile isWhitespace=text.takeWhile isWhitespace:=by
 unfold trimStart at h ⊢
 have hshort:(text.takeWhile isWhitespace).length≠text.length:=by
  intro hlength
  have hsplit:=congrArg List.length (List.takeWhile_append_dropWhile (p := isWhitespace) (l := text))
  rw [List.length_append,hlength] at hsplit
  exact h (List.length_eq_zero_iff.mp (by omega))
 rw [List.dropWhile_append,List.takeWhile_append,if_neg (by simpa using h),if_neg hshort]
 exact ⟨rfl,rfl⟩

theorem dropRedundantCloseTag_append {buffer buffer':Text} (xs:Text)
 (h:dropRedundantCloseTag recovered buffer=some buffer') :
 dropRedundantCloseTag recovered (buffer++xs)=some (buffer'++xs):=by
 obtain ⟨tag,htag,after,hslice,rfl,rfl⟩:=dropRedundantCloseTag_some h
 have hne:trimStart buffer≠[]:=by
  rw [hslice]
  have:=redundantCloseTags_ne tag htag
  exact List.append_ne_nil_of_left_ne_nil (List.ne_nil_of_length_pos this) _
 obtain ⟨htrim,htake⟩:=trimStart_append xs hne
 rw [hslice,List.append_assoc] at htrim
 rw [dropRedundantCloseTag_eq htag htrim,htake,List.append_assoc]

end CursorProxy.XmlScanning
