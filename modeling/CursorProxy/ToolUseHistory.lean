import CursorProxy.LiveRunKeys
import CursorProxy.XmlRecovery
import CursorProxy.XmlVisibleText

namespace CursorProxy.ToolUseHistory
open CursorProxy.JsonValues ToolNames CautiousScan StreamingLoop XmlElements XmlParser XmlScanning

def startAttrs (id name:Text) : Text :=
 " id=\"".toList++id ++ "\" name=\"".toList++name ++ "\"".toList

def toolUseText (id name input:Text) : Text :=
 "<tool_use".toList++startAttrs id name ++ ">\n".toList++input ++ "\n</tool_use>".toList

/-- What `render_block` makes of a `tool_use` block, with `serde_json::to_string`. -/
def renderBlock (toJson:JsonValue → Text) (block:JsonValue) : Text :=
 let id:=((block.get "id").bind JsonValue.asStr).getD ""
 let name:=((block.get "name").bind JsonValue.asStr).getD ""
 let input:=((block.get "input").map toJson).getD "\x7b\x7d".toList
 toolUseText id.toList name.toList input

/-- The depth after a text, unless a close tag comes before its open tag. -/
def depthAfter (openTag closeTag:Text) : ℕ → ℕ → Text → Option ℕ
 | _,depth,[]=>some depth
 | skip+1,depth,_::text=>depthAfter openTag closeTag skip depth text
 | 0,depth,char::text=>
  if closeTag.isPrefixOf (char::text) then
   if depth=0 then none
   else depthAfter openTag closeTag (closeTag.length-1) (depth-1) text
  else if xmlTagOpenAt (char::text) openTag then
   depthAfter openTag closeTag (openTag.length-1) (depth+1) text
  else depthAfter openTag closeTag 0 depth text

/-- The tags of tool uses in an input, with the line feed behind it, are paired. -/
def Paired (input:Text) : Prop :=
 depthAfter XmlToolKind.toolUse.openTag XmlToolKind.toolUse.closeTag 0 0 (input++['\n'])=some 0

instance (input:Text) : Decidable (Paired input) := inferInstanceAs (Decidable (_=_))

section scan
variable {openTag closeTag:Text} {last:Char}

theorem tag_length {tag:Text} (text more:Text) (h:last ∉ tag)
  (hfront:tag <+: text++[last]++more) : tag.length ≤ text.length:=by
 by_contra hlong
 have hlength:(text++[last]).length ≤ tag.length:=by
  rw [List.length_append,List.length_singleton]
  omega
 have hinside:text++[last] <+: tag :=
  List.prefix_of_prefix_length_le (List.prefix_append _ more) hfront hlength
 exact h (hinside.subset (List.mem_append_right _ List.mem_cons_self))

theorem isPrefixOf_more {tag:Text} (text more:Text) (h:last ∉ tag) :
  tag.isPrefixOf (text++[last]++more)=tag.isPrefixOf (text++[last]):=by
 rw [Bool.eq_iff_iff, List.isPrefixOf_iff_prefix, List.isPrefixOf_iff_prefix]
 refine ⟨fun hlong=>?_,fun hshort=>hshort.trans (List.prefix_append _ _)⟩
 refine List.prefix_of_prefix_length_le hlong (List.prefix_append _ _) ?_
 have hlength:=tag_length text more h hlong
 rw [List.length_append]
 omega

theorem xmlTagOpenAt_more (text more:Text) (h:last ∉ openTag) :
  xmlTagOpenAt (text++[last]++more) openTag=xmlTagOpenAt (text++[last]) openTag:=by
 by_cases hlength:openTag.length<(text++[last]).length
 · exact xmlTagOpenAt_append more hlength
 · have hnot:openTag.isPrefixOf (text++[last])=false:=by
    refine Bool.eq_false_iff.mpr fun hfront=>hlength ?_
    have hin:=tag_length text [] h (by
     rw [List.append_nil]
     exact List.isPrefixOf_iff_prefix.mp hfront)
    rw [List.length_append,List.length_singleton]
    omega
   unfold xmlTagOpenAt
   rw [isPrefixOf_more text more h,hnot,Bool.false_and,Bool.false_and]

theorem scanClose_depthAfter (hopen:last ∉ openTag) (hclose:last ∉ closeTag)
  (hopenPos:0<openTag.length) (hclosePos:0<closeTag.length) (rest:Text)
  {skip depth after:ℕ} {text:Text} (hskip:skip ≤ text.length)
  (h:depthAfter openTag closeTag skip depth (text++[last])=some after) :
  scanClose openTag closeTag skip (depth+1) (text++[last]++rest) =
   (scanClose openTag closeTag 0 (after+1) rest).map (· + (text.length+1)):=by
 induction text generalizing skip depth with
 | nil=>
  obtain rfl : skip=0:=by
   rw [List.length_nil] at hskip
   omega
  have hnotClose:closeTag.isPrefixOf ([]++[last])=false:=by
   refine Bool.eq_false_iff.mpr fun hfront=>?_
   have hin:=tag_length [] [] hclose (by
    rw [List.append_nil]
    exact List.isPrefixOf_iff_prefix.mp hfront)
   rw [List.length_nil] at hin
   omega
  have hnotOpen:xmlTagOpenAt ([]++[last]) openTag=false:=by
   refine Bool.eq_false_iff.mpr fun hfront=>?_
   have hlength:=xmlTagOpenAt_length hfront
   rw [List.nil_append,List.length_singleton] at hlength
   omega
  have hcloseMore:=isPrefixOf_more [] rest hclose
  have hopenMore:=xmlTagOpenAt_more [] rest hopen
  rw [hnotClose] at hcloseMore
  rw [hnotOpen] at hopenMore
  rw [List.nil_append] at h hnotClose hnotOpen
  rw [depthAfter,hnotClose,hnotOpen,if_neg Bool.false_ne_true,if_neg Bool.false_ne_true,depthAfter] at h
  obtain rfl:=Option.some.inj h
  rw [List.nil_append,List.singleton_append] at hcloseMore hopenMore ⊢
  rw [scanClose,hcloseMore,hopenMore,if_neg Bool.false_ne_true,if_neg Bool.false_ne_true]
  rfl
 | cons char text ih=>
  have hlength:(char::text).length=text.length+1:=rfl
  have hcomp:∀ n:ℕ,(n+(text.length+1))+1=n+((char::text).length+1):=by
   intro n
   rw [hlength]
   omega
  cases skip with
  | succ skip=>
   rw [List.cons_append,depthAfter] at h
   rw [List.cons_append,List.cons_append,scanClose,ih (by rw [List.length_cons] at hskip; omega) h,Option.map_map]
   exact congrArg (fun f=>Option.map f _) (funext hcomp)
  | zero=>
   have hcloseMore:=isPrefixOf_more (char::text) rest hclose
   have hopenMore:=xmlTagOpenAt_more (char::text) rest hopen
   rw [List.cons_append] at h hcloseMore hopenMore ⊢
   rw [depthAfter] at h
   rw [List.cons_append] at hcloseMore hopenMore ⊢
   rw [scanClose,hcloseMore,hopenMore]
   by_cases hcloses:closeTag.isPrefixOf (char::(text++[last]))=true
   · rw [if_pos hcloses] at h ⊢
     have hin:=tag_length (char::text) [] hclose (by
      rw [List.append_nil,List.cons_append]
      exact List.isPrefixOf_iff_prefix.mp hcloses)
     rw [List.length_cons] at hin
     split_ifs at h with hdepth
     have hdeeper:depth+1-1=depth-1+1:=by omega
     rw [if_neg (by omega),hdeeper,ih (by omega) h,Option.map_map]
     exact congrArg (fun f=>Option.map f _) (funext hcomp)
   · rw [if_neg hcloses] at h ⊢
     by_cases hopens:xmlTagOpenAt (char::(text++[last])) openTag=true
     · rw [if_pos hopens] at h ⊢
       have hfront:openTag <+: char::text++[last]++[]:=by
        unfold xmlTagOpenAt at hopens
        rw [List.append_nil,List.cons_append]
        exact List.isPrefixOf_iff_prefix.mp (Bool.and_eq_true_iff.mp hopens).1
       have hin:=tag_length (char::text) [] hopen hfront
       rw [List.length_cons] at hin
       rw [ih (by omega) h,Option.map_map]
       exact congrArg (fun f=>Option.map f _) (funext hcomp)
     · rw [if_neg hopens] at h ⊢
       rw [ih (Nat.zero_le _) h,Option.map_map]
       exact congrArg (fun f=>Option.map f _) (funext hcomp)

end scan

theorem replace_absent {char:Char} {pattern replacement text:Text} (h:char ∉ text) :
  replace (char::pattern) replacement 0 text=text:=by
 induction text with
 | nil=>rfl
 | cons first text ih=>
  rw [List.mem_cons,not_or] at h
  have hnot:(char::pattern).isPrefixOf (first::text)=false:=by
   rw [List.isPrefixOf_cons_cons,beq_eq_false_iff_ne.mpr h.1,Bool.false_and]
  rw [replace,hnot,if_neg Bool.false_ne_true,ih h.2]

theorem decodeXmlAttribute_plain {value:Text} (h : '&' ∉ value) : decodeXmlAttribute value=value:=by
 have hentity:∀ entity∈[("&quot;".toList,[quote]),("&apos;".toList,[apostrophe]),
   ("&lt;".toList,['<']),("&gt;".toList,['>']),("&amp;".toList,['&'])],entity.1.head?=some '&' := by decide
 unfold decodeXmlAttribute
 revert hentity
 generalize [("&quot;".toList,[quote]),("&apos;".toList,[apostrophe]),("&lt;".toList,['<']),
  ("&gt;".toList,['>']),("&amp;".toList,['&'])]=entities
 intro hentity
 induction entities with
 | nil=>rfl
 | cons entity entities ih=>
  obtain ⟨pattern,hpattern⟩:=List.head?_eq_some_iff.mp (hentity entity List.mem_cons_self)
  rw [List.foldl_cons,hpattern,replace_absent h]
  exact ih fun other hmem=>hentity other (List.mem_cons_of_mem _ hmem)

theorem parseXmlAttributes_skip (front rest:Text) :
  parseXmlAttributes front.length (front++rest)=parseXmlAttributes 0 rest:=by
 induction front with
 | nil=>rfl
 | cons char front ih=>
  rw [List.length_cons,List.cons_append,parseXmlAttributes,ih]

theorem parseXmlAttributes_quoted {first:Char} {key value:Text} (rest:Text) (hfirst:isNameStart first=true)
  (hkey:key.all (fun char=>isWord char||char == ':' || char == '.' || char == '-')=true)
  (hquote:quote ∉ value) (hplain : '&' ∉ value) :
  parseXmlAttributes 0 (first::(key ++ '=' :: quote::(value++quote::rest))) =
   (String.ofList (first::key),String.ofList value)::parseXmlAttributes 0 rest:=by
 have hname:(key ++ '=' :: quote::(value++quote::rest)).dropWhile
   (fun char=>isWord char||char == ':' || char == '.' || char == '-') =
    '=' :: quote::(value++quote::rest):=by
  rw [List.dropWhile_append_of_pos (List.all_eq_true.mp hkey)]
  exact List.dropWhile_cons_of_neg (by decide)
 have htaken:(key ++ '=' :: quote::(value++quote::rest)).takeWhile
   (fun char=>isWord char||char == ':' || char == '.' || char == '-')=key:=by
  rw [List.takeWhile_append_of_pos (List.all_eq_true.mp hkey),List.takeWhile_cons_of_neg (by decide),List.append_nil]
 have hinside:∀ char∈value,(char != quote)=true:=by
  intro char hmem
  exact bne_iff_ne.mpr fun hsame=>hquote (hsame ▸ hmem)
 have hrest:(value++quote::rest).dropWhile (fun char=>char != quote)=quote::rest:=by
  rw [List.dropWhile_append_of_pos hinside]
  exact List.dropWhile_cons_of_neg (by decide)
 have hvalue:(value++quote::rest).takeWhile (fun char=>char != quote)=value:=by
  rw [List.takeWhile_append_of_pos hinside,List.takeWhile_cons_of_neg (by decide),
   List.append_nil]
 have hmatch:matchAttribute (first::(key ++ '=' :: quote::(value++quote::rest))) =
   some (first::key,value,rest):=by
  have hequals:('=' :: quote::(value++quote::rest)).dropWhile isSpace =
    '=' :: quote::(value++quote::rest) := List.dropWhile_cons_of_neg (by decide)
  have hopening:(quote::(value++quote::rest)).dropWhile isSpace =
    quote::(value++quote::rest) := List.dropWhile_cons_of_neg (by decide)
  have hopens:(('=' : Char) == '=' && (quote==quote||quote==apostrophe))=true:=by
   decide
  simp only [matchAttribute,hfirst,hname,htaken,hequals,hopening,hopens,hrest,hvalue,if_true]
 rw [parseXmlAttributes,hmatch]
 dsimp only
 rw [decodeXmlAttribute_plain hplain]
 have hsplit:key ++ '=' :: quote::(value++quote::rest) = (key ++ '=' :: quote::(value++[quote]))++rest:=by
  simp
 have hskip:(key ++ '=' :: quote::(value++quote::rest)).length-rest.length =
   (key ++ '=' :: quote::(value++[quote])).length:=by
  rw [hsplit,List.length_append,Nat.add_sub_cancel]
 rw [hskip,hsplit,parseXmlAttributes_skip]

theorem parseXmlAttributes_startAttrs {id name:Text} (hid:quote ∉ id ∧ '&' ∉ id) (hname:quote ∉ name ∧ '&' ∉ name) :
  parseXmlAttributes 0 (startAttrs id name) = [("id",String.ofList id),("name",String.ofList name)]:=by
 have hattrs:startAttrs id name = ' ' :: 'i' :: (['d'] ++ '=' :: quote::(id++quote ::
   (' ' :: 'n' :: (['a','m','e'] ++ '=' :: quote::(name++quote::[]))))):=by
  have hfront : " id=\"".toList=[' ','i','d','=',quote]:=by decide
  have hmiddle : "\" name=\"".toList=[quote,' ','n','a','m','e','=',quote]:=by decide
  have hend : "\"".toList=[quote]:=by decide
  unfold startAttrs
  rw [hfront,hmiddle,hend]
  simp
 have hblank (text:Text) : parseXmlAttributes 0 (' ' :: text)=parseXmlAttributes 0 text:=by
  have hmatch:matchAttribute (' ' :: text)=none:=rfl
  rw [parseXmlAttributes,hmatch]
 rw [hattrs,hblank,parseXmlAttributes_quoted _ (by decide) (by decide) hid.1 hid.2,hblank,
  parseXmlAttributes_quoted _ (by decide) (by decide) hname.1 hname.2]
 rfl

section element
variable {id name input:Text}

def bodyText (input:Text) : Text := '\n' :: (input++['\n'])

theorem toolUseText_eq (id name input:Text) : toolUseText id name input =
  XmlToolKind.toolUse.openTag++startAttrs id name ++ '>' :: (bodyText input++XmlToolKind.toolUse.closeTag):=by
 have hgt : ">\n".toList=['>','\n']:=by decide
 have hclose : "\n</tool_use>".toList = '\n' :: XmlToolKind.toolUse.closeTag:=by
  unfold XmlToolKind.closeTag
  simp -index only [String.toList_ofList]
 have hopen : "<tool_use".toList=XmlToolKind.toolUse.openTag:=rfl
 unfold toolUseText bodyText
 rw [hgt,hclose,hopen]
 simp only [List.append_assoc,List.cons_append,List.nil_append]

theorem find_gt (input:Text) (hid : '>' ∉ id) (hname : '>' ∉ name) :
  find ['>'] (toolUseText id name input) = some (XmlToolKind.toolUse.openTag++startAttrs id name).length:=by
 rw [toolUseText_eq]
 refine find_single _ _ ?_
 have htag : '>' ∉ XmlToolKind.toolUse.openTag:=by decide
 have hwords : '>' ∉ " id=\"".toList ∧ '>' ∉ "\" name=\"".toList ∧ '>' ∉ "\"".toList:=by decide
 unfold startAttrs
 simp only [List.mem_append,not_or]
 exact ⟨htag,⟨⟨⟨hwords.1,hid⟩,hwords.2.1⟩,hname⟩,hwords.2.2⟩

theorem toolUseText_drop (id name input:Text) :
  (toolUseText id name input).drop ((XmlToolKind.toolUse.openTag++startAttrs id name).length+1) =
   bodyText input++XmlToolKind.toolUse.closeTag:=by
 rw [toolUseText_eq,List.append_cons]
 exact List.drop_left' List.length_append

theorem findMatchingNamedClose_toolUseText (hid : '>' ∉ id) (hname : '>' ∉ name) (hpaired:Paired input) :
  findMatchingNamedClose (toolUseText id name input) XmlToolKind.toolUse.openTag XmlToolKind.toolUse.closeTag =
   some ((toolUseText id name input).length-XmlToolKind.toolUse.closeTag.length):=by
 have hopen:xmlTagOpenAt (toolUseText id name input) XmlToolKind.toolUse.openTag=true:=by
  have hattrs:∃ more,startAttrs id name = ' ' :: more :=
   ⟨_,by unfold startAttrs; simp -index only [String.toList_ofList]; rfl⟩
  obtain ⟨more,hmore⟩:=hattrs
  unfold xmlTagOpenAt
  rw [toolUseText_eq,List.append_assoc,List.drop_left,hmore,Bool.and_eq_true]
  exact ⟨List.isPrefixOf_iff_prefix.mpr (List.prefix_append _ _),rfl⟩
 have hscan:scanClose XmlToolKind.toolUse.openTag XmlToolKind.toolUse.closeTag 0 1
   (bodyText input++XmlToolKind.toolUse.closeTag)=some (bodyText input).length:=by
  have hfeed:∀ tag∈[XmlToolKind.toolUse.openTag,XmlToolKind.toolUse.closeTag],'\n' ∉ tag ∧ 0<tag.length := by decide
  obtain ⟨hopenFeed,hopenPos⟩:=hfeed _ List.mem_cons_self
  obtain ⟨hcloseFeed,hclosePos⟩:=hfeed _ (List.mem_cons_of_mem _ List.mem_cons_self)
  have hpasses:=scanClose_depthAfter hopenFeed hcloseFeed hopenPos hclosePos
   XmlToolKind.toolUse.closeTag (Nat.zero_le _) hpaired
  have hends:scanClose XmlToolKind.toolUse.openTag XmlToolKind.toolUse.closeTag 0 1
    XmlToolKind.toolUse.closeTag=some 0 := by decide
  have hfirst (text:Text) : scanClose XmlToolKind.toolUse.openTag
    XmlToolKind.toolUse.closeTag 0 1 ('\n' :: text)=(scanClose XmlToolKind.toolUse.openTag
     XmlToolKind.toolUse.closeTag 0 1 text).map (· + 1) := rfl
  unfold bodyText
  rw [List.cons_append,hfirst,hpasses,hends]
  simp
 unfold findMatchingNamedClose
 rw [if_pos hopen,find_gt input hid hname,Option.bind_some,toolUseText_drop,hscan,Option.map_some,toolUseText_eq]
 refine congrArg some ?_
 simp only [List.length_append,List.length_cons]
 omega

theorem splitTaggedElement_toolUseText (input:Text) (hid : '>' ∉ id) (hname : '>' ∉ name) :
  splitTaggedElement (toolUseText id name input) .toolUse = some (startAttrs id name,bodyText input):=by
 have hfind:=find_gt input hid hname
 have hfront:XmlToolKind.toolUse.openTag.isPrefixOf (toolUseText id name input)=true:=by
  rw [toolUseText_eq,List.append_assoc]
  exact List.isPrefixOf_iff_prefix.mpr (List.prefix_append _ _)
 have hback:XmlToolKind.toolUse.closeTag.isSuffixOf (toolUseText id name input)=true:=by
  rw [toolUseText_eq,← List.cons_append,← List.append_assoc]
  exact List.isSuffixOf_iff_suffix.mpr (List.suffix_append _ _)
 unfold splitTaggedElement
 rw [hfront,hback,Bool.and_true,if_pos rfl,hfind,Option.map_some]
 refine congrArg some (Prod.ext ?_ ?_)
 · dsimp only
   rw [toolUseText_eq,List.take_left' rfl,List.drop_left]
 · dsimp only
   have hinner:(toolUseText id name input).take
     ((toolUseText id name input).length-XmlToolKind.toolUse.closeTag.length) =
     XmlToolKind.toolUse.openTag++startAttrs id name ++ '>' :: bodyText input:=by
    rw [toolUseText_eq,← List.cons_append,← List.append_assoc]
    exact List.take_left' (by simp only [List.length_append,List.length_cons]; omega)
   rw [hinner,List.append_cons]
   exact List.drop_left' List.length_append

theorem nextXmlToolStart_toolUseText (id name input:Text) :
  nextXmlToolStart (toolUseText id name input)=some (0,.toolUse):=by
 have hfind:find XmlToolKind.toolUse.openTag (toolUseText id name input)=some 0:=by
  have hfront:XmlToolKind.toolUse.openTag.isPrefixOf (toolUseText id name input)=true:=by
   rw [toolUseText_eq,List.append_assoc]
   exact List.isPrefixOf_iff_prefix.mpr (List.prefix_append _ _)
  cases htext:toolUseText id name input with
  | nil=>
   rw [htext] at hfront
   exact absurd hfront (by decide)
  | cons char text=>
   rw [htext] at hfront
   exact if_pos hfront
 unfold nextXmlToolStart
 rw [hfind]
 cases find XmlToolKind.toolCall.openTag (toolUseText id name input) <;> rfl

end element

/-- `serde_json` writes an object between braces and reads back what it wrote. -/
structure Serialized (fromStr:Text → Option JsonValue) (toJson:JsonValue → Text)
  (members:Members) : Prop where
 reads : fromStr (toJson (.object members))=some (.object members)
 braces : ∃ middle,toJson (.object members) = '\x7b' :: (middle++['\x7d'])

section recovery
variable {env:XmlEnv} {toJson:JsonValue → Text} {members:Members} {allowed:List String} {id name:String}

theorem canonicalizeAllowedToolName_exact (hmem:name∈allowed)
  (hplain:(eqIgnoreAsciiCase name "Edit" || isTextEditorToolName name)=false) :
  canonicalizeAllowedToolName (some allowed) name=some name:=by
 have hfind:allowed.find? (fun advertised=>advertised==name)=some name:=by
  cases hcase:allowed.find? (fun advertised=>advertised==name) with
  | none=>exact absurd (beq_self_eq_true name) (List.find?_eq_none.mp hcase name hmem)
  | some found=>
   have hsame:found=name:=by
    have hfound:=List.find?_some hcase
    exact beq_iff_eq.mp hfound
   rw [hsame]
 unfold canonicalizeAllowedToolName
 dsimp only
 rw [hplain,hfind]
 rfl

theorem trim_bodyText (h:Serialized env.fromStr toJson members) :
  trim (bodyText (toJson (.object members)))=toJson (.object members) ∧
   trim (toJson (.object members))=toJson (.object members):=by
 obtain ⟨middle,hbraces⟩:=h.braces
 have hself:trim ('\x7b' :: (middle++['\x7d'])) = '\x7b' :: (middle++['\x7d']) :=
  LiveRunKeys.trim_eq_self (by decide) (by decide)
 have hstart:trimStart (bodyText ('\x7b' :: (middle++['\x7d']))) = '\x7b' :: (middle++['\x7d'])++['\n']:=by
  unfold trimStart bodyText
  rw [List.dropWhile_cons_of_pos (by decide)]
  exact List.dropWhile_cons_of_neg (by decide)
 rw [hbraces]
 refine ⟨?_,hself⟩
 unfold trim
 rw [hstart,List.rdropWhile_concat_pos _ _ _ (by decide),← List.cons_append]
 exact List.rdropWhile_concat_neg _ _ _ (by decide)

theorem parseToolUse_toolUseText (ids:ℕ) (hallowed:env.allowedToolNames=some allowed)
  (hmem:name∈allowed) (hplain:(eqIgnoreAsciiCase name "Edit" || isTextEditorToolName name)=false)
  (hquiet:∀ char∈id.toList++name.toList,char ∉ [quote,'<','>','&']) (hid:id ≠ "")
  (hserialized:Serialized env.fromStr toJson members) :
  parseToolUse env ids (toolUseText id.toList name.toList (toJson (.object members))) =
   some ⟨ids,some id,name,members⟩:=by
 have hfree (char:Char) (hchar:char∈[quote,'<','>','&']) : char ∉ id.toList ∧ char ∉ name.toList :=
  ⟨fun h=>hquiet char (List.mem_append_left _ h) hchar,
   fun h=>hquiet char (List.mem_append_right _ h) hchar⟩
 obtain ⟨hquoteId,hquoteName⟩:=hfree quote (by decide)
 obtain ⟨hgtId,hgtName⟩:=hfree '>' (by decide)
 obtain ⟨handId,handName⟩:=hfree '&' (by decide)
 have hsplit:=splitTaggedElement_toolUseText (toJson (.object members)) hgtId hgtName
 have hattrs:=parseXmlAttributes_startAttrs ⟨hquoteId,handId⟩ ⟨hquoteName,handName⟩
 obtain ⟨htrim,hself⟩:=trim_bodyText hserialized
 have hne:(toJson (.object members)).isEmpty=false:=by
  obtain ⟨middle,hbraces⟩:=hserialized.braces
  rw [hbraces]
  rfl
 have hobject:parseJsonObject env (toJson (.object members))=some members:=by
  unfold parseJsonObject
  rw [hself,hserialized.reads]
 have hname:attrValue [("id",id),("name",name)] "name" = some name:=rfl
 have hidValue:(attrValue [("id",id),("name",name)] "id").filter (· != "")=some id:=by
  have hvalue:attrValue [("id",id),("name",name)] "id" = some id:=rfl
  rw [hvalue,Option.filter_some,if_pos (bne_iff_ne.mpr hid)]
 unfold parseToolUse
 rw [hsplit]
 simp only [Option.bind_eq_bind,Option.bind_some,hattrs,String.ofList_toList,hname,hidValue,
  hallowed,canonicalizeAllowedToolName_exact hmem hplain,htrim,hne,hobject]
 rfl

/-- A `tool_use` block whose markup is plain, and whose input pairs the tags of tool uses, comes
back as the one tool use of its text. -/
theorem history_roundTrip {block:JsonValue} (hallowed:env.allowedToolNames=some allowed)
    (hblockId:block.get "id" = some (.string id)) (hblockName:block.get "name" = some (.string name))
    (hblockInput:block.get "input" = some (.object members))
    (hserialized:Serialized env.fromStr toJson members) (hmem:name∈allowed)
    (hplain:(eqIgnoreAsciiCase name "Edit" || isTextEditorToolName name)=false)
    (hquiet:∀ char∈id.toList++name.toList,char ∉ [quote,'<','>','&'])
    (hid:id ≠ "") (hpaired:Paired (toJson (.object members))) :
    CursorToolUseXmlParser.new.recover env [renderBlock toJson block] = [.toolUse ⟨0,some id,name,members⟩]:=by
  have htext:renderBlock toJson block = toolUseText id.toList name.toList (toJson (.object members)):=by
    unfold renderBlock
    rw [hblockId,hblockName,hblockInput]
    rfl
  have hgt : '>' ∉ id.toList ∧ '>' ∉ name.toList :=
    ⟨fun h=>hquiet '>' (List.mem_append_left _ h) (by decide),
      fun h=>hquiet '>' (List.mem_append_right _ h) (by decide)⟩
  have hparsed:=parseToolUse_toolUseText 0 hallowed hmem hplain hquiet hid hserialized
  have hclose:=findMatchingNamedClose_toolUseText hgt.1 hgt.2 hpaired
  have hstart:=nextXmlToolStart_toolUseText id.toList name.toList (toJson (.object members))
  rw [htext]
  generalize toolUseText id.toList name.toList (toJson (.object members))=text at *
  have hturn:(drain env false).body ⟨text,false,0⟩ =
      .again ⟨[],true,1⟩ [.toolUse ⟨0,some id,name,members⟩]:=by
    have hroom:=(findMatchingNamedClose_append (tags_length .toolUse) [] hclose).1
    have hend:text.length-XmlToolKind.toolUse.closeTag.length +
        XmlToolKind.toolUse.closeTag.length=text.length := by omega
    have hpositive:0<XmlToolKind.toolUse.closeTag.length:=by decide
    have hfull:text.isEmpty=false :=
      List.isEmpty_eq_false_iff.mpr (List.ne_nil_of_length_pos (by omega))
    have hdrop:dropRedundantCloseTag false text=none:=rfl
    have hxml:parseXmlTool env 0 text .toolUse=some ⟨0,some id,name,members⟩:=hparsed
    change drainBody env false ⟨text,false,0⟩=_
    unfold drainBody element
    simp only [hfull,hdrop,hstart,hclose,hend,List.take_length,List.drop_length,hxml,
      Bool.false_eq_true,if_false,Nat.lt_irrefl]
  have hdone (flush:Bool) : (drain env flush).body ⟨[],true,1⟩=.done ⟨[],true,1⟩ [] () := rfl
  have hpush:CursorToolUseXmlParser.new.push env text = (⟨[],true,1⟩,[.toolUse ⟨0,some id,name,members⟩]):=by
    unfold CursorToolUseXmlParser.push CursorToolUseXmlParser.extend CursorToolUseXmlParser.new
    rw [List.nil_append,MeasuredLoop.run_again _ hturn,MeasuredLoop.run_done _ (hdone false)]
    rfl
  unfold CursorToolUseXmlParser.recover
  rw [hpush]
  unfold CursorToolUseXmlParser.recover CursorToolUseXmlParser.flush
  rw [MeasuredLoop.run_done _ (hdone true)]
  rfl

end recovery

def commandInput (command:String) : Members := [("command",.string command)]

def bashBlock (command:String) : JsonValue :=
 .object [("id",.string "toolu_1"),("input",.object (commandInput command)),
  ("name",.string "Bash"),("type",.string "tool_use")]

/-- The text of a command without characters that need an escape. -/
def commandJson : JsonValue → Text
 | .object [("command",.string command)]=>
  "\x7b\"command\":\"".toList++command.toList ++ "\"\x7d".toList
 | _ => "null".toList

def pairedCommand : String := "echo '<tool_use></tool_use>'"

def strayCommand : String := "grep '</tool_use>' a.md"

def commandEnv : XmlEnv where
 allowedToolNames := some ["Bash","Read"]
 fromStr text :=
  if text=commandJson (.object (commandInput pairedCommand)) then
   some (.object (commandInput pairedCommand))
  else if text=commandJson (.object (commandInput strayCommand)) then
   some (.object (commandInput strayCommand))
  else none

theorem history_roundTrip_paired :
    CursorToolUseXmlParser.new.recover commandEnv [renderBlock commandJson (bashBlock pairedCommand)] =
      [.toolUse ⟨0,some "toolu_1","Bash",commandInput pairedCommand⟩]:=by
  have hserialized:Serialized commandEnv.fromStr commandJson (commandInput pairedCommand):=by
    have hreads:commandEnv.fromStr (commandJson (.object (commandInput pairedCommand))) =
        some (.object (commandInput pairedCommand)) := rfl
    refine ⟨hreads,"\"command\":\"echo '<tool_use></tool_use>'\"".toList,?_⟩
    decide +kernel
  have hquiet:("toolu_1".toList ++ "Bash".toList).all (fun char=>decide (char ∉ [quote,'<','>','&']))=true := by decide
  exact history_roundTrip rfl rfl rfl rfl hserialized List.mem_cons_self (by decide +kernel)
    (fun char hchar=>of_decide_eq_true (List.all_eq_true.mp hquiet char hchar)) (by decide)
    (by decide +kernel)

/-- The close tag in the command ends the element: nothing is recovered, and the end of the input
is shown. -/
theorem stray_close_tag :
    commandEnv.fromStr (commandJson (.object (commandInput strayCommand))) =
        some (.object (commandInput strayCommand)) ∧
      (XmlRecovery.toolUses (CursorToolUseXmlParser.new.recover commandEnv
        [renderBlock commandJson (bashBlock strayCommand)])).isEmpty=true ∧
      XmlVisibleText.visible (CursorToolUseXmlParser.new.recover commandEnv
        [renderBlock commandJson (bashBlock strayCommand)]) = "' a.md\"\x7d\n</tool_use>".toList:=by
  refine ⟨rfl,?_,?_⟩
  · decide +kernel
  · decide +kernel

end CursorProxy.ToolUseHistory
