import CursorProxy.CautiousScan
import CursorProxy.RetryPolicy
import CursorProxy.XmlElements

/-! The text of a page. A place in the page is the text from there on. -/
namespace CursorProxy.HtmlTexts
open CautiousScan RetryPolicy XmlElements

/-- Behind the close tag, or at the end. -/
def afterContainer (tag html:Text) : Text :=
 match find ('<' :: '/' :: tag++['>']) (toAsciiLowercase html) with
 | some place=>html.drop (place+(tag.length+3))
 | none=>[]

theorem afterContainer_length (tag html:Text) : (afterContainer tag html).length ≤ html.length:=by
 unfold afterContainer
 split
 · rw [List.length_drop]
   exact Nat.sub_le _ _
 · exact Nat.zero_le _

theorem toAsciiLowercase_length (text:Text) : (toAsciiLowercase text).length=text.length :=
 List.length_map _

def stripContainer (tag html:Text) : Text :=
 match hfound:find ('<'::tag) (toAsciiLowercase html) with
 | some start=>
  html.take start++stripContainer tag (afterContainer tag (html.drop (start+(tag.length+1))))
 | none=>html
termination_by html.length
decreasing_by
 have hlength:=find_length hfound
 have hafter:=afterContainer_length tag (html.drop (start+(tag.length+1)))
 rw [toAsciiLowercase_length,List.length_cons] at hlength
 rw [List.length_drop] at hafter
 omega

def blockTags : List Text :=
 ["<p","<br","<div","<tr","<li","<h1","<h2","<h3","<h4","<h5","<h6","</p","</div","</tr","</li",
  "</h"].map String.toList

def isBreak (lower:Text) : Bool := blockTags.any (·.isPrefixOf lower)

def insertBlockBreaks : Text → Text
 | []=>[]
 | char::rest=>
  if char= '<' then
   (if isBreak (toAsciiLowercase (char::rest)) then ['\n'] else []) ++
    match find ['>'] (char::rest) with
    | some place=>insertBlockBreaks (rest.drop place)
    | none=>char::insertBlockBreaks rest
  else char::insertBlockBreaks rest
termination_by html=>html.length

def stripTags : Bool → Text → Text
 | _,[]=>[]
 | inTag,char::text=>
  if char= '<' then stripTags true text
  else if char= '>' then stripTags false text
  else if inTag then stripTags inTag text
  else char::stripTags inTag text

def entities : List (Text×Char) :=
 [("&amp;".toList,'&'),("&lt;".toList,'<'),("&gt;".toList,'>'),("&quot;".toList,quote),("&#39;".toList,apostrophe)]

def unescapeAll (entities:List (Text×Char)) (text:Text) : Text :=
 entities.foldl (fun text entity=>replace entity.1 [entity.2] 0 text) text

def htmlUnescape (text:Text) : Text :=
 replace "&nbsp;".toList [' '] 0 (unescapeAll entities text)

def collapse : ℕ → Bool → Text → Text → Text
 | _,_,out,[]=>out
 | newlineRun,space,out,char::text=>
  if char= '\n' ∨ char= '\r' then
   if newlineRun<2 then collapse (newlineRun+1) false (out++['\n']) text
   else collapse newlineRun false out text
  else if isWhitespace char then collapse newlineRun true out text
  else
   let apart:=space&&!out.isEmpty&&out.getLast?≠some '\n'
   collapse 0 false (out++(if apart then [' '] else [])++[char]) text

def collapseWs (text:Text) : Text := trim (collapse 0 false [] text)

def extractTitle (html:Text) : Text :=
 match find "<title".toList (toAsciiLowercase html) with
 | none=>[]
 | some start=>
  match find ['>'] (html.drop start) with
  | none=>[]
  | some gt=>
   let after:=html.drop (start+gt+1)
   match find "</title>".toList (toAsciiLowercase after) with
   | none=>[]
   | some place=>collapseWs (htmlUnescape (stripTags false (after.take place)))

def htmlToText (html:Text) : Text×Text :=
 let stripped:=stripContainer "style".toList (stripContainer "script".toList html)
 (extractTitle stripped,collapseWs (htmlUnescape (stripTags false (insertBlockBreaks stripped))))

/-- A character of the text, an inline tag, or an element whose content is not text. -/
inductive Piece where
 | char (char:Char)
 | tag (inner:Text)
 | container (tag front content back:Text)

/-- A character as it is escaped when these entities are in use. -/
def escape (entities:List (Text×Char)) (char:Char) : Text :=
 ((entities.find? fun entity=>entity.2=char).map Prod.fst).getD [char]

namespace Piece

def html : Piece → Text
 | .char c=>escape entities c
 | .tag inner => '<'::(inner++['>'])
 | .container _ front content back=>front++(content++back)

def text : Piece → Text
 | .char c=>[c]
 | _=>[]

def isContainer (wanted:Text) : Piece → Bool
 | .container name _ _ _=>name=wanted
 | _=>false

/-- An inline tag begins like no block tag and no container; a style has no script in it. -/
def WellFormed : Piece → Prop
 | .char _=>True
 | .tag inner => '<' ∉ inner ∧ '>' ∉ inner ∧
  ∀ word∈"<script".toList::"<style".toList::blockTags,
   ¬word <+: toAsciiLowercase ('<'::(inner++['>']))
 | .container name front content back=>toAsciiLowercase front= '<'::name ∧
  toAsciiLowercase back= '<' :: '/' :: name++['>'] ∧
  find ('<' :: '/' :: name++['>']) (toAsciiLowercase (content++back))=some content.length ∧
  (name="script".toList ∨ name="style".toList ∧
   find "<script".toList (toAsciiLowercase (front++(content++back)))=none)

end Piece

section
variable {tag word text rest:Text} {char:Char}

theorem lower_append (text more:Text) : toAsciiLowercase (text++more)=toAsciiLowercase text++toAsciiLowercase more :=
 List.map_append

theorem lower_open (h:Char.toLower char= '<') : char= '<' :=
 (toLower_eq_iff (by decide)).mp h

theorem not_prefix_closed (hword: '>' ∉ word) (h:¬word <+: text) (hclosed: '>' ∈text) : ¬word <+: text++rest:=by
 intro hbegins
 rcases List.prefix_or_prefix_of_prefix hbegins (List.prefix_append text rest) with hfront | hback
 · exact h hfront
 · exact hword (hback.subset hclosed)

theorem strip_cons (h:¬ '<'::tag <+: toAsciiLowercase (char::rest)) :
  stripContainer tag (char::rest)=char::stripContainer tag rest:=by
 have hfind:find ('<'::tag) (toAsciiLowercase (char::rest)) = (find ('<'::tag) (toAsciiLowercase rest)).map (· + 1) :=
  if_neg fun hbegins=>h (List.isPrefixOf_iff_prefix.mp hbegins)
 rw [stripContainer.eq_def tag (char::rest),stripContainer.eq_def tag rest]
 cases hrest:find ('<'::tag) (toAsciiLowercase rest) with
 | none=>
  rw [hrest] at hfind
  split
  · rename_i hfound
    cases hfound.symm.trans hfind
  · rfl
 | some start=>
  rw [hrest] at hfind
  split
  · rename_i hfound
    obtain rfl:=Option.some.inj (hfound.symm.trans hfind)
    rw [Nat.add_right_comm]
    rfl
  · rename_i hnone
    cases hnone.symm.trans hfind

theorem strip_append (h:∀ c cs,c::cs <:+ text → ¬ '<'::tag <+: toAsciiLowercase (c::cs++rest)) :
  stripContainer tag (text++rest)=text++stripContainer tag rest:=by
 induction text with
 | nil=>rfl
 | cons char text ih=>
  have hhere:=h char text (List.suffix_refl _)
  rw [List.cons_append] at hhere ⊢
  rw [strip_cons hhere,ih fun c cs hsuffix=>h c cs (hsuffix.trans (List.suffix_cons char text))]
  rfl

theorem strip_plain (h: '<' ∉ text) : stripContainer tag (text++rest)=text++stripContainer tag rest:=by
 refine strip_append fun c cs hsuffix hbegins=>h ?_
 rw [← lower_open (List.cons_prefix_cons.mp hbegins).1.symm]
 exact hsuffix.subset List.mem_cons_self

/-- Through a piece that ends in `>` no container begins that does not begin in it. -/
theorem strip_closed (htag: '>' ∉ tag) {front:Text} (htext:toAsciiLowercase text=front++['>'])
  (h:find ('<'::tag) (toAsciiLowercase text)=none) :
  stripContainer tag (text++rest)=text++stripContainer tag rest:=by
 refine strip_append fun c cs hsuffix=>?_
 rw [lower_append]
 have hlower:toAsciiLowercase (c::cs) <:+ toAsciiLowercase text:=hsuffix.map _
 refine not_prefix_closed (by simpa using htag) (not_prefix_of_find_none h hlower) ?_
 rw [htext] at hlower
 obtain ⟨before,hbefore⟩:=hlower
 have hlast:=congrArg List.getLast? hbefore
 rw [List.getLast?_append,List.getLast?_concat] at hlast
 refine List.mem_of_getLast? ?_
 cases hcs:(toAsciiLowercase (c::cs)).getLast? with
 | none=>cases List.getLast?_eq_none_iff.mp hcs
 | some last=>rwa [hcs] at hlast

theorem strip_removed {front content back:Text} (hfront:toAsciiLowercase front= '<'::tag)
  (hback:toAsciiLowercase back= '<' :: '/' :: tag++['>'])
  (hclose:find ('<' :: '/' :: tag++['>']) (toAsciiLowercase (content++back))=some content.length) :
  stripContainer tag (front++(content++back)++rest)=stripContainer tag rest:=by
 have hfrontLength:front.length=tag.length+1:=by
  rw [← toAsciiLowercase_length,hfront,List.length_cons]
 have hbackLength:back.length=tag.length+3:=by
  rw [← toAsciiLowercase_length,hback]
  simp
 have hfind:find ('<'::tag) (toAsciiLowercase (front++(content++back)++rest))=some 0:=by
  rw [List.append_assoc,lower_append,hfront]
  exact if_pos (List.isPrefixOf_iff_prefix.mpr (List.prefix_append ('<'::tag) _))
 rw [stripContainer.eq_def]
 split
 · rename_i start hfound
   obtain rfl:=Option.some.inj (hfound.symm.trans hfind)
   have hdrop:(front++(content++back)++rest).drop (0+(tag.length+1))=content++back++rest:=by
    rw [Nat.zero_add,← hfrontLength,List.append_assoc,List.drop_left]
   rw [hdrop,afterContainer,lower_append,find_append _ hclose]
   dsimp only
   rw [← hbackLength,← List.length_append,List.drop_left]
   rfl
 · rename_i hnone
   cases hnone.symm.trans hfind

theorem tag_closed {inner:Text} : '>'∈toAsciiLowercase ('<'::(inner++['>'])):=by
 simp [toAsciiLowercase]

theorem escape_plain (c:Char) : '<' ∉ escape entities c ∧ '>' ∉ escape entities c:=by
 unfold escape
 cases hfound:entities.find? fun entity=>entity.2=c with
 | none=>
  have hnone:=List.find?_eq_none.mp hfound
  constructor
  · intro hmem
    exact hnone ("&lt;".toList,'<') (by decide) (decide_eq_true (List.mem_singleton.mp hmem))
  · intro hmem
    exact hnone ("&gt;".toList,'>') (by decide) (decide_eq_true (List.mem_singleton.mp hmem))
 | some entity=>
  have hplain:∀ entity∈entities,'<' ∉ entity.1 ∧ '>' ∉ entity.1:=by decide
  exact hplain entity (List.mem_of_find?_eq_some hfound)

theorem strip_all {pieces:List Piece} (h:∀ piece∈pieces,∀ rest,stripContainer tag (piece.html++rest) =
  if piece.isContainer tag then stripContainer tag rest
  else piece.html++stripContainer tag rest) :
  stripContainer tag (pieces.flatMap Piece.html) =
   (pieces.filter fun piece=>!piece.isContainer tag).flatMap Piece.html:=by
 induction pieces with
 | nil=>
  rw [List.flatMap_nil,stripContainer.eq_def]
  rfl
 | cons piece pieces ih=>
  obtain ⟨hpiece,hpieces⟩:=List.forall_mem_cons.mp h
  rw [List.flatMap_cons,hpiece,ih hpieces,List.filter_cons]
  cases piece.isContainer tag with
  | true=>rfl
  | false=>exact (List.flatMap_cons ..).symm

theorem strip_char (c:Char) : stripContainer tag ((Piece.char c).html++rest) =
  (Piece.char c).html++stripContainer tag rest :=
 strip_plain (escape_plain c).1

theorem strip_tag {inner:Text} (htag: '>' ∉ tag) (h: '<' ∉ inner)
  (hword:¬ '<'::tag <+: toAsciiLowercase ('<'::(inner++['>']))) :
  stripContainer tag ((Piece.tag inner).html++rest) = (Piece.tag inner).html++stripContainer tag rest:=by
 have hopen:¬ '<'::tag <+: toAsciiLowercase ('<'::((inner++['>'])++rest)):=by
  change ¬_ <+: toAsciiLowercase (('<'::(inner++['>']))++rest)
  rw [lower_append]
  exact not_prefix_closed (by simpa using htag) hword tag_closed
 have hplain : '<' ∉ inner++['>']:=by simpa using h
 change stripContainer tag ('<'::((inner++['>'])++rest))=_
 rw [strip_cons hopen,strip_plain hplain]
 rfl

/-- Both passes take the containers away, and nothing else. -/
theorem strip_pieces {pieces:List Piece} (h:∀ piece∈pieces,piece.WellFormed) :
  stripContainer "style".toList (stripContainer "script".toList (pieces.flatMap Piece.html)) =
   ((pieces.filter fun piece=>!piece.isContainer "script".toList).filter fun piece=>
    !piece.isContainer "style".toList).flatMap Piece.html:=by
 rw [strip_all,strip_all]
 · intro piece hpiece rest
   obtain ⟨hmem,hkept⟩:=List.mem_filter.mp hpiece
   have hwell:=h piece hmem
   cases piece with
   | char c=>exact strip_char c
   | tag inner=>exact strip_tag (by decide) hwell.1 (hwell.2.2 _ (by decide))
   | container name front content back=>
    obtain ⟨hfront,hback,hclose,rfl | ⟨rfl,hstyle⟩⟩:=hwell
    · cases hkept
    · exact strip_removed hfront hback hclose
 · intro piece hpiece rest
   have hwell:=h piece hpiece
   cases piece with
   | char c=>exact strip_char c
   | tag inner=>exact strip_tag (by decide) hwell.1 (hwell.2.2 _ (by decide))
   | container name front content back=>
    obtain ⟨hfront,hback,hclose,rfl | ⟨rfl,hstyle⟩⟩:=hwell
    · exact strip_removed hfront hback hclose
    · have hends:toAsciiLowercase (front++(content++back)) =
        (toAsciiLowercase (front++content)++"</style".toList)++['>']:=by
       rw [← List.append_assoc,lower_append (front++content),hback,List.append_assoc]
       rfl
      exact strip_closed (by decide) hends hstyle

theorem breaks_plain (h: '<' ∉ text) : insertBlockBreaks (text++rest)=text++insertBlockBreaks rest:=by
 induction text with
 | nil=>rfl
 | cons char text ih=>
  rw [List.mem_cons,not_or] at h
  rw [List.cons_append,insertBlockBreaks,if_neg (Ne.symm h.1),ih h.2]
  rfl

theorem breaks_tag {inner:Text} (h:(Piece.tag inner).WellFormed) :
  insertBlockBreaks ((Piece.tag inner).html++rest)=insertBlockBreaks rest:=by
 have hbreak:isBreak (toAsciiLowercase ('<'::(inner++['>']++rest)))=false:=by
  refine Bool.eq_false_iff.mpr fun hany=>?_
  obtain ⟨word,hword,hbegins⟩:=List.any_eq_true.mp hany
  have hopen := List.isPrefixOf_iff_prefix.mp hbegins
  change word <+: toAsciiLowercase (('<'::(inner++['>']))++rest) at hopen
  rw [lower_append] at hopen
  exact not_prefix_closed ((by decide:∀ word∈blockTags, '>' ∉ word) word hword)
   (h.2.2 word (List.mem_cons_of_mem _ (List.mem_cons_of_mem _ hword))) tag_closed hopen
 have hfind:=find_single ('<'::inner) rest (a := '>') (by simpa using h.2.1)
 change insertBlockBreaks ('<'::(inner++['>']++rest))=_
 rw [List.append_assoc,List.singleton_append] at hbreak ⊢
 rw [insertBlockBreaks,if_pos rfl,hbreak,if_neg Bool.false_ne_true,List.nil_append]
 rw [List.cons_append] at hfind
 rw [hfind]
 dsimp only
 rw [List.length_cons,List.drop_append,List.drop_of_length_le (by omega),Nat.add_sub_cancel_left]
 rfl

theorem stripTags_plain (h: '<' ∉ text ∧ '>' ∉ text) : stripTags false text=text:=by
 induction text with
 | nil=>rfl
 | cons char text ih=>
  simp only [List.mem_cons,not_or] at h
  rw [stripTags,if_neg (Ne.symm h.1.1),if_neg (Ne.symm h.2.1),if_neg Bool.false_ne_true,ih ⟨h.1.2,h.2.2⟩]

/-- What is left of the tags is the escaped text. -/
theorem breaks_pieces {pieces:List Piece} (h:∀ piece∈pieces,piece.WellFormed)
  (htext:∀ piece∈pieces,∀ name front content back,piece≠.container name front content back) :
  insertBlockBreaks (pieces.flatMap Piece.html) = (pieces.flatMap Piece.text).flatMap (escape entities):=by
 induction pieces with
 | nil=>rw [List.flatMap_nil,insertBlockBreaks]; rfl
 | cons piece pieces ih=>
  obtain ⟨hpiece,hpieces⟩:=List.forall_mem_cons.mp h
  obtain ⟨hhead,htail⟩:=List.forall_mem_cons.mp htext
  rw [List.flatMap_cons,List.flatMap_cons,List.flatMap_append,← ih hpieces htail]
  cases piece with
  | char c=>
   change insertBlockBreaks (escape entities c++_)=_
   rw [breaks_plain (escape_plain c).1]
   exact congrArg (·++_) (List.append_nil _).symm
  | tag inner=>exact breaks_tag hpiece
  | container name front content back=>exact absurd rfl (hhead name front content back)

theorem replace_skip {pattern new:Text} (text rest:Text) :
  replace pattern new text.length (text++rest)=replace pattern new 0 rest:=by
 induction text with
 | nil=>rfl
 | cons char text ih=>exact ih

theorem replace_miss {pattern new:Text} (h:¬pattern <+: char::rest) :
  replace pattern new 0 (char::rest)=char::replace pattern new 0 rest :=
 if_neg fun hbegins=>h (List.isPrefixOf_iff_prefix.mp hbegins)

theorem replace_code {code new:Text} (hcode:code≠[]) :
  replace code new 0 (code++rest)=new++replace code new 0 rest:=by
 obtain ⟨first,code,rfl⟩:=List.exists_cons_of_ne_nil hcode
 have hbegins:(first::code).isPrefixOf (first::(code++rest))=true :=
  List.isPrefixOf_iff_prefix.mpr (List.prefix_append (first::code) rest)
 rw [List.cons_append,replace,if_pos hbegins]
 exact congrArg (new++·) (replace_skip code rest)

theorem replace_pass {code new:Text} (h : '&' ∉ text) :
  replace ('&'::code) new 0 (text++rest)=text++replace ('&'::code) new 0 rest:=by
 induction text with
 | nil=>rfl
 | cons char text ih=>
  rw [List.mem_cons,not_or] at h
  rw [List.cons_append,replace_miss fun hbegins=>h.1 (List.cons_prefix_cons.mp hbegins).1,ih h.2]
  rfl

/-- Each entity is `&` and a name, and none begins like another. -/
structure Codes (entities:List (Text×Char)) : Prop where
 named : ∀ entity∈entities,∃ name,entity.1= '&'::name ∧ '&' ∉ name
 apart : entities.Pairwise fun entity other=>entity.2≠other.2 ∧ ¬entity.1 <+: other.1 ∧
  ¬other.1 <+: entity.1

variable {codes:List (Text×Char)} {code:Text×Char}

/-- Behind a raw `&` the escapes of a text read as a name only where the text does. -/
theorem name_of_escaped (hcodes:Codes codes) {name:Text} (hname : '&' ∉ name)
  (h:name <+: text.flatMap (escape codes)) : name <+: text:=by
 induction name generalizing text with
 | nil=>exact List.nil_prefix
 | cons first name ih=>
  rw [List.mem_cons,not_or] at hname
  cases text with
  | nil=>cases List.prefix_nil.mp h
  | cons char text=>
   rw [List.flatMap_cons] at h
   unfold escape at h
   cases hfound:codes.find? fun entity=>entity.2=char with
   | none=>
    rw [hfound] at h
    obtain ⟨rfl,htail⟩:=List.cons_prefix_cons.mp h
    exact List.cons_prefix_cons.mpr ⟨rfl,ih hname.2 htail⟩
   | some entity=>
    obtain ⟨other,hother,-⟩:=hcodes.named entity (List.mem_of_find?_eq_some hfound)
    rw [hfound,Option.map_some,Option.getD_some,hother] at h
    exact absurd (List.cons_prefix_cons.mp h).1.symm hname.1

theorem replace_escaped (hcodes:Codes (code::codes)) (htext:code.2= '&' ∨ ¬code.1 <:+: text) :
  replace code.1 [code.2] 0 (text.flatMap (escape (code::codes))) = text.flatMap (escape codes):=by
 obtain ⟨name,hname,hplain⟩:=hcodes.named code List.mem_cons_self
 obtain ⟨hfirst,hrest⟩:=List.pairwise_cons.mp hcodes.apart
 have hnone:codes.find? (fun entity=>entity.2=code.2)=none :=
  List.find?_eq_none.mpr fun other hmem hsame=>(hfirst other hmem).1 (of_decide_eq_true hsame).symm
 induction text with
 | nil=>rfl
 | cons char text ih=>
  have hlater:=ih (htext.imp_right fun hnot hinner=>hnot (hinner.trans (List.suffix_cons char text).isInfix))
  rw [List.flatMap_cons,List.flatMap_cons,← hlater]
  by_cases hsame : code.2=char
  · subst hsame
    have hcode:escape (code::codes) code.2=code.1:=by
     unfold escape
     rw [List.find?_cons_of_pos (by simp)]
     rfl
    have hraw:escape codes code.2=[code.2]:=by
     unfold escape
     rw [hnone]
     rfl
    rw [hcode,hraw,replace_code (by rw [hname]; exact List.cons_ne_nil _ _)]
  have hkept:escape (code::codes) char=escape codes char:=by
   unfold escape
   rw [List.find?_cons_of_neg (by simpa using hsame)]
  rw [hkept]
  unfold escape
  cases hfound:codes.find? fun entity=>entity.2=char with
  | none=>
   change replace code.1 [code.2] 0 (char::text.flatMap (escape (code::codes)))=char::_
   refine replace_miss fun hbegins=>?_
   rw [hname] at hbegins
   obtain ⟨rfl,htail⟩:=List.cons_prefix_cons.mp hbegins
   refine (htext.resolve_left hsame) ?_
   rw [hname]
   exact (List.cons_prefix_cons.mpr ⟨rfl,name_of_escaped hcodes hplain htail⟩).isInfix
  | some other=>
   have hmem:=List.mem_of_find?_eq_some hfound
   obtain ⟨otherName,hother,hotherPlain⟩:=hcodes.named other (List.mem_cons_of_mem _ hmem)
   have hmiss:¬code.1 <+: other.1++text.flatMap (escape (code::codes)):=fun hbegins=>
    (List.prefix_or_prefix_of_prefix hbegins (List.prefix_append other.1 _)).elim
     (hfirst other hmem).2.1 (hfirst other hmem).2.2
   change replace code.1 [code.2] 0 (other.1++text.flatMap (escape (code::codes)))=other.1++_
   rw [hother,List.cons_append] at hmiss ⊢
   rw [replace_miss hmiss,hname,replace_pass hotherPlain]
   rfl

theorem replace_none {pattern new:Text} (h:¬pattern <:+: text) : replace pattern new 0 text=text:=by
 induction text with
 | nil=>rfl
 | cons char text ih=>
  rw [replace_miss fun hbegins=>h hbegins.isInfix,
   ih fun hinner=>h (hinner.trans (List.suffix_cons char text).isInfix)]

theorem unescape_escaped (hcodes:Codes codes) (htext:∀ code∈codes,code.2= '&' ∨ ¬code.1 <:+: text) :
  unescapeAll codes (text.flatMap (escape codes))=text:=by
 induction codes with
 | nil=>exact List.flatMap_singleton' text
 | cons code codes ih=>
  obtain ⟨hhead,htail⟩:=List.forall_mem_cons.mp htext
  change unescapeAll codes (replace code.1 [code.2] 0 _)=text
  rw [replace_escaped hcodes hhead]
  exact ih ⟨fun entity hmem=>hcodes.named entity (List.mem_cons_of_mem _ hmem),
   (List.pairwise_cons.mp hcodes.apart).2⟩ htail

theorem codes_entities : Codes entities :=
 ⟨by simp [entities],by decide⟩

def visible (text:Text) : Text := text.filter fun char=>!isWhitespace char

theorem visible_collapse (newlineRun:ℕ) (space:Bool) (out text:Text) :
  visible (collapse newlineRun space out text)=visible out++visible text:=by
 induction text generalizing newlineRun space out with
 | nil=>exact (List.append_nil _).symm
 | cons char text ih=>
  have hkept:∀ blank:Text,(∀ c∈blank,isWhitespace c=true) → visible (out++blank)=visible out:=by
   intro blank hblank
   unfold visible
   have hnone:blank.filter (fun c=>!isWhitespace c)=[] :=
    List.filter_eq_nil_iff.mpr fun c hc=>by simp [hblank c hc]
   rw [List.filter_append,hnone,List.append_nil]
  have hdropped:isWhitespace char=true → visible (char::text)=visible text:=fun hblank=>
   List.filter_cons_of_neg (by simp [hblank])
  unfold collapse
  split_ifs with hline hrun hblank
  · have hblank:isWhitespace char=true:=by
     rcases hline with rfl | rfl <;> decide
    rw [ih,hkept _ fun c hc=>by rw [List.mem_singleton.mp hc]; rfl,hdropped hblank]
  · have hblank:isWhitespace char=true:=by
     rcases hline with rfl | rfl <;> decide
    rw [ih,hdropped hblank]
  · rw [ih,hdropped hblank]
  · dsimp only
    rw [ih]
    unfold visible
    rw [List.filter_append,List.filter_append,List.filter_cons_of_pos (by simpa using hblank),
     List.filter_cons_of_pos (by simpa using hblank)]
    split_ifs <;> simp [isWhitespace]

theorem visible_trim (text:Text) : visible (trim text)=visible text:=by
 have hstart:∀ text,visible (text.dropWhile isWhitespace)=visible text:=by
  intro text
  induction text with
  | nil=>rfl
  | cons char text ih=>
   rw [List.dropWhile_cons]
   split_ifs with hblank
   · exact ih.trans (List.filter_cons_of_neg (by simp [hblank])).symm
   · rfl
 unfold trim trimStart List.rdropWhile
 have hend:=hstart (text.dropWhile isWhitespace).reverse
 unfold visible at *
 rw [List.filter_reverse,hend,List.filter_reverse,List.reverse_reverse,hstart]

theorem visible_collapseWs (text:Text) : visible (collapseWs text)=visible text:=by
 unfold collapseWs
 rw [visible_trim,visible_collapse]
 rfl

end

end CursorProxy.HtmlTexts
