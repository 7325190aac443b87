import CursorProxy.DelimitedWords
import CursorProxy.JsonValues

/-! The text of a JSON value with the members of its objects in the order of their keys. It
determines the value. -/
namespace CursorProxy.StableJson
open DelimitedWords JsonValues

abbrev Text := List Char

def hexDigits : List Char := "0123456789abcdef".toList

def hexDigit (digit:ℕ) : Char := hexDigits.getD digit '0'

/-- A character within quotes, as `serde_json` writes it. -/
def escape (char:Char) : Text :=
 if char = '"' then ['\\','"']
 else if char = '\\' then ['\\','\\']
 else if char = '\n' then ['\\','n']
 else if char = '\r' then ['\\','r']
 else if char = '\t' then ['\\','t']
 else if char=Char.ofNat 8 then ['\\','b']
 else if char=Char.ofNat 12 then ['\\','f']
 else if char.toNat<32 then
  ['\\','u','0','0',hexDigit (char.toNat / 16),hexDigit (char.toNat % 16)]
 else [char]

def quote (text:String) : Text := '"' :: text.toList.flatMap escape++['"']

def unescapeShort (char:Char) : Char :=
 if char = 'n' then '\n'
 else if char = 'r' then '\r'
 else if char = 't' then '\t'
 else if char = 'b' then Char.ofNat 8
 else if char = 'f' then Char.ofNat 12
 else char

def unescape : Text → Option (Char×Text)
 | []=>none
 | char::rest=>
  if char = '\\' then
   match rest with
   | []=>none
   | short::rest=>
    if short = 'u' then
     match rest with
     | _::_::high::low::rest=>
      some (Char.ofNat (16*hexDigits.idxOf high+hexDigits.idxOf low),rest)
     | _=>none
    else some (unescapeShort short,rest)
  else some (char,rest)

theorem hexDigit_idxOf : ∀ digit<16,hexDigits.idxOf (hexDigit digit)=digit := by decide

theorem unescape_escape (char:Char) (rest:Text) : unescape (escape char++rest)=some (char,rest):=by
 unfold escape
 -- the seven characters that are escaped by a letter
 iterate 7
  split
  · rename_i h
    rw [h]
    rfl
 split
 · rename_i hcontrol
   have hhigh:=hexDigit_idxOf (char.toNat / 16) (by omega)
   have hlow:=hexDigit_idxOf (char.toNat % 16) (by omega)
   change some (Char.ofNat (16*hexDigits.idxOf (hexDigit (char.toNat / 16)) +
    hexDigits.idxOf (hexDigit (char.toNat % 16))),rest)=some (char,rest)
   rw [hhigh,hlow,Nat.div_add_mod,Char.ofNat_toNat]
 · rename_i hslash _ _ _ _ _ _
   change (if char = '\\' then _ else some (char,rest))=some (char,rest)
   rw [if_neg hslash]

theorem escape_opens (char:Char) : Opens (· = '"') (escape char):=by
 unfold escape
 repeat' split
 all_goals first | exact ⟨_,_,rfl,by decide⟩ | exact ⟨_,_,rfl,by assumption⟩

theorem escape_reads {char other:Char} {u v:Text} (h:escape char++u=escape other++v) : char=other ∧ u=v:=by
 have hsame:=congrArg unescape h
 rw [unescape_escape,unescape_escape] at hsame
 exact Prod.mk.inj (Option.some.inj hsame)

theorem escaped_reads (text:Text) : ∀ {other u v:Text},
 text.flatMap escape ++ '"' :: u=other.flatMap escape ++ '"' :: v → text=other ∧ u=v:=by
 have hend:∀ (char:Char) (rest u v:Text),'"' :: u≠(char::rest).flatMap escape ++ '"' :: v:=by
  intro char rest u v heq
  obtain ⟨symbol,tail,hword,hopen⟩:=escape_opens char
  rw [List.flatMap_cons,hword] at heq
  exact hopen (List.cons.inj heq).1.symm
 induction text with
 | nil=>
  intro other u v heq
  cases other with
  | nil=>exact ⟨rfl,(List.cons.inj heq).2⟩
  | cons char rest=>exact absurd heq (hend char rest u v)
 | cons char rest ih=>
  intro other u v heq
  cases other with
  | nil=>exact absurd heq.symm (hend char rest v u)
  | cons char' rest'=>
   rw [List.flatMap_cons,List.flatMap_cons,List.append_assoc,List.append_assoc] at heq
   obtain ⟨rfl,hrest⟩:=escape_reads heq
   obtain ⟨rfl,htail⟩:=ih hrest
   exact ⟨rfl,htail⟩

theorem quote_reads {text other:String} {u v:Text} (h:quote text++u=quote other++v) : text=other ∧ u=v:=by
 unfold quote at h
 rw [List.cons_append,List.cons_append,List.append_assoc,List.append_assoc] at h
 obtain ⟨hsame,htail⟩:=escaped_reads _ (List.cons.inj h).2
 exact ⟨String.toList_inj.mp hsame,htail⟩

def sortedTexts (members:List (String×Text)) : List Text :=
 (members.insertionSort fun first second=>first.1 ≤ second.1).map
  fun member=>quote member.1 ++ ':' :: member.2

mutual

def stableJson : JsonValue → Text
 | .null => "null".toList
 | .bool true => "true".toList
 | .bool false => "false".toList
 | .number text=>text.toList
 | .string text=>quote text
 | .array items => '[' :: joined ',' (stableItems items)++[']']
 | .object members => '\x7b' :: joined ',' (sortedTexts (stableMembers members))++['\x7d']

def stableItems : List JsonValue → List Text
 | []=>[]
 | item::items=>stableJson item::stableItems items

def stableMembers : List (String×JsonValue) → List (String×Text)
 | []=>[]
 | (key,value)::members=>(key,stableJson value)::stableMembers members

end

theorem stableItems_eq (items:List JsonValue) : stableItems items=items.map stableJson:=by
 induction items with
 | nil=>rfl
 | cons item items ih=>exact congrArg (List.cons (stableJson item)) ih

theorem stableMembers_eq (members:List (String×JsonValue)) :
 stableMembers members=members.map fun member=>(member.1,stableJson member.2):=by
 induction members with
 | nil=>rfl
 | cons member members ih=>exact congrArg (List.cons (member.1,stableJson member.2)) ih

/-- `serde_json` writes a number with these. -/
def isNumberChar (char:Char) : Bool := char.isDigit || "+-.eE".toList.contains char

def closes (char:Char) : Bool := ",]\x7d".toList.contains char

/-- A number is written, and the keys of an object are in their order, each once. -/
inductive Held : JsonValue → Prop where
 | null : Held .null
 | bool (value:Bool) : Held (.bool value)
 | number {text:String} (hne:text ≠ "")
  (hchars:∀ char∈text.toList,isNumberChar char=true) : Held (.number text)
 | string (text:String) : Held (.string text)
 | array {items:List JsonValue} (hitems:∀ item∈items,Held item) : Held (.array items)
 | object {members:List (String×JsonValue)}
  (hkeys:(members.map Prod.fst).Pairwise (· < ·))
  (hmembers:∀ member∈members,Held member.2) : Held (.object members)

def memberText (member:String×JsonValue) : Text :=
 quote member.1 ++ ':' :: stableJson member.2

theorem stableJson_object {members:List (String×JsonValue)} (hkeys:(members.map Prod.fst).Pairwise (· < ·)) :
 stableJson (.object members) = '\x7b' :: joined ',' (members.map memberText)++['\x7d']:=by
 have hsorted:(stableMembers members).Pairwise fun first second=>first.1 ≤ second.1:=by
  rw [stableMembers_eq,List.pairwise_map]
  exact (List.pairwise_map.mp hkeys).imp fun hlt=>le_of_lt hlt
 have htexts:sortedTexts (stableMembers members)=members.map memberText:=by
  unfold sortedTexts
  rw [List.Pairwise.insertionSort_eq hsorted,stableMembers_eq,List.map_map]
  rfl
 rw [stableJson,htexts]

theorem stableJson_array (items:List JsonValue) :
 stableJson (.array items) = '[' :: joined ',' (items.map stableJson)++[']']:=by
 rw [stableJson,stableItems_eq]

def kind : JsonValue → ℕ
 | .null=>0
 | .bool true=>1
 | .bool false=>2
 | .number _=>3
 | .string _=>4
 | .array _=>5
 | .object _=>6

/-- What the first character of a text tells of the value. -/
def headKind (char:Char) : ℕ :=
 if char = 'n' then 0
 else if char = 't' then 1
 else if char = 'f' then 2
 else if char = '"' then 4
 else if char = '[' then 5
 else if char = '\x7b' then 6
 else 3

theorem numberChar_facts {char:Char} (h:isNumberChar char=true) : headKind char=3 ∧ closes char=false:=by
 have hne:∀ other,isNumberChar other=false → char≠other:=by
  rintro other hother rfl
  rw [h] at hother
  exact absurd hother (by simp)
 constructor
 · unfold headKind
   rw [if_neg (hne _ (by decide)),if_neg (hne _ (by decide)),if_neg (hne _ (by decide)),
    if_neg (hne _ (by decide)),if_neg (hne _ (by decide)),if_neg (hne _ (by decide))]
 · unfold closes
   refine Bool.eq_false_iff.mpr fun hcloses=>?_
   have hmem:char ∈ ",]\x7d".toList:=List.contains_iff_mem.mp hcloses
   have hall:(",]\x7d".toList.all fun other=>!isNumberChar other)=true:=by decide +kernel
   have hother:=List.all_eq_true.mp hall char hmem
   rw [h] at hother
   exact Bool.false_ne_true hother

theorem stableJson_head {value:JsonValue} (h:Held value) :
 ∃ char tail,stableJson value=char::tail ∧ headKind char=kind value ∧ closes char=false:=by
 cases h with
 | null=>exact ⟨'n',_,by rw [stableJson]; rfl,by decide,by decide⟩
 | bool value=>
  cases value with
  | true=>exact ⟨'t',_,by rw [stableJson]; rfl,by decide,by decide⟩
  | false=>exact ⟨'f',_,by rw [stableJson]; rfl,by decide,by decide⟩
 | @number text hne hchars=>
  cases htext:text.toList with
  | nil=>exact absurd (String.toList_eq_nil_iff.mp htext) hne
  | cons char tail=>
   rw [htext] at hchars
   obtain ⟨hkind,hcloses⟩:=numberChar_facts (hchars char List.mem_cons_self)
   exact ⟨char,tail,by rw [stableJson,htext],hkind,hcloses⟩
 | string text=>exact ⟨'"',_,by rw [stableJson]; rfl,by simp [headKind,kind],by decide⟩
 | array=>exact ⟨'[',_,stableJson_array _,by simp [headKind,kind],by decide⟩
 | object hkeys=>
  exact ⟨'\x7b',_,stableJson_object hkeys,by simp [headKind,kind],by decide⟩

theorem memberText_reads {members:List (String×JsonValue)}
 (h:∀ member∈members,Held member.2 ∧ Reads (closes ·=true) Held stableJson member.2) :
 ∀ member∈members,Held member.2 ∧
  Reads (closes ·=true) (fun member:String×JsonValue=>Held member.2) memberText
   member:=by
 rintro ⟨key,value⟩ hmember
 obtain ⟨hheld,hreads⟩:=h _ hmember
 refine ⟨hheld,?_⟩
 rintro ⟨key',value'⟩ hheld' u v hu hv heq
 unfold memberText at heq
 rw [List.append_assoc,List.append_assoc] at heq
 obtain ⟨rfl,hrest⟩:=quote_reads heq
 obtain ⟨rfl,htail⟩:=hreads value' hheld' u v hu hv (List.cons.inj hrest).2
 exact ⟨rfl,htail⟩

theorem kinds_eq {value other:JsonValue} (h:Held value) (h':Held other) {u v:Text}
 (heq:stableJson value++u=stableJson other++v) : kind value=kind other:=by
 obtain ⟨char,tail,hword,hkind,_⟩:=stableJson_head h
 obtain ⟨char',tail',hword',hkind',_⟩:=stableJson_head h'
 rw [hword,hword'] at heq
 rw [← hkind,← hkind',(List.cons.inj heq).1]

theorem stableJson_reads {value:JsonValue} (h:Held value) : Reads (closes ·=true) Held stableJson value:=by
 have hopens:∀ item,Held item → Opens (closes ·=true) (stableJson item):=by
  intro item hitem
  obtain ⟨char,tail,hword,_,hcloses⟩:=stableJson_head hitem
  exact ⟨char,tail,hword,fun hclose=>Bool.false_ne_true (hcloses.symm.trans hclose)⟩
 induction h with
 | null=>
  intro other hother u v _ _ heq
  have hkind:=kinds_eq .null hother heq
  cases other with
  | null=>exact ⟨rfl,List.append_cancel_left heq⟩
  | bool value=>cases value <;> exact absurd hkind (by decide)
  | _=>exact absurd hkind (by simp [kind])
 | bool value=>
  intro other hother u v _ _ heq
  have hkind:=kinds_eq (.bool value) hother heq
  cases other with
  | bool value'=>
   cases value <;> cases value' <;>
    first | exact ⟨rfl,List.append_cancel_left heq⟩ | exact absurd hkind (by decide)
  | _=>cases value <;> exact absurd hkind (by simp [kind])
 | number hne hchars=>
  intro other hother u v hu hv heq
  have hkind:=kinds_eq (.number hne hchars) hother heq
  cases hother with
  | number hne' hchars'=>
   rw [stableJson,stableJson] at heq
   have hinner:∀ char,isNumberChar char=true → ¬closes char=true:=by
    intro char hchar
    rw [(numberChar_facts hchar).2]
    exact Bool.false_ne_true
   obtain ⟨hsame,hrest⟩:=alphabet_reads hinner _ _ u v hchars hchars' hu hv heq
   exact ⟨congrArg JsonValue.number (String.toList_inj.mp hsame),hrest⟩
  | bool value=>cases value <;> exact absurd hkind (by simp [kind])
  | _=>exact absurd hkind (by simp [kind])
 | string text=>
  intro other hother u v _ _ heq
  have hkind:=kinds_eq (.string text) hother heq
  cases hother with
  | string text'=>
   rw [stableJson,stableJson] at heq
   obtain ⟨rfl,hrest⟩:=quote_reads heq
   exact ⟨rfl,hrest⟩
  | bool value=>cases value <;> exact absurd hkind (by simp [kind])
  | _=>exact absurd hkind (by simp [kind])
 | @array items hitems ih=>
  intro other hother u v _ _ heq
  have hkind:=kinds_eq (.array hitems) hother heq
  cases hother with
  | @array items' hitems'=>
   rw [stableJson_array,stableJson_array,List.cons_append,List.cons_append,
    List.append_assoc,List.append_assoc] at heq
   obtain ⟨rfl,hrest⟩:=joined_reads (by decide) (by decide) (by decide) hopens items items'
    u v (fun item hitem=>⟨hitems item hitem,ih item hitem⟩) hitems' (List.cons.inj heq).2
   exact ⟨rfl,hrest⟩
  | bool value=>cases value <;> exact absurd hkind (by simp [kind])
  | _=>exact absurd hkind (by simp [kind])
 | @object members hkeys hmembers ih=>
  intro other hother u v _ _ heq
  have hkind:=kinds_eq (.object hkeys hmembers) hother heq
  cases hother with
  | @object members' hkeys' hmembers'=>
   rw [stableJson_object hkeys,stableJson_object hkeys',List.cons_append,List.cons_append,
    List.append_assoc,List.append_assoc] at heq
   have hquoted:∀ member:String×JsonValue,Held member.2 → Opens (closes ·=true) (memberText member) :=
    fun member _=>⟨'"',_,rfl,by decide⟩
   obtain ⟨rfl,hrest⟩:=joined_reads (by decide) (by decide) (by decide) hquoted members
    members' u v (memberText_reads fun member hmember=>
     ⟨hmembers member hmember,ih member hmember⟩) hmembers' (List.cons.inj heq).2
   exact ⟨rfl,hrest⟩
  | bool value=>cases value <;> exact absurd hkind (by simp [kind])
  | _=>exact absurd hkind (by simp [kind])

theorem stableJson_injective {value other:JsonValue} (h:Held value) (h':Held other)
 (heq:stableJson value=stableJson other) : value=other:=by
 have hnil:Closed (closes ·=true) []:=fun _ hsymbol=>absurd hsymbol (by simp)
 refine (stableJson_reads h other h' [] [] hnil hnil ?_).1
 rw [heq]

end CursorProxy.StableJson
